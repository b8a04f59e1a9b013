import MeteredScript.Host.Session
import MeteredScript.Proofs.Unpacking.Assignment

/-!
# Putting a value together again

A target that takes a value apart is an expression too. Evaluated where its names are bound, it
gives a value with the arrangement of the target: a tuple for each of its tuples, a new list for
each of its lists, and for each name the very item that the name is bound to (`Rebuilds`).
`unpacking_inverts_building` puts this together with what the assignment does.

The lists are placed from the inside out. What was built early is looked at much later, on a heap
with more lists, so that `eval_rebuilds` speaks of all the heaps that may come
(`Heap.MoreLists`).
-/

namespace MeteredScript

open Eval

variable {ev : Evaluator} {scope : ScopeId} {m n : Machine} {h old later : Heap} {e : Expr}
  {ts : List Expr} {v w : Value} {vs ws : List Value} {x : String}
  {T : List Nat → Option Expr} {V B : List Nat → Option Value}

/-! ## Heaps with more lists -/

/-- **A later heap has all that an earlier one has**, and lists besides. -/
def Heap.MoreLists (before after : Heap) : Prop :=
  ∃ new, after = { before with lists := before.lists ++ new }

namespace Heap.MoreLists

variable {before after : Heap}

theorem refl (h : Heap) : h.MoreLists h := ⟨#[], by simp⟩

theorem trans (first : h.MoreLists before) (second : before.MoreLists after) :
    h.MoreLists after := by
  obtain ⟨new, rfl⟩ := first
  obtain ⟨new', rfl⟩ := second
  exact ⟨new ++ new', by simp⟩

theorem newList (h : Heap) (items : Array Value) : h.MoreLists (h.newList items).2 :=
  ⟨#[items], by simp [Heap.newList]⟩

theorem size_le (more : before.MoreLists after) : before.lists.size ≤ after.lists.size := by
  obtain ⟨new, rfl⟩ := more
  simp

/-- Lists that are there stay as they are. -/
theorem list_eq (more : before.MoreLists after) {id : ListId}
    (there : id.index < before.lists.size) : after.list id = before.list id := by
  obtain ⟨new, rfl⟩ := more
  simp [Heap.list, Array.getD_eq_getD_getElem?, Array.getElem?_append_left there]

end Heap.MoreLists

/-! ## Values with the arrangement of a target -/

mutual

/-- How many expressions a target consists of. -/
def Expr.nodes : Expr → Nat
  | .tuple parts | .list parts => 1 + nodesAmong parts
  | _ => 1

/-- How many expressions several targets consist of. -/
def nodesAmong : List Expr → Nat
  | [] => 0
  | e :: es => e.nodes + nodesAmong es

end

theorem Expr.nodes_of_display (shown : e.display? = some ts) : e.nodes = 1 + nodesAmong ts := by
  cases e with
  | tuple parts | list parts =>
    cases shown
    rw [nodes]
  | _ => cases shown

theorem nodes_le_nodesAmong {t : Expr} (mem : t ∈ ts) : t.nodes ≤ nodesAmong ts := by
  induction mem with
  | head => exact Nat.le_add_right _ _
  | tail _ _ ih => exact Nat.le_trans ih (Nat.le_add_left _ _)

/-- **A value is arranged like a target**, with given items in the place of its names. Its lists
are new. -/
structure Rebuilds (old later : Heap) (T : List Nat → Option Expr)
    (V B : List Nat → Option Value) : Prop where
  /-- Where the target has a name, there is the very item. -/
  name (p : List Nat) (x : String) : T p = some (.name x) → B p = V p
  /-- Where it has a tuple, there is a tuple of as many items. -/
  tuple (p : List Nat) (parts : List Expr) : T p = some (.tuple parts) →
    ∃ items, B p = some (.tuple items) ∧ items.length = parts.length
  /-- Where it has a list, there is a new list of as many items. -/
  list (p : List Nat) (parts : List Expr) : T p = some (.list parts) →
    ∃ id, B p = some (.list id) ∧ (later.list id).size = parts.length ∧
      old.lists.size ≤ id.index

namespace Rebuilds

theorem nil : Rebuilds old later (partAmong? Expr.display? []) V
    (partAmong? (Value.items? later) []) where
  name := by simp
  tuple := by simp
  list := by simp

/-- Parts that are arranged like targets, one after the other. -/
theorem cons {t : Expr} (first : Rebuilds old later t.part? (fun p => V (0 :: p)) (w.part? later))
    (rest : Rebuilds old later (partAmong? Expr.display? ts) (fun p => V (p.modifyHead (· + 1)))
      (partAmong? (Value.items? later) ws)) :
    Rebuilds old later (partAmong? Expr.display? (t :: ts)) V
      (partAmong? (Value.items? later) (w :: ws)) where
  name
    | [], _, there => nomatch there
    | 0 :: p, x, there => by simpa using first.name p x (by simpa using there)
    | (i + 1) :: p, x, there => by simpa using rest.name (i :: p) x (by simpa using there)
  tuple
    | [], _, there => nomatch there
    | 0 :: p, parts, there => by simpa using first.tuple p parts (by simpa using there)
    | (i + 1) :: p, parts, there => by simpa using rest.tuple (i :: p) parts (by simpa using there)
  list
    | [], _, there => nomatch there
    | 0 :: p, parts, there => by simpa using first.list p parts (by simpa using there)
    | (i + 1) :: p, parts, there => by simpa using rest.list (i :: p) parts (by simpa using there)

/-- The tuple of such parts. -/
theorem ofTuple (same : ws.length = ts.length)
    (inside : Rebuilds old later (partAmong? Expr.display? ts) V
      (partAmong? (Value.items? later) ws)) :
    Rebuilds old later (Expr.tuple ts).part? V ((Value.tuple ws).part? later) where
  name
    | [], _, there => nomatch there
    | i :: p, x, there => inside.name (i :: p) x there
  tuple
    | [], parts, there => by
      cases there
      exact ⟨ws, rfl, same⟩
    | i :: p, parts, there => inside.tuple (i :: p) parts there
  list
    | [], _, there => nomatch there
    | i :: p, parts, there => inside.list (i :: p) parts there

/-- A new list of such parts. -/
theorem ofList {id : ListId} (held : later.list id = ws.toArray) (new : old.lists.size ≤ id.index)
    (same : ws.length = ts.length)
    (inside : Rebuilds old later (partAmong? Expr.display? ts) V
      (partAmong? (Value.items? later) ws)) :
    Rebuilds old later (Expr.list ts).part? V ((Value.list id).part? later) := by
  have items : (Value.list id).items? later = some ws := by
    show some ((later.list id).toList.drop 0) = some ws
    simp [held]
  have deeper i p : (Value.list id).part? later (i :: p)
      = partAmong? (Value.items? later) ws (i :: p) := partAt?_cons items
  constructor
  case name =>
    rintro (_ | ⟨i, p⟩) x there
    · cases there
    · rw [deeper]
      exact inside.name (i :: p) x there
  case tuple =>
    rintro (_ | ⟨i, p⟩) parts there
    · cases there
    · rw [deeper]
      exact inside.tuple (i :: p) parts there
  case list =>
    rintro (_ | ⟨i, p⟩) parts there
    · cases there
      exact ⟨id, rfl, by simp [held, same], new⟩
    · rw [deeper]
      exact inside.list (i :: p) parts there

end Rebuilds

/-! ## Evaluating a target -/

/-- The names of a target are bound to items, at each of their positions. -/
def NamesBound (scope : ScopeId) (n : Machine) (T : List Nat → Option Expr)
    (V : List Nat → Option Value) : Prop :=
  ∀ p x, T p = some (.name x) → ∃ v, V p = some v ∧ n.scopes.find? scope x = some v

/-- An evaluation gives a value that is arranged like a target. -/
def GivesRebuilt (old : Heap) (n : Machine) (T : List Nat → Option Expr)
    (V : List Nat → Option Value) (price : Nat) (x : Eval Value) : Prop :=
  ∃ built heap gas, x.on n = (.ok built, { n with heap, gas }) ∧ gas ≤ n.gas + price ∧
    n.heap.MoreLists heap ∧
    ∀ later, heap.MoreLists later → Rebuilds old later T V (built.part? later)

theorem evalAll_rebuilds (ev : Evaluator) (old : Heap)
    (each : ∀ t ∈ ts, ∀ {n V}, n.gas + t.nodes ≤ n.config.gasLimit →
      old.lists.size ≤ n.heap.lists.size → NamesBound scope n t.part? V →
      GivesRebuilt old n t.part? V t.nodes (ev.eval t scope))
    (gas : n.gas + nodesAmong ts ≤ n.config.gasLimit) (since : old.lists.size ≤ n.heap.lists.size)
    (names : NamesBound scope n (partAmong? Expr.display? ts) V) :
    ∃ builts heap gas, (ev.evalAll scope ts).on n = (.ok builts, { n with heap, gas }) ∧
      gas ≤ n.gas + nodesAmong ts ∧ n.heap.MoreLists heap ∧ builts.length = ts.length ∧
      ∀ later, heap.MoreLists later → Rebuilds old later (partAmong? Expr.display? ts) V
        (partAmong? (Value.items? later) builts) := by
  induction ts generalizing n V with
  | nil => exact ⟨[], n.heap, n.gas, rfl, Nat.le_refl _, .refl _, rfl, fun _ _ => .nil⟩
  | cons t ts ih =>
    rw [nodesAmong] at gas ⊢
    obtain ⟨built, heap, gas', evaluated, price, more, rebuilds⟩ :=
      each t List.mem_cons_self (V := fun p => V (0 :: p)) (by omega) since
        fun p x there => names (0 :: p) x (by simpa using there)
    obtain ⟨builts, heap', gas'', evaluated', price', more', same, rebuilds'⟩ :=
      ih (n := { n with heap, gas := gas' }) (V := fun p => V (p.modifyHead (· + 1)))
        (fun t' mem => each t' (List.mem_cons_of_mem t mem)) (by dsimp only; omega)
        (Nat.le_trans since more.size_le) fun
          | [], _, there => nomatch there
          | i :: p, x, there => names ((i + 1) :: p) x (by simpa using there)
    dsimp only at price'
    refine ⟨built :: builts, heap', gas'', ?_, by omega, more.trans more', by simp [same],
      fun later still => .cons (rebuilds later (more'.trans still)) (rebuilds' later still)⟩
    rw [Evaluator.evalAll, on_bind_ok evaluated, on_bind_ok evaluated']
    rfl

/-- Each level of an evaluation costs one unit of gas. -/
theorem on_eval_bounded (k : Nat) (e : Expr) (scope : ScopeId) {n : Machine}
    (gas : n.gas < n.config.gasLimit) :
    ∃ gas ≤ n.gas + 1, ((Evaluator.bounded (k + 1)).eval e scope).on n =
      (evalForm (.bounded k) scope e).on { n with gas } := by
  obtain ⟨r, gas', paid, once, -, enough⟩ := on_tick n
  obtain rfl := enough gas
  exact ⟨gas', once, on_bind_ok paid _⟩

/-- **A target is evaluated to a value that is arranged like it.** -/
theorem eval_rebuilds (layout : e.IsLayout) {k : Nat} {n : Machine} {V : List Nat → Option Value}
    (levels : e.nodes ≤ k) (gas : n.gas + e.nodes ≤ n.config.gasLimit)
    (since : old.lists.size ≤ n.heap.lists.size) (names : NamesBound scope n e.part? V) :
    GivesRebuilt old n e.part? V e.nodes ((Evaluator.bounded k).eval e scope) := by
  induction layout generalizing k n V with
  | name id =>
    obtain ⟨k, rfl⟩ := Nat.exists_eq_add_of_le' levels
    obtain ⟨gas', once, ticked⟩ := on_eval_bounded k (.name id) scope gas
    obtain ⟨v, item, found⟩ := names [] id rfl
    have looked : (lookup scope id).on { n with gas := gas' } = (.ok v, { n with gas := gas' }) :=
      on_lookup_of_some found
    refine ⟨v, n.heap, gas', ticked.trans looked, once, .refl _, fun later _ => ?_⟩
    constructor
    case name =>
      intro p x there
      obtain ⟨rfl, -⟩ := Unpacks.part?_name.1 there
      exact item.symm
    all_goals
      intro p parts there
      cases (Unpacks.part?_name.1 there).2
  | @display e ts shown each ih =>
    have nodes := Expr.nodes_of_display shown
    obtain ⟨k, rfl⟩ : ∃ k', k = k' + 1 := Nat.exists_eq_add_one.2 (by omega)
    obtain ⟨gas', once, ticked⟩ := on_eval_bounded (n := n) k e scope (by omega)
    obtain ⟨builts, heap, gas'', evaluated, price, more, same, rebuilds⟩ :=
      evalAll_rebuilds (.bounded k) old (n := { n with gas := gas' }) (V := V)
        (fun t mem _ _ => ih t mem (Nat.le_trans (nodes_le_nodesAmong mem) (by omega)))
        (Nat.le_trans (by dsimp only; omega) gas) since fun
          | [], _, there => nomatch there
          | i :: p, x, there => names (i :: p) x ((partAt?_cons shown).trans there)
    dsimp only at price more
    cases e with
    | tuple parts =>
      cases shown
      refine ⟨.tuple builts, heap, gas'', ?_, by omega, more,
        fun later still => .ofTuple same (rebuilds later still)⟩
      rw [ticked, evalForm, on_bind_ok evaluated, on_pure]
    | list parts =>
      cases shown
      refine ⟨.list ⟨heap.lists.size⟩, (heap.newList builts.toArray).2, gas'', ?_, by omega,
        more.trans (.newList _ _), fun later still => ?_⟩
      · rw [ticked, evalForm, on_bind_ok evaluated]
        rfl
      · have held : later.list ⟨heap.lists.size⟩ = builts.toArray := by
          rw [still.list_eq (by simp [Heap.newList])]
          exact heap.list_newList_self _
        exact .ofList held (Nat.le_trans since more.size_le) same
          (rebuilds later ((Heap.MoreLists.newList _ _).trans still))
    | _ => cases shown

/-! ## Both directions -/

/-- **Unpacking is the inverse of building**, on some machine: what an assignment of a value to a
target comes to. -/
structure InvertsBuilding (scope : ScopeId) (m : Machine) (target : Expr) (value : Value)
    (run : Except Stop Unit × Machine) : Prop where
  /-- Nothing but bindings and the gas is changed. -/
  keeps : run.2 = { m with scopes := run.2.scopes, gas := run.2.gas }
  /-- It succeeds exactly if there are as many items as targets at every position where the target
  is a tuple or list. -/
  succeeds : run.1 = .ok () ↔ ∀ p count, targetsAt? target.part? p = some count →
    itemsAt? m.heap (value.part? m.heap) p = some count
  /-- Then all names are bound to the items at their positions, and nothing else is. -/
  binds : run.1 = .ok () →
    BindsReached scope target.part? (value.part? m.heap) none m.scopes run.2.scopes
  /-- Evaluating the target gives these items again, in the arrangement of the target. -/
  rebuilds : run.1 = .ok () → ∀ levels, target.nodes ≤ levels →
    run.2.gas + target.nodes ≤ m.config.gasLimit →
    ∃ built n, ((Evaluator.bounded levels).eval target scope).on run.2 = (.ok built, n) ∧
      m.heap.MoreLists n.heap ∧
      Rebuilds m.heap n.heap target.part? (value.part? m.heap) (built.part? n.heap)
  /-- Otherwise the first position is reported where the numbers differ, and the names before it
  are bound, and nothing else is. -/
  fails (s : Stop) : run.1 = .error s → ∃ c : Clash, s = .fault c.fault ∧
    c.Holds m.heap target.part? (value.part? m.heap) ∧
    (∀ c' : Clash, c'.Holds m.heap target.part? (value.part? m.heap) →
      ¬ c'.position < c.position) ∧
    BindsReached scope target.part? (value.part? m.heap) (some c) m.scopes run.2.scopes

/-- **Unpacking assignment inverts the building of tuples and lists.** -/
theorem unpacking_inverts_building {target : Expr} {value : Value} (layout : target.IsLayout)
    (apart : target.names.Nodup)
    (containers : TakesContainers target.part? (value.part? m.heap))
    (inside : scope.index < m.scopes.scopes.size)
    (rounds : target.itemsTaken m.heap value < ev.rounds)
    (gas : m.gas + target.itemsTaken m.heap value ≤ m.config.gasLimit) :
    InvertsBuilding scope m target value ((assignTarget ev scope target value).on m) := by
  have takes : TakesApart scope m target.part? (value.part? m.heap) (target.itemsTaken m.heap value)
      (assignTarget ev scope target value) :=
    assignTarget_takesApart layout containers rounds gas
  obtain ⟨bound, stop, gas', run, -, unpacks⟩ := takes
  have binds := unpacks.bindsReached (layout.namesApart apart) inside
  rw [run]
  cases stop with
  | none =>
    refine ⟨rfl, ⟨fun _ p count => unpacks.matched p count trivial, fun _ => rfl⟩,
      fun _ => binds, fun _ k levels enough => ?_, nofun⟩
    have names : NamesBound scope { m.binding scope bound with gas := gas' } target.part?
        (value.part? m.heap) := fun p x there => by
      obtain ⟨v, item, found⟩ := binds.names p x trivial there
      exact ⟨v, item, ScopeTree.find?_of_findLocal? _ _ found⟩
    obtain ⟨built, heap, gas'', evaluated, -, more, rebuilds⟩ :=
      eval_rebuilds layout levels enough (Nat.le_refl _) names
    exact ⟨built, _, evaluated, more, rebuilds heap (.refl heap)⟩
  | some c =>
    have holds := unpacks.stopped c rfl
    refine ⟨rfl, ⟨nofun, fun all => ?_⟩, nofun, nofun, ?_⟩
    · have same := all c.position c.targets holds.targets
      exact absurd (Option.some.inj (same.symm.trans holds.items)) holds.differ
    · rintro s ⟨⟩
      refine ⟨c, rfl, holds, fun c' holds' before => ?_, binds⟩
      have same := unpacks.matched c'.position c'.targets before holds'.targets
      exact holds'.differ (Option.some.inj (same.symm.trans holds'.items))

/-- The target of `a, [b, c] = ...`. -/
def nestedTarget : Expr := .tuple [.name "a", .list [.name "b", .name "c"]]

/-- A number and a string of two letters are taken apart in the scope of a new session. -/
theorem letters_unpacked :
    let s := Session.start .standard
    let value := Value.tuple [.int 1, .str "xy"]
    nestedTarget.IsLayout ∧ nestedTarget.names.Nodup ∧
      TakesContainers nestedTarget.part? (value.part? s.machine.heap) ∧
      InvertsBuilding s.globals s.machine nestedTarget value
        ((assignTarget (.bounded 5) s.globals nestedTarget value).on s.machine) := by
  intro s value
  have layout : nestedTarget.IsLayout := by
    refine .display rfl fun t mem => ?_
    rcases List.mem_pair.1 mem with rfl | rfl
    · exact .name _
    · refine .display rfl fun t mem => ?_
      rcases List.mem_pair.1 mem with rfl | rfl <;> exact .name _
  have apart : nestedTarget.names.Nodup := by decide
  have containers : TakesContainers nestedTarget.part? (value.part? s.machine.heap) := by
    refine (TakesContainers.display_iff rfl rfl).2 ⟨rfl, TakesContainers.cons_iff.2 ⟨.name _ _, ?_⟩⟩
    refine TakesContainers.cons_iff.2 ⟨(TakesContainers.display_iff rfl rfl).2 ⟨rfl, ?_⟩, .nil _⟩
    exact TakesContainers.cons_iff.2 ⟨.name _ _, TakesContainers.cons_iff.2 ⟨.name _ _, .nil _⟩⟩
  exact ⟨layout, apart, containers, unpacking_inverts_building layout apart containers
    (by decide) (by decide) (by decide)⟩

end MeteredScript
