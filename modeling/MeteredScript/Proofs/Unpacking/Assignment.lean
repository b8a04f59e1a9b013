import MeteredScript.Proofs.Mutation.ReadBack
import MeteredScript.Proofs.Selection.Choice
import MeteredScript.Proofs.Unpacking.Position

/-!
# Taking a value apart

An assignment to a tuple or list of targets collects the items of the value, counts them, and
goes on with the parts from the left. `assignTarget_takesApart` follows it along the target and
arrives at the description by positions. Nothing but the scope is changed on the way, apart from
the gas, so that every part finds the containers as they were at the start.

Where no name stands twice, the bindings that are made can be read off the scope afterwards
(`takesApart_bindings`).
-/

namespace MeteredScript

open Eval

variable {ev : Evaluator} {scope : ScopeId} {m : Machine} {h : Heap} {e : Expr} {ts : List Expr}
  {v : Value} {vs : List Value} {x : String}

/-! ## What it costs -/

mutual

/-- **How many items an assignment looks at**: those of every value that is taken apart. An item
costs one unit of gas or nothing. -/
def Expr.itemsTaken (h : Heap) : Expr → Value → Nat
  | .tuple parts, v | .list parts, v =>
    let items := (v.items? h).getD []
    items.length + itemsTakenAmong h parts items
  | _, _ => 0

/-- The same for several targets and their items. -/
def itemsTakenAmong (h : Heap) : List Expr → List Value → Nat
  | t :: ts, v :: vs => t.itemsTaken h v + itemsTakenAmong h ts vs
  | _, _ => 0

end

theorem Expr.itemsTaken_of_display (shown : e.display? = some ts) (items : v.items? h = some vs) :
    e.itemsTaken h v = vs.length + itemsTakenAmong h ts vs := by
  cases e with
  | tuple parts | list parts =>
    cases shown
    simp [itemsTaken, items]
  | _ => cases shown

/-! ## The assignment -/

/-- How an assignment ends. -/
def Clash.outcome : Option Clash → Except Stop Unit
  | none => .ok ()
  | some c => .error (.fault c.fault)

/-- **An evaluation takes items apart** as the targets say: it binds the names it gets to, uses no
more gas than it may, and ends where the numbers differ. -/
def TakesApart (scope : ScopeId) (m : Machine) (T : List Nat → Option Expr)
    (V : List Nat → Option Value) (price : Nat) (x : Eval Unit) : Prop :=
  ∃ bound stop gas, x.on m = (Clash.outcome stop, { m.binding scope bound with gas }) ∧
    gas ≤ m.gas + price ∧ Unpacks m.heap T V bound stop

/-- What is taken apart consists of containers. -/
def TakesContainers (T : List Nat → Option Expr) (V : List Nat → Option Value) : Prop :=
  ∀ p v, (targetsAt? T p).isSome → V p = some v → v.isContainer = true

namespace TakesContainers

theorem name (x : String) (V : List Nat → Option Value) :
    TakesContainers (Expr.name x).part? V := by
  intro p _ target
  obtain ⟨parts, shown⟩ := Option.isSome_iff_exists.1 (Option.isSome_map.symm.trans target)
  obtain ⟨e, there, shown⟩ := Option.bind_eq_some_iff.1 shown
  obtain ⟨-, rfl⟩ := Unpacks.part?_name.1 there
  cases shown

theorem nil (V : List Nat → Option Value) :
    TakesContainers (partAmong? Expr.display? []) V :=
  fun p _ target => by simp [targetsAt?] at target

theorem cons_iff {t : Expr} :
    TakesContainers (partAmong? Expr.display? (t :: ts)) (partAmong? (Value.items? h) (v :: vs)) ↔
      TakesContainers t.part? (v.part? h) ∧
        TakesContainers (partAmong? Expr.display? ts) (partAmong? (Value.items? h) vs) := by
  constructor
  · refine fun containers => ⟨fun p w target item => ?_, ?_⟩
    · exact containers (0 :: p) w (by simpa [targetsAt?] using target) (by simpa using item)
    · rintro (_ | ⟨i, p⟩) w target item
      · cases target
      · exact containers ((i + 1) :: p) w (by simpa [targetsAt?] using target)
          (by simpa using item)
  · rintro ⟨first, rest⟩ (_ | ⟨_ | i, p⟩) w target item
    · cases target
    · exact first p w (by simpa [targetsAt?] using target) (by simpa using item)
    · exact rest (i :: p) w (by simpa [targetsAt?] using target) (by simpa using item)

theorem display_iff (shown : e.display? = some ts) (items : v.items? h = some vs) :
    TakesContainers e.part? (v.part? h) ↔ v.isContainer = true ∧
      TakesContainers (partAmong? Expr.display? ts) (partAmong? (Value.items? h) vs) := by
  constructor
  · refine fun containers => ⟨containers [] v (by simp [targetsAt?, shown]) rfl, ?_⟩
    rintro (_ | ⟨i, p⟩) w target item
    · cases target
    · rw [← partAt?_cons items] at item
      rw [targetsAt?, ← partAt?_cons shown] at target
      exact containers (i :: p) w target item
  · rintro ⟨container, inside⟩ (_ | ⟨i, p⟩) w target item
    · cases item
      exact container
    · rw [Value.part?, partAt?_cons items] at item
      rw [targetsAt?, Expr.part?, partAt?_cons shown] at target
      exact inside (i :: p) w target item

end TakesContainers

theorem assignTarget_of_display (shown : e.display? = some ts) :
    assignTarget ev scope e v = unpackItems ev v ts.length >>= assignEach ev scope ts := by
  cases e with
  | tuple parts | list parts =>
    cases shown
    rw [assignTarget]
  | _ => cases shown

/-- Items are handed on if there are as many as targets, and else the number that is wrong is
reported. -/
theorem on_unpackItems (ev : Evaluator) (targets : Nat) (items : v.items? m.heap = some vs)
    (rounds : vs.length < ev.rounds) (gas : m.gas + vs.length ≤ m.config.gasLimit) :
    ∃ gas ≤ m.gas + vs.length, (unpackItems ev v targets).on m =
      (if targets = vs.length then .ok vs else .error (.fault (Clash.fault ⟨[], targets, vs.length⟩)),
        { m with gas }) := by
  obtain ⟨r, gas', collected, price, -, enough⟩ := ev.exists_on_collect items
  obtain rfl := enough rounds gas
  refine ⟨gas', price, ?_⟩
  rw [unpackItems, on_bind_ok collected, List.size_toArray]
  rcases Nat.lt_trichotomy targets vs.length with few | same | many
  · rw [require, if_neg (Nat.not_le.2 few), if_neg (Nat.ne_of_lt few), Clash.fault, if_pos few]
    rfl
  · rw [require, if_pos (Nat.le_of_eq same.symm), require, if_pos (Nat.le_of_eq same),
      if_pos same]
    rfl
  · rw [require, if_pos (Nat.le_of_lt many), require, if_neg (Nat.not_le.2 many),
      if_neg (Nat.ne_of_gt many), Clash.fault, if_neg (Nat.not_lt.2 (Nat.le_of_lt many))]
    rfl

/-- A machine that binds names keeps everything but its scopes. -/
theorem binding_append (scope : ScopeId) (bound₁ bound₂ : List (String × Value)) (gas gas' : Nat) :
    { ({ m.binding scope bound₁ with gas } : Machine).binding scope bound₂ with gas := gas' } =
      { m.binding scope (bound₁ ++ bound₂) with gas := gas' } := by
  simp [Machine.binding, List.foldl_append]

/-- **The parts are taken on one after the other.** -/
theorem assignEach_takesApart
    (each : ∀ t ∈ ts, ∀ {v m}, TakesContainers t.part? (v.part? m.heap) →
      t.itemsTaken m.heap v < ev.rounds → m.gas + t.itemsTaken m.heap v ≤ m.config.gasLimit →
      TakesApart scope m t.part? (v.part? m.heap) (t.itemsTaken m.heap v)
        (assignTarget ev scope t v))
    (same : ts.length = vs.length)
    (containers : TakesContainers (partAmong? Expr.display? ts)
      (partAmong? (Value.items? m.heap) vs))
    (rounds : itemsTakenAmong m.heap ts vs < ev.rounds)
    (gas : m.gas + itemsTakenAmong m.heap ts vs ≤ m.config.gasLimit) :
    TakesApart scope m (partAmong? Expr.display? ts) (partAmong? (Value.items? m.heap) vs)
      (itemsTakenAmong m.heap ts vs) (assignEach ev scope ts vs) := by
  induction ts generalizing vs m with
  | nil =>
    obtain rfl := List.eq_nil_of_length_eq_zero same.symm
    exact ⟨[], none, m.gas, by unfold assignEach; rfl, Nat.le_refl _, .nil⟩
  | cons t ts ih =>
    obtain ⟨v, vs, rfl⟩ := List.exists_cons_of_length_eq_add_one same.symm
    have containers' := TakesContainers.cons_iff.1 containers
    rw [itemsTakenAmong] at rounds gas ⊢
    obtain ⟨bound, stop, gas', assigned, price, unpacks⟩ :=
      each t List.mem_cons_self containers'.1 (by omega) (by omega)
    rw [assignEach]
    cases stop with
    | some c =>
      exact ⟨bound, some c.inFirst, gas', on_bind_error assigned _, by omega, unpacks.stop_first⟩
    | none =>
      have onward := on_bind_ok assigned fun _ => assignEach ev scope ts vs
      obtain ⟨bound', stop, gas'', assigned', price', unpacks'⟩ :=
        ih (m := { m.binding scope bound with gas := gas' })
          (fun t' mem => each t' (List.mem_cons_of_mem t mem)) (Nat.succ.inj same)
          containers'.2 (Nat.lt_of_le_of_lt (Nat.le_add_left _ _) rounds)
          (Nat.le_trans (by dsimp only [Machine.binding]; omega) gas)
      refine ⟨bound ++ bound', stop.map Clash.inRest, gas'', ?_, ?_, unpacks.cons unpacks'⟩
      · rw [onward, assigned', binding_append]
        cases stop <;> rfl
      · dsimp only [Machine.binding] at price'
        omega

/-- **An assignment takes its value apart**, if that consists of containers where the target
consists of displays. -/
theorem assignTarget_takesApart (layout : e.IsLayout) {v : Value} {m : Machine}
    (containers : TakesContainers e.part? (v.part? m.heap))
    (rounds : e.itemsTaken m.heap v < ev.rounds)
    (gas : m.gas + e.itemsTaken m.heap v ≤ m.config.gasLimit) :
    TakesApart scope m e.part? (v.part? m.heap) (e.itemsTaken m.heap v)
      (assignTarget ev scope e v) := by
  induction layout generalizing v m with
  | name id => exact ⟨[(id, v)], none, m.gas, rfl, Nat.le_add_right _ _, .name m.heap id v⟩
  | @display e ts shown each ih =>
    obtain ⟨vs, items⟩ := v.exists_items m.heap (containers [] v (by simp [targetsAt?, shown]) rfl)
    rw [Expr.itemsTaken_of_display shown items] at rounds gas ⊢
    obtain ⟨gas', price, handed⟩ :=
      on_unpackItems ev ts.length items (by omega) (by omega)
    rw [assignTarget_of_display shown]
    by_cases same : ts.length = vs.length
    · rw [if_pos same] at handed
      obtain ⟨bound, stop, gas'', assigned, price', unpacks⟩ :=
        assignEach_takesApart (m := { m with gas := gas' }) ih same
          ((TakesContainers.display_iff shown items).1 containers).2
          (Nat.lt_of_le_of_lt (Nat.le_add_left _ _) rounds)
          (Nat.le_trans (by dsimp only; omega) gas)
      refine ⟨bound, stop, gas'', (on_bind_ok handed _).trans assigned, ?_,
        unpacks.display shown items same⟩
      dsimp only at price'
      omega
    · rw [if_neg same] at handed
      exact ⟨[], some ⟨[], ts.length, vs.length⟩, gas', on_bind_error handed _, by omega,
        .clash shown items same⟩

/-! ## What is bound afterwards -/

section Binding

variable {bound : List (String × Value)}

/-- Names that are not bound mean what they did. -/
theorem findLocal?_binding_of_not_mem {other : ScopeId}
    (unbound : other = scope → ∀ v, (x, v) ∉ bound) (inside : scope.index < m.scopes.scopes.size) :
    (m.binding scope bound).scopes.findLocal? other x = m.scopes.findLocal? other x := by
  induction bound generalizing m with
  | nil => rfl
  | cons b bound ih =>
    obtain ⟨y, w⟩ := b
    have still : scope.index < (m.scopes.define scope y w).scopes.size := by
      simpa [ScopeTree.define] using inside
    refine (ih (m := { m with scopes := m.scopes.define scope y w })
      (fun same v mem => unbound same v (List.mem_cons_of_mem _ mem)) still).trans ?_
    by_cases same : other = scope
    · have different : x ≠ y := fun eq => unbound same w (by simp [eq])
      exact m.scopes.findLocal?_define_of_ne scope different w other
    · rw [ScopeTree.findLocal?, ScopeTree.bindings_define inside, if_neg same]
      rfl

/-- A name that is bound to one value only has this value. -/
theorem findLocal?_binding_of_mem (mem : (x, v) ∈ bound) (once : ∀ w, (x, w) ∈ bound → w = v)
    (inside : scope.index < m.scopes.scopes.size) :
    (m.binding scope bound).scopes.findLocal? scope x = some v := by
  induction bound generalizing m with
  | nil => cases mem
  | cons b bound ih =>
    obtain ⟨y, w⟩ := b
    have still : scope.index < (m.scopes.define scope y w).scopes.size := by
      simpa [ScopeTree.define] using inside
    by_cases again : (x, v) ∈ bound
    · exact ih (m := { m with scopes := m.scopes.define scope y w }) again
        (fun w mem => once w (List.mem_cons_of_mem _ mem)) still
    · obtain ⟨rfl, rfl⟩ : x = y ∧ v = w := by simpa [again] using mem
      have unbound u (mem : (x, u) ∈ bound) : False :=
        again (once u (List.mem_cons_of_mem _ mem) ▸ mem)
      exact (findLocal?_binding_of_not_mem
        (m := { m with scopes := m.scopes.define scope x v }) (fun _ => unbound) still).trans
        (ScopeTree.findLocal?_define_self inside x v)

end Binding

/-- **The names that are reached are bound** to the items at their positions, and nothing else is
bound to anything new. -/
structure BindsReached (scope : ScopeId) (T : List Nat → Option Expr)
    (V : List Nat → Option Value) (stop : Option Clash) (before after : ScopeTree) : Prop where
  names (p : List Nat) (x : String) : Clash.Reached stop p → T p = some (.name x) →
    ∃ v, V p = some v ∧ after.findLocal? scope x = some v
  others (other : ScopeId) (x : String) :
    (other = scope → ∀ p, Clash.Reached stop p → T p ≠ some (.name x)) →
    after.findLocal? other x = before.findLocal? other x

theorem Unpacks.bindsReached {bound : List (String × Value)} {stop : Option Clash}
    (unpacks : Unpacks h e.part? (v.part? h) bound stop) (apart : NamesApart e.part?)
    (inside : scope.index < m.scopes.scopes.size) :
    BindsReached scope e.part? (v.part? h) stop m.scopes (m.binding scope bound).scopes where
  names p x reached there := by
    obtain ⟨w, item⟩ := unpacks.given p x reached there
    refine ⟨w, item, findLocal?_binding_of_mem ((unpacks.bound x w).2 ⟨p, reached, there, item⟩)
      (fun u mem => ?_) inside⟩
    obtain ⟨q, -, there', item'⟩ := (unpacks.bound x u).1 mem
    obtain rfl := apart p q x there there'
    exact Option.some.inj (item'.symm.trans item)
  others other x unbound := findLocal?_binding_of_not_mem (fun same w mem => by
    obtain ⟨p, reached, there, -⟩ := (unpacks.bound x w).1 mem
    exact unbound same p reached there) inside

end MeteredScript
