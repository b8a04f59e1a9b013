import MeteredScript.Proofs.Coupling.Invariant
import MeteredScript.Proofs.Regime.Computed

/-!
# Regimes

An invariant of evaluation is mostly about scopes and the class objects that
lead to them: which code may write where. A *regime* is such an invariant. It
says what holds of the scopes at a *stage*, that is, while certain code runs,
and in a *world*, that is, once certain scopes have become namespaces of
classes. Worlds only ever grow, and what fits a world fits every later one.
Code that enters a scope passes to another stage and returns from it.

`Regime.Keeps` says of two evaluations, started on one machine, that they have
the same outcome and keep the regime. All evaluations keep heaps sound besides
(`Machine.Upheld`), so a regime without any rule of its own still says that
about them. Two evaluations are compared, and not one looked at, since one of
them may be watched: if it does the same as one that is not, then nothing was
ever noticed.

The second of them may also be kept from seeing some of the scopes as they are.
A regime says what it sees instead (`Regime.veil`). Most regimes veil nothing.

The combinators below are those that evaluations are written with, and there
is one lemma for each primitive.
-/

namespace MeteredScript

/-! ## What a machine holds -/

instance : Holder ScopeTree where
  Names tree t :=
    (∃ id name v, tree.findLocal? id name = some v ∧ Holder.Names v t) ∨
      ∃ id state, tree.generator? id = some state ∧ Holder.Names state t

section Scopes

variable {S : ScopeId → Prop} {tree : ScopeTree}

theorem within_scopes : Within S tree ↔
    (∀ id name v, tree.findLocal? id name = some v → Within S v) ∧
      ∀ id state, tree.generator? id = some state → Within S state := by
  constructor
  · intro within
    exact ⟨fun id name v found t names => within t (.inl ⟨id, name, v, found, names⟩),
      fun id state found t names => within t (.inr ⟨id, state, found, names⟩)⟩
  · rintro ⟨values, states⟩ t (⟨id, name, v, found, names⟩ | ⟨id, state, found, names⟩)
    · exact values id name v found t names
    · exact states id state found t names

theorem Within.findLocal? (h : Within S tree) (id : ScopeId) (name : String) :
    Within S (tree.findLocal? id name) := by
  cases found : tree.findLocal? id name with
  | none => exact within_optionNone
  | some v => exact within_some.2 ((within_scopes.1 h).1 id name v found)

/-- A name that is found in a scope or around it is bound somewhere. -/
theorem Within.findOutward? (h : Within S tree) (name : String) (steps : Nat)
    (id : Option ScopeId) : Within S (tree.findOutward? name steps id) := by
  induction steps generalizing id with
  | zero => simp [ScopeTree.findOutward?]
  | succ steps ih =>
    cases id with
    | none => simp [ScopeTree.findOutward?]
    | some id =>
      have own := h.findLocal? id name
      rw [ScopeTree.findOutward?]
      cases hs : tree.scope? id with
      | none => exact within_optionNone
      | some s =>
        simp only [ScopeTree.findLocal?, ScopeTree.bindings, hs] at own
        dsimp only
        by_cases body : s.kind = .classBody
        · rw [if_pos body]
          exact ih s.parent
        · rw [if_neg body]
          cases found : s.bindings.find? name with
          | none => exact ih s.parent
          | some v =>
            rw [found] at own
            exact own

theorem Within.findName? (h : Within S tree) (id : ScopeId) (name : String) :
    Within S (tree.find? id name) := by
  have own := h.findLocal? id name
  unfold ScopeTree.find?
  cases hs : tree.scope? id with
  | none => exact within_optionNone
  | some s =>
    simp only [ScopeTree.findLocal?, ScopeTree.bindings, hs] at own
    dsimp only
    cases found : s.bindings.find? name with
    | none => exact h.findOutward? name _ _
    | some v =>
      rw [found] at own
      exact own

end Scopes

/-- **What evaluation upholds of a machine**: the heap is in order, and the
class objects that the machine keeps have their namespaces among some
scopes. -/
structure Machine.Upheld (S : ScopeId → Prop) (m : Machine) : Prop where
  heap : m.heap.Upheld S
  function (id : FunctionId) : Within S (m.function id)
  scopes : Within S m.scopes
  handling : Within S m.handling

theorem Machine.Upheld.mono {S S' : ScopeId → Prop} {m : Machine} (h : m.Upheld S)
    (more : ∀ s, S s → S' s) : m.Upheld S' where
  heap := ⟨h.heap.sound, h.heap.within.mono more⟩
  function id := (h.function id).mono more
  scopes := h.scopes.mono more
  handling := h.handling.mono more

/-! ## Regimes -/

theorem ScopeTree.generator?_id (tree : ScopeTree) (s : ScopeId) :
    (id tree).generator? s = tree.generator? s := rfl

theorem ScopeTree.setGenerator_id (tree : ScopeTree) (s : ScopeId) (state : GeneratorState) :
    (id tree).setGenerator s state = id (tree.setGenerator s state) := rfl

/-- Whether a generator has a body to go on with. -/
def GeneratorState.Waits (s : GeneratorState) : Prop :=
  (∃ body, s = .notStarted body) ∨ ∃ targets frames, s = .suspended targets frames

/-- **A regime**: what holds of scopes while code runs, and who may write to
them. -/
structure Regime where
  /-- What is being run. -/
  Stage : Type
  /-- What there is. -/
  World : Type
  /-- The second world comes after the first. -/
  Grows : World → World → Prop
  /-- The scopes that class objects may lead to. -/
  named : World → ScopeId → Prop
  /-- What holds of the scopes. -/
  Holds : Stage → World → ScopeTree → Prop
  /-- The scopes that code is run in. -/
  runs : Stage → ScopeId → Prop
  /-- The scopes that such code may write to. -/
  writes : Stage → ScopeId → Prop
  /-- What the value of an expression may be. -/
  gives : Value → Prop
  /-- The generators that may be resumed. -/
  wakes : GeneratorId → Prop
  grows_refl (w : World) : Grows w w
  grows_trans {w w' w'' : World} : Grows w w' → Grows w' w'' → Grows w w''
  named_mono {w w' : World} {t : ScopeId} : Grows w w' → named w t → named w' t
  /-- Code may write to the scope it runs in. -/
  define {g : Stage} {w : World} {tree : ScopeTree} {s : ScopeId} (name : String) (v : Value) :
    writes g s → Holds g w tree → Holds g w (tree.define s name v)
  /-- Attributes of classes may be set. -/
  setAttribute {g : Stage} {w : World} {tree : ScopeTree} {s : ScopeId} {className : String}
    (name : String) (v : Value) : named w s → gives (.classObject className s) →
    Holds g w tree → Holds g w (tree.define s name v)
  /-- A scope for a generator may be written to by who makes it. -/
  make {g : Stage} {w : World} {tree : ScopeTree} (kind : ScopeKind) (parent : ScopeId)
    (body : Block) : Holds g w tree →
    writes g (tree.addScope kind (some parent) (some (.notStarted body))).1 ∧
      Holds g w (tree.addScope kind (some parent) (some (.notStarted body))).2
  /-- Code may be run in a new scope, which can then become a namespace. -/
  enter {g : Stage} {w : World} {tree : ScopeTree} (kind : ScopeKind)
    (parent : Option ScopeId) : Holds g w tree →
    ∃ g', runs g' (tree.addScope kind parent none).1 ∧
      writes g' (tree.addScope kind parent none).1 ∧
      Holds g' w (tree.addScope kind parent none).2 ∧
      ∀ w' tree', Grows w w' → Holds g' w' tree' → Holds g w' tree' ∧
        ∃ w'', Grows w' w'' ∧ named w'' (tree.addScope kind parent none).1 ∧ Holds g w'' tree'
  /-- Code may be run in the scope of a generator that waits. -/
  wake {g : Stage} {w : World} {tree : ScopeTree} {id : GeneratorId} {state : GeneratorState} :
    wakes id → Holds g w tree → tree.generator? id.scope = some state → state.Waits →
    ∃ g' w₁, Grows w w₁ ∧ runs g' id.scope ∧ writes g' id.scope ∧
      Holds g' w₁ (tree.setGenerator id.scope .running) ∧
      ∀ w' tree' state', Grows w₁ w' → Holds g' w' tree' → state' ≠ .running →
        Holds g w' (tree'.setGenerator id.scope state')
  /-- A generator that is not running may be given up. -/
  complete {g : Stage} {w : World} {tree : ScopeTree} {id : GeneratorId}
    {state : GeneratorState} : Holds g w tree → tree.generator? id.scope = some state →
    state.Waits → ∃ w₁, Grows w w₁ ∧ Holds g w₁ tree ∧
      ∀ w' tree' c, Grows w₁ w' → Holds g w' tree' →
        Holds g w' (tree'.setGenerator id.scope (.completed c))
  /-- What the second of two runs sees in place of the scopes of the first. -/
  veil : ScopeTree → ScopeTree := id
  /-- Generators are seen as they are. -/
  veil_generator? (tree : ScopeTree) (s : ScopeId) :
    (veil tree).generator? s = tree.generator? s := by exact ScopeTree.generator?_id
  veil_setGenerator (tree : ScopeTree) (s : ScopeId) (state : GeneratorState) :
    (veil tree).setGenerator s state = veil (tree.setGenerator s state) := by
    exact ScopeTree.setGenerator_id
  /-- New scopes are seen. -/
  veil_addScope {g : Stage} {w : World} {tree : ScopeTree} (kind : ScopeKind)
    (parent : Option ScopeId) (state : Option GeneratorState) : Holds g w tree →
    (veil tree).addScope kind parent state =
      ((tree.addScope kind parent state).1, veil (tree.addScope kind parent state).2) := by
    intros; rfl
  /-- So is what code writes. -/
  veil_define {g : Stage} {w : World} {tree : ScopeTree} {s : ScopeId} (name : String)
    (v : Value) : writes g s ∨ named w s → Holds g w tree →
    (veil tree).define s name v = veil (tree.define s name v) := by intros; rfl
  /-- Nothing is veiled in the namespaces of classes. -/
  veil_findLocal? {g : Stage} {w : World} {tree : ScopeTree} {s : ScopeId} (name : String) :
    named w s → Holds g w tree → (veil tree).findLocal? s name = tree.findLocal? s name := by
    intros; rfl
  /-- Names mean what they mean where code runs. -/
  veil_find? {g : Stage} {w : World} {tree : ScopeTree} {s : ScopeId} (name : String) :
    runs g s → Holds g w tree → (veil tree).find? s name = tree.find? s name := by intros; rfl

namespace Regime

variable (R : Regime) {α β : Type} [Holder α] [Holder β]

/-- **The invariant** of a regime at a stage and in a world. -/
structure Inv (g : R.Stage) (w : R.World) (m : Machine) : Prop where
  upheld : m.Upheld (R.named w)
  holds : R.Holds g w m.scopes

/-- How an evaluation may end: in a later world, into which what it gives
fits. -/
def After (g : R.Stage) (w : R.World) (r : Except Stop α) (m : Machine) : Prop :=
  ∃ w', R.Grows w w' ∧ R.Inv g w' m ∧ Within (R.named w') r

/-- A machine with veiled scopes. -/
def cover (m : Machine) : Machine := { m with scopes := R.veil m.scopes }

/-- **Two evaluations do the same and keep a regime**, in all worlds that come
after one. -/
def Keeps (g : R.Stage) (w : R.World) (x y : Eval α) : Prop :=
  ∀ w₁ m, R.Grows w w₁ → R.Inv g w₁ m →
    AlikeUnder R.cover (R.After g w₁) (x.on m) (y.on (R.cover m))

variable {R} {g : R.Stage} {w : R.World}

/-- Two runs under a regime that veils nothing see the same machine. -/
theorem keeps_iff (bare : R.veil = id) {x y : Eval α} : R.Keeps g w x y ↔
    ∀ w₁ m, R.Grows w w₁ → R.Inv g w₁ m → Alike (R.After g w₁) (x.on m) (y.on m) := by
  have uncovered : R.cover = id := funext fun m => by rw [cover, bare]; rfl
  simp only [Keeps, uncovered, alike_iff, id_eq]

end Regime

/-- What fits a world fits every later one. -/
theorem Within.grow {R : Regime} {α : Type} [Holder α] {w w' : R.World} {a : α}
    (h : Within (R.named w) a) (hw : R.Grows w w') : Within (R.named w') a :=
  h.mono fun _ => R.named_mono hw

namespace Regime

variable {R : Regime} {α β : Type} [Holder α] [Holder β] {g : R.Stage} {w : R.World}

theorem Keeps.grow {w' : R.World} {x y : Eval α} (h : R.Keeps g w x y) (hw : R.Grows w w') :
    R.Keeps g w' x y :=
  fun w₁ m hw₁ inv => h w₁ m (R.grows_trans hw hw₁) inv

/-- An evaluation that ends without touching the machine. -/
theorem After.here {r : Except Stop α} {m : Machine} (inv : R.Inv g w m)
    (hr : Within (R.named w) r) : R.After g w r m :=
  ⟨w, R.grows_refl w, inv, hr⟩

theorem After.later {w' : R.World} {r : Except Stop α} {m : Machine} (hw : R.Grows w w')
    (h : R.After g w' r m) : R.After g w r m := by
  obtain ⟨w'', hw', inv, hr⟩ := h
  exact ⟨w'', R.grows_trans hw hw', inv, hr⟩

/-! ## Sequences -/

theorem Keeps.pure {a : α} (h : Within (R.named w) a) :
    R.Keeps g w (Pure.pure a) (Pure.pure a) :=
  fun _ _ hw inv => .ok (.here inv (h.grow hw))

theorem Keeps.throw {s : Stop} (h : Within (R.named w) s) :
    R.Keeps g w (MonadExcept.throw s : Eval α) (MonadExcept.throw s) :=
  fun _ _ hw inv => .error (.here inv (h.grow hw))

theorem Keeps.fail {f : Fault} (h : Within (R.named w) f) :
    R.Keeps g w (Eval.fail f : Eval α) (Eval.fail f) :=
  .throw h

/-- What runs second runs in a later world, with what the first gave. -/
theorem Keeps.bind {x y : Eval α} {f f' : α → Eval β} (h : R.Keeps g w x y)
    (hf : ∀ w' a, R.Grows w w' → Within (R.named w') a → R.Keeps g w' (f a) (f' a)) :
    R.Keeps g w (x >>= f) (y >>= f') := by
  intro w₁ m hw₁ inv
  refine (h w₁ m hw₁ inv).bind (fun a n after => ?_) fun s n after => ?_
  · obtain ⟨w', hw', inv', ha⟩ := after
    have rest := hf w' a (R.grows_trans hw₁ hw') ha w' n (R.grows_refl w') inv'
    exact rest.mono fun r n after => after.later hw'
  · obtain ⟨w', hw', inv', hs⟩ := after
    exact ⟨w', hw', inv', hs⟩

/-- The same if more is known of what the first may give. -/
theorem Keeps.bind_gives {P : α → Prop} {x y : Eval α} {f f' : α → Eval β}
    (h : R.Keeps g w x y) (hx : Eval.Gives P x)
    (hf : ∀ w' a, R.Grows w w' → Within (R.named w') a → P a → R.Keeps g w' (f a) (f' a)) :
    R.Keeps g w (x >>= f) (y >>= f') := by
  intro w₁ m hw₁ inv
  have given : AlikeUnder R.cover (fun r n => R.After g w₁ r n ∧ ∀ a, r = .ok a → P a) (x.on m)
      (y.on (R.cover m)) := by
    rcases h w₁ m hw₁ inv with ends | ⟨same, more, after⟩
    · exact .inl ends
    · exact .inr ⟨same, more, after, fun a ha => hx m a (x.on m).2 (Prod.ext ha rfl)⟩
  refine given.bind (fun a n after => ?_) fun s n after => ?_
  · obtain ⟨⟨w', hw', inv', ha⟩, hP⟩ := after
    have rest := hf w' a (R.grows_trans hw₁ hw') ha (hP a rfl) w' n (R.grows_refl w') inv'
    exact rest.mono fun r n after => after.later hw'
  · obtain ⟨⟨w', hw', inv', hs⟩, -⟩ := after
    exact ⟨w', hw', inv', hs⟩

theorem Keeps.map {x y : Eval α} (f : α → β) (h : R.Keeps g w x y)
    (hf : ∀ w' a, R.Grows w w' → Within (R.named w') a → Within (R.named w') (f a)) :
    R.Keeps g w (f <$> x) (f <$> y) := by
  rw [map_eq_pure_bind, map_eq_pure_bind]
  exact h.bind fun w' a hw ha => .pure (hf w' a hw ha)

theorem Keeps.ite {p : Prop} [Decidable p] {x y x' y' : Eval α} (h : R.Keeps g w x y)
    (h' : R.Keeps g w x' y') : R.Keeps g w (if p then x else x') (if p then y else y') := by
  split
  · exact h
  · exact h'

/-- Going through a list that the machine holds, in order. -/
theorem Keeps.mapM {γ : Type} [Holder γ] {f f' : γ → Eval β} {xs : List γ}
    (hf : ∀ w' x, R.Grows w w' → Within (R.named w') x → R.Keeps g w' (f x) (f' x))
    (hxs : Within (R.named w) xs) : R.Keeps g w (xs.mapM f) (xs.mapM f') := by
  induction xs generalizing w with
  | nil => exact .pure within_nil
  | cons x xs ih =>
    rw [within_cons] at hxs
    rw [List.mapM_cons, List.mapM_cons]
    refine (hf w x (R.grows_refl w) hxs.1).bind fun w₁ b hw₁ hb => ?_
    refine (ih (fun w' x hw' => hf w' x (R.grows_trans hw₁ hw')) (hxs.2.grow hw₁)).bind
      fun w₂ bs hw₂ hbs => ?_
    exact .pure (within_cons.2 ⟨hb.grow hw₂, hbs⟩)

/-! ## Stops -/

theorem Keeps.ofStop {r : Except Stop α} (h : Within (R.named w) r) :
    R.Keeps g w (Eval.ofStop r) (Eval.ofStop r) := by
  cases r with
  | ok a => exact .pure h
  | error s => exact .throw h

theorem Keeps.ofFault {r : Except Fault α} (h : Within (R.named w) r) :
    R.Keeps g w (Eval.ofFault r) (Eval.ofFault r) := by
  cases r with
  | ok a => exact .pure h
  | error f => exact .fail h

theorem Keeps.ofTypeFault {r : Except TypeFault α} (h : Within (R.named w) r) :
    R.Keeps g w (Eval.ofTypeFault r) (Eval.ofTypeFault r) := by
  cases r with
  | ok a => exact .pure h
  | error why => exact .fail (by simp)

/-- What is done with the result of a pure operation. -/
theorem Keeps.bind_ofTypeFault {γ : Type} {r : Except TypeFault γ} {f f' : γ → Eval β}
    (hf : ∀ a, r = .ok a → R.Keeps g w (f a) (f' a)) :
    R.Keeps g w (Eval.ofTypeFault r >>= f) (Eval.ofTypeFault r >>= f') := by
  cases r with
  | ok a => exact hf a rfl
  | error why => exact Keeps.fail (by simp)

theorem Keeps.bind_ofFault {γ : Type} [Holder γ] {r : Except Fault γ} {f f' : γ → Eval β}
    (h : Within (R.named w) r)
    (hf : ∀ a, r = .ok a → Within (R.named w) a → R.Keeps g w (f a) (f' a)) :
    R.Keeps g w (Eval.ofFault r >>= f) (Eval.ofFault r >>= f') := by
  cases r with
  | ok a => exact hf a rfl h
  | error why => exact Keeps.fail h

theorem Keeps.ofAnswer {a : Option α} (h : Within (R.named w) a) :
    R.Keeps g w (Eval.ofAnswer a) (Eval.ofAnswer a) := by
  cases a with
  | none => exact .throw within_endless
  | some a => exact .pure (within_some.1 h)

theorem Keeps.require {p : Prop} [Decidable p] {f : Fault} (h : Within (R.named w) f) :
    R.Keeps g w (Eval.require p f) (Eval.require p f) :=
  .ite (.pure (within_plain ())) (.fail h)

theorem Keeps.attempt {x y : Eval α} (h : R.Keeps g w x y) :
    R.Keeps g w (Eval.attempt x) (Eval.attempt y) := by
  intro w₁ m hw₁ inv
  rw [Eval.on_attempt, Eval.on_attempt]
  exact (h w₁ m hw₁ inv).leaving (fun r _ => by simp) (fun _ => rfl) fun r n after => after

/-! ## Machines -/

/-- An evaluation of which it is known what it does. -/
theorem alike_of_eq {g' : R.Stage} {w' : R.World} {o o' : Except Stop α × Machine}
    (same : o' = (o.1, R.cover o.2)) (after : R.After g' w' o.1 o.2) :
    AlikeUnder R.cover (R.After g' w') o o' := by
  subst same
  obtain ⟨r, n⟩ := o
  cases r with
  | ok a => exact .ok after
  | error s => exact .error after

/-- An evaluation that does not depend on the rules and does not see what is veiled. -/
theorem Keeps.of_on {x : Eval α}
    (same : ∀ w₁ m, R.Grows w w₁ → R.Inv g w₁ m →
      x.on (R.cover m) = ((x.on m).1, R.cover (x.on m).2))
    (h : ∀ w₁ m, R.Grows w w₁ → R.Inv g w₁ m → R.After g w₁ (x.on m).1 (x.on m).2) :
    R.Keeps g w x x :=
  fun w₁ m hw₁ inv => alike_of_eq (same w₁ m hw₁ inv) (h w₁ m hw₁ inv)

/-- The invariant is about heap, functions, scopes and handled faults alone. -/
theorem Inv.congr {m m' : Machine} (inv : R.Inv g w m) (heap : m'.heap = m.heap)
    (functions : m'.functions = m.functions) (scopes : m'.scopes = m.scopes)
    (handling : m'.handling = m.handling) : R.Inv g w m' where
  upheld := by
    refine ⟨heap ▸ inv.upheld.heap, fun id => ?_, scopes ▸ inv.upheld.scopes,
      handling ▸ inv.upheld.handling⟩
    rw [Machine.function, functions]
    exact inv.upheld.function id
  holds := scopes ▸ inv.holds

/-- The faults being handled may be others. -/
theorem Inv.handle {m : Machine} (inv : R.Inv g w m) {faults : List Fault}
    (h : Within (R.named w) faults) : R.Inv g w { m with handling := faults } :=
  ⟨⟨inv.upheld.heap, inv.upheld.function, inv.upheld.scopes, h⟩, inv.holds⟩

/-- A look at the heap. -/
theorem Keeps.bind_heap {f f' : Heap → Eval β}
    (hf : ∀ w₁ h, R.Grows w w₁ → h.Upheld (R.named w₁) → R.Keeps g w₁ (f h) (f' h)) :
    R.Keeps g w (Eval.heap >>= f) (Eval.heap >>= f') := by
  intro w₁ m hw₁ inv
  have read (m : Machine) : Eval.heap.on m = (.ok m.heap, m) := rfl
  rw [Eval.on_bind_ok (read m), Eval.on_bind_ok (read (R.cover m))]
  exact hf w₁ m.heap hw₁ inv.upheld.heap w₁ m (R.grows_refl w₁) inv

end Regime

end MeteredScript
