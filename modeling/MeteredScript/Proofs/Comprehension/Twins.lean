import MeteredScript.Proofs.Coupling.Gas
import MeteredScript.Proofs.Lifecycle.Transition

/-!
# Two machines with one scope apart

The body of a list comprehension and that of the generator that computes the same
items run in scopes that are the same but for one name: the generator finds its
first iterable in its scope, under a name that no script can use. It also runs one
call deeper. `Beside k floor` says of two machines that they differ in no more than
this, in their gas, and in that the generator may recurse one call deeper, so that
both are refused a call at the same places.

Code that does not use the hidden name cannot tell such machines apart. The only
code that uses it is the body of a generator expression, and that finds its own
first iterable in its own scope (`GeneratorState.Spares`).
-/

namespace MeteredScript

/-! ## Scopes -/

/-- **Two scopes that differ in the hidden name** and at most in whether a generator
that cannot be resumed runs in them. -/
structure Scope.Twin (x x' : Scope) : Prop where
  kind : x'.kind = x.kind
  parent : x'.parent = x.parent
  find : ∀ name, name ≠ outerIterable → x'.bindings.find? name = x.bindings.find? name
  state : x'.generator.getD .running = x.generator.getD .running

namespace Scope

variable {x x' : Scope}

theorem Twin.refl (x : Scope) : x.Twin x := ⟨rfl, rfl, fun _ _ => rfl, rfl⟩

theorem Twin.define (h : x.Twin x') (name : String) (v : Value) :
    Twin { x with bindings := x.bindings.insert name v }
      { x' with bindings := x'.bindings.insert name v } where
  kind := h.kind
  parent := h.parent
  find name' shown := by
    rw [Bindings.find?_insert, Bindings.find?_insert, h.find name' shown]
  state := h.state

theorem Twin.setGenerator (h : x.Twin x') (state : GeneratorState) :
    Twin { x with generator := some state } { x' with generator := some state } :=
  ⟨h.kind, h.parent, h.find, rfl⟩

end Scope

namespace ScopeTree

/-- **Two trees that differ in at most one scope**, and there in the hidden name. -/
structure Twins (k : Option ScopeId) (t t' : ScopeTree) : Prop where
  size : t'.scopes.size = t.scopes.size
  elsewhere : ∀ s, k ≠ some s → t'.scope? s = t.scope? s
  here : ∀ s, k = some s → ∃ x x', t.scope? s = some x ∧ t'.scope? s = some x' ∧ x.Twin x'

namespace Twins

variable {k : Option ScopeId} {t t' : ScopeTree}

theorem refl (t : ScopeTree) : Twins none t t :=
  ⟨rfl, fun _ _ => rfl, fun _ h => nomatch h⟩

/-- The scope that differs is not new. -/
theorem index_ne (h : Twins k t t') {s : ScopeId} (hs : k = some s) :
    s.index ≠ t.scopes.size := by
  obtain ⟨x, -, hx, -⟩ := h.here s hs
  exact Nat.ne_of_lt (t.lt_size_of_scope? s hx)

/-- There is a scope in both trees or in neither, and the two are twins. -/
theorem scope? (h : Twins k t t') (s : ScopeId) :
    (t.scope? s = none ∧ t'.scope? s = none) ∨
      ∃ x x', t.scope? s = some x ∧ t'.scope? s = some x' ∧ x.Twin x' := by
  by_cases same : k = some s
  · exact .inr (h.here s same)
  · rw [h.elsewhere s same]
    cases t.scope? s with
    | none => exact .inl ⟨rfl, rfl⟩
    | some x => exact .inr ⟨x, x, rfl, rfl, .refl x⟩

/-! ### What can be read -/

theorem findLocal? (h : Twins k t t') (s : ScopeId) {name : String}
    (shown : name ≠ outerIterable) : t'.findLocal? s name = t.findLocal? s name := by
  unfold ScopeTree.findLocal? ScopeTree.bindings
  rcases h.scope? s with ⟨hx, hx'⟩ | ⟨x, x', hx, hx', twin⟩
  · rw [hx, hx']
  · rw [hx, hx']
    exact twin.find name shown

theorem findOutward? (h : Twins k t t') {name : String} (shown : name ≠ outerIterable)
    (steps : Nat) (s : Option ScopeId) :
    t'.findOutward? name steps s = t.findOutward? name steps s := by
  induction steps generalizing s with
  | zero => rfl
  | succ steps ih =>
    cases s with
    | none => rfl
    | some s =>
      unfold ScopeTree.findOutward?
      rcases h.scope? s with ⟨hx, hx'⟩ | ⟨x, x', hx, hx', twin⟩
      · rw [hx, hx']
      · rw [hx, hx']
        dsimp only
        rw [twin.kind, twin.parent, twin.find name shown, ih]

/-- Names that are not hidden mean the same. -/
theorem find? (h : Twins k t t') (s : ScopeId) {name : String} (shown : name ≠ outerIterable) :
    t'.find? s name = t.find? s name := by
  unfold ScopeTree.find?
  rcases h.scope? s with ⟨hx, hx'⟩ | ⟨x, x', hx, hx', twin⟩
  · rw [hx, hx']
  · rw [hx, hx']
    dsimp only
    rw [twin.parent, twin.find name shown, h.size, h.findOutward? shown]

/-- The hidden name means the same in a scope of its own that binds it. -/
theorem find?_hidden (h : Twins k t t') {s : ScopeId} (apart : k ≠ some s) {v : Value}
    (own : t.findLocal? s outerIterable = some v) :
    t.find? s outerIterable = some v ∧ t'.find? s outerIterable = some v := by
  refine ⟨t.find?_of_findLocal? s own, t'.find?_of_findLocal? s ?_⟩
  rw [← own]
  unfold ScopeTree.findLocal? ScopeTree.bindings
  rw [h.elsewhere s apart]

theorem generator? (h : Twins k t t') (s : ScopeId) :
    (t'.generator? s).getD .running = (t.generator? s).getD .running := by
  unfold ScopeTree.generator?
  rcases h.scope? s with ⟨hx, hx'⟩ | ⟨x, x', hx, hx', twin⟩
  · rw [hx, hx']
  · rw [hx, hx']
    exact twin.state

/-! ### What can be written -/

theorem define (h : Twins k t t') (s : ScopeId) (name : String) (v : Value) :
    Twins k (t.define s name v) (t'.define s name v) where
  size := by simpa [ScopeTree.define] using h.size
  elsewhere s' apart := by
    by_cases same : s' = s
    · subst same
      rw [t.scope?_define_self, t'.scope?_define_self, h.elsewhere s' apart]
    · rw [t.scope?_define_of_ne s same, t'.scope?_define_of_ne s same, h.elsewhere s' apart]
  here k hk := by
    obtain ⟨x, x', hx, hx', twin⟩ := h.here k hk
    by_cases same : k = s
    · subst same
      rw [t.scope?_define_self, t'.scope?_define_self, hx, hx']
      exact ⟨_, _, rfl, rfl, twin.define name v⟩
    · rw [t.scope?_define_of_ne s same, t'.scope?_define_of_ne s same, hx, hx']
      exact ⟨x, x', rfl, rfl, twin⟩

theorem setGenerator (h : Twins k t t') (s : ScopeId) (state : GeneratorState) :
    Twins k (t.setGenerator s state) (t'.setGenerator s state) where
  size := by simpa [ScopeTree.setGenerator] using h.size
  elsewhere s' apart := by
    by_cases same : s' = s
    · subst same
      rw [t.scope?_setGenerator_self, t'.scope?_setGenerator_self, h.elsewhere s' apart]
    · rw [t.scope?_setGenerator_of_ne s same, t'.scope?_setGenerator_of_ne s same,
        h.elsewhere s' apart]
  here k hk := by
    obtain ⟨x, x', hx, hx', twin⟩ := h.here k hk
    by_cases same : k = s
    · subst same
      rw [t.scope?_setGenerator_self, t'.scope?_setGenerator_self, hx, hx']
      exact ⟨_, _, rfl, rfl, twin.setGenerator state⟩
    · rw [t.scope?_setGenerator_of_ne s same, t'.scope?_setGenerator_of_ne s same, hx, hx']
      exact ⟨x, x', rfl, rfl, twin⟩

theorem addScope (h : Twins k t t') (kind : ScopeKind) (parent : Option ScopeId)
    (state : Option GeneratorState) :
    Twins k (t.addScope kind parent state).2 (t'.addScope kind parent state).2 where
  size := by simpa [ScopeTree.addScope] using h.size
  elsewhere s apart := by
    by_cases new : s.index = t.scopes.size
    · obtain rfl : s = ⟨t.scopes.size⟩ := by
        cases s
        exact congrArg ScopeId.mk new
      have new' := t'.scope?_addScope_self kind parent state
      rw [h.size] at new'
      rw [t.scope?_addScope_self, new']
    · rw [t.scope?_addScope_of_ne s kind parent state new,
        t'.scope?_addScope_of_ne s kind parent state (by rw [h.size]; exact new),
        h.elsewhere s apart]
  here k hk := by
    have old := h.index_ne hk
    rw [t.scope?_addScope_of_ne k kind parent state old,
      t'.scope?_addScope_of_ne k kind parent state (by rw [h.size]; exact old)]
    exact h.here k hk

end Twins

end ScopeTree

end MeteredScript
