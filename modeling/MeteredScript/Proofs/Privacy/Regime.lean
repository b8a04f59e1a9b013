import MeteredScript.Proofs.Regime.Bounded

/-!
# Class bodies that are still executed

The scope of a class body is visible to the code that stands directly in the body.
While the body is executed nothing leads there: the class object is made when the
body is done, and no generator belongs to the scope (`Machine.InClassBody`).

`Regime.classBody` is the regime that says so. With a mask it moreover shows a second
run other bindings in place of those of the class body. That run then has to be of
code that stands elsewhere, and such code never notices: the scopes around it are
looked through for names, but a class body is passed over.
-/

namespace MeteredScript

/-! ## Other bindings -/

namespace ScopeTree

/-- The same tree with other bindings in a scope. -/
def withBindings (t : ScopeTree) (id : ScopeId) (b : Bindings) : ScopeTree :=
  ⟨t.scopes.modify id.index fun s => { s with bindings := b }⟩

/-- A scope of a class body, to which no generator belongs. -/
def IsClassBody (t : ScopeTree) (id : ScopeId) : Prop :=
  ∃ x, t.scope? id = some x ∧ x.kind = .classBody ∧ x.generator = none

section Scopes

variable (t : ScopeTree) (id : ScopeId) (b : Bindings)

theorem scope?_withBindings_self :
    (t.withBindings id b).scope? id = (t.scope? id).map fun s => { s with bindings := b } := by
  simp only [scope?, withBindings, Array.getElem?_modify, if_true]

theorem scope?_withBindings_of_ne {id' : ScopeId} (h : id' ≠ id) :
    (t.withBindings id b).scope? id' = t.scope? id' := by
  have hne : id.index ≠ id'.index := fun heq => h (by cases id; cases id'; simp_all)
  simp only [scope?, withBindings, Array.getElem?_modify, if_neg hne]

@[simp] theorem size_withBindings : (t.withBindings id b).scopes.size = t.scopes.size := by
  simp [withBindings]

theorem generator?_withBindings (s : ScopeId) :
    (t.withBindings id b).generator? s = t.generator? s := by
  by_cases same : s = id
  · subst same
    rw [generator?, generator?, scope?_withBindings_self]
    cases t.scope? s <;> rfl
  · rw [generator?, generator?, t.scope?_withBindings_of_ne id b same]

theorem findLocal?_withBindings {s : ScopeId} (h : s ≠ id) (name : String) :
    (t.withBindings id b).findLocal? s name = t.findLocal? s name := by
  rw [findLocal?, findLocal?, bindings, bindings, t.scope?_withBindings_of_ne id b h]

theorem withBindings_define {s : ScopeId} (h : s ≠ id) (name : String) (v : Value) :
    (t.withBindings id b).define s name v = (t.define s name v).withBindings id b := by
  have hne : id.index ≠ s.index := fun heq => h (by cases id; cases s; simp_all)
  refine congrArg ScopeTree.mk (Array.ext_getElem? fun i => ?_)
  simp only [define, withBindings, Array.getElem?_modify]
  by_cases hi : s.index = i
  · subst hi
    simp [hne]
  · simp [hi]

theorem withBindings_setGenerator (s : ScopeId) (state : GeneratorState) :
    (t.withBindings id b).setGenerator s state = (t.setGenerator s state).withBindings id b := by
  refine congrArg ScopeTree.mk (Array.ext_getElem? fun i => ?_)
  simp only [setGenerator, withBindings, Array.getElem?_modify]
  by_cases hi : s.index = i <;> by_cases hi' : id.index = i <;>
    simp [hi, hi', Function.comp_def]

theorem withBindings_addScope (inside : id.index < t.scopes.size) (kind : ScopeKind)
    (parent : Option ScopeId) (state : Option GeneratorState) :
    (t.withBindings id b).addScope kind parent state =
      ((t.addScope kind parent state).1, (t.addScope kind parent state).2.withBindings id b) := by
  refine Prod.ext (congrArg ScopeId.mk (t.size_withBindings id b)) ?_
  refine congrArg ScopeTree.mk (Array.ext_getElem? fun i => ?_)
  simp only [addScope, withBindings, Array.getElem?_modify, Array.getElem?_push, Array.size_modify]
  by_cases hi : i = t.scopes.size
  · have old : ¬ id.index = i := by omega
    rw [if_pos hi, if_neg old, if_pos hi]
  · rw [if_neg hi, if_neg hi]

end Scopes

section ClassBody

variable {t : ScopeTree} {id : ScopeId} (h : t.IsClassBody id)

include h

theorem IsClassBody.lt_size : id.index < t.scopes.size := by
  obtain ⟨x, hx, -⟩ := h
  exact t.lt_size_of_scope? id hx

theorem IsClassBody.generator? : t.generator? id = none := by
  obtain ⟨x, hx, -, none⟩ := h
  rw [ScopeTree.generator?, hx]
  exact none

theorem IsClassBody.define (s : ScopeId) (name : String) (v : Value) :
    (t.define s name v).IsClassBody id := by
  obtain ⟨x, hx, kind, none⟩ := h
  by_cases same : id = s
  · subst same
    exact ⟨{ x with bindings := x.bindings.insert name v },
      by rw [t.scope?_define_self, hx, Option.map_some], kind, none⟩
  · exact ⟨x, by rw [t.scope?_define_of_ne s same, hx], kind, none⟩

theorem IsClassBody.setGenerator {s : ScopeId} (other : s ≠ id) (state : GeneratorState) :
    (t.setGenerator s state).IsClassBody id := by
  obtain ⟨x, hx, kind, none⟩ := h
  exact ⟨x, by rw [t.scope?_setGenerator_of_ne s other.symm, hx], kind, none⟩

theorem IsClassBody.addScope (kind : ScopeKind) (parent : Option ScopeId)
    (state : Option GeneratorState) : (t.addScope kind parent state).2.IsClassBody id := by
  have old := Nat.ne_of_lt h.lt_size
  obtain ⟨x, hx, isBody, none⟩ := h
  exact ⟨x, by rw [t.scope?_addScope_of_ne id kind parent state old, hx], isBody, none⟩

/-- **A class body is passed over** when a name is looked for from inside. -/
theorem IsClassBody.findOutward? (b : Bindings) (name : String) (steps : Nat)
    (s : Option ScopeId) :
    (t.withBindings id b).findOutward? name steps s = t.findOutward? name steps s := by
  induction steps generalizing s with
  | zero => simp [ScopeTree.findOutward?]
  | succ steps ih =>
    cases s with
    | none => simp [ScopeTree.findOutward?]
    | some s =>
      rw [ScopeTree.findOutward?, ScopeTree.findOutward?]
      by_cases same : s = id
      · obtain ⟨x, hx, kind, -⟩ := h
        rw [same, t.scope?_withBindings_self, hx]
        simp only [Option.map_some, kind, if_true]
        exact ih x.parent
      · rw [t.scope?_withBindings_of_ne id b same]
        simp only [ih]

/-- So names mean in all other scopes what they meant. -/
theorem IsClassBody.find? (b : Bindings) {s : ScopeId} (other : s ≠ id) (name : String) :
    (t.withBindings id b).find? s name = t.find? s name := by
  rw [ScopeTree.find?, ScopeTree.find?, t.scope?_withBindings_of_ne id b other,
    size_withBindings]
  simp only [h.findOutward? b]

end ClassBody

end ScopeTree

/-! ## Machines -/

namespace Machine

/-- The same machine with other bindings in a scope. -/
def withBindings (m : Machine) (id : ScopeId) (b : Bindings) : Machine :=
  { m with scopes := m.scopes.withBindings id b }

/-- **The body of a class is still executed**: the class object was not made yet, so
nothing leads to the scope of the body. -/
structure InClassBody (c : ScopeId) (m : Machine) : Prop where
  body : m.scopes.IsClassBody c
  upheld : m.Upheld (· ≠ c)

/-- All class objects lead to scopes that are there. -/
def ClassesInside (m : Machine) : Prop := m.Upheld fun s => s.index < m.scopes.scopes.size

/-- **When a class statement has made a scope**, its body is executed there. -/
theorem ClassesInside.inClassBody {m : Machine} (inside : m.ClassesInside)
    (parent : Option ScopeId) :
    InClassBody (m.scopes.addScope .classBody parent none).1
      { m with scopes := (m.scopes.addScope .classBody parent none).2 } where
  body := ⟨_, m.scopes.scope?_addScope_self .classBody parent none, rfl, rfl⟩
  upheld := by
    have upheld : m.Upheld (· ≠ (m.scopes.addScope .classBody parent none).1) :=
      inside.mono fun s old same => Nat.ne_of_lt old (congrArg ScopeId.index same)
    exact { upheld with scopes := upheld.scopes.addScope .classBody parent within_optionNone }

end Machine

/-! ## The regime -/

/-- What a second run sees of a class body: other bindings in place of its own. -/
structure Mask where
  own : Bindings
  shown : Bindings

/-- **What holds of scopes** while the body of a class is executed. Code that is run with
a mask leaves the bindings of the class body as they are. -/
structure ScopeTree.HoldsClassBody (c : ScopeId) (mask : Option Mask) (t : ScopeTree) : Prop where
  body : t.IsClassBody c
  own : ∀ k ∈ mask, t.bindings c = k.own

namespace ScopeTree.HoldsClassBody

variable {c : ScopeId} {mask : Option Mask} {t : ScopeTree} (h : t.HoldsClassBody c mask)

include h

theorem define {s : ScopeId} (other : mask.isSome → s ≠ c) (name : String) (v : Value) :
    (t.define s name v).HoldsClassBody c mask where
  body := h.body.define s name v
  own k member := by
    obtain rfl : mask = some k := member
    rw [t.bindings_define_of_ne s c (other rfl).symm]
    exact h.own k rfl

theorem addScope (kind : ScopeKind) (parent : Option ScopeId) (state : Option GeneratorState) :
    (t.addScope kind parent state).2.HoldsClassBody c mask where
  body := h.body.addScope kind parent state
  own k member := by
    rw [ScopeTree.bindings_addScope]
    exact h.own k member

theorem setGenerator {s : ScopeId} (other : s ≠ c) (state : GeneratorState) :
    (t.setGenerator s state).HoldsClassBody c mask where
  body := h.body.setGenerator other state
  own k member := by
    rw [ScopeTree.bindings_setGenerator]
    exact h.own k member

/-- A new scope is another one. -/
theorem new_ne (kind : ScopeKind) (parent : Option ScopeId) (state : Option GeneratorState) :
    (t.addScope kind parent state).1 ≠ c :=
  fun same => Nat.ne_of_gt h.body.lt_size (congrArg ScopeId.index same)

/-- So is that of a generator. -/
theorem generator_ne {s : ScopeId} {state : GeneratorState}
    (found : t.generator? s = some state) : s ≠ c := by
  rintro rfl
  rw [h.body.generator?] at found
  cases found

end ScopeTree.HoldsClassBody

/-- **The regime of a class body that is executed.** With a mask, code runs elsewhere. -/
def Regime.classBody (c : ScopeId) (mask : Option Mask) : Regime where
  Stage := Unit
  World := Unit
  Grows _ _ := True
  named _ s := s ≠ c
  Holds _ _ tree := tree.HoldsClassBody c mask
  runs _ s := mask.isSome → s ≠ c
  writes _ s := mask.isSome → s ≠ c
  gives _ := True
  wakes _ := True
  grows_refl _ := trivial
  grows_trans _ _ := trivial
  named_mono _ named := named
  define name v writes holds := holds.define writes name v
  setAttribute name v named _ holds := holds.define (fun _ => named) name v
  make kind parent body holds :=
    ⟨fun _ => holds.new_ne kind (some parent) (some (.notStarted body)), holds.addScope kind _ _⟩
  enter kind parent holds :=
    have new := holds.new_ne kind parent none
    ⟨(), fun _ => new, fun _ => new, holds.addScope kind parent none, fun _ _ _ holds' =>
      ⟨holds', (), trivial, new, holds'⟩⟩
  wake _ holds found _ :=
    have other := holds.generator_ne found
    ⟨(), (), trivial, fun _ => other, fun _ => other, holds.setGenerator other .running,
      fun _ _ state _ holds' _ => holds'.setGenerator other state⟩
  complete holds found _ :=
    ⟨(), trivial, holds, fun _ _ _ _ holds' =>
      holds'.setGenerator (holds.generator_ne found) _⟩
  veil tree := mask.elim tree fun k => tree.withBindings c k.shown
  veil_generator? tree s := by
    cases mask with
    | none => rfl
    | some k => exact tree.generator?_withBindings c k.shown s
  veil_setGenerator tree s state := by
    cases mask with
    | none => rfl
    | some k => exact tree.withBindings_setGenerator c k.shown s state
  veil_addScope {g w tree} kind parent state holds := by
    cases mask with
    | none => rfl
    | some k => exact tree.withBindings_addScope c k.shown holds.body.lt_size kind parent state
  veil_define {g w tree s} name v seen _ := by
    cases mask with
    | none => rfl
    | some k =>
      have other : s ≠ c := seen.elim (fun writes => writes rfl) id
      exact tree.withBindings_define c k.shown other name v
  veil_findLocal? {g w tree s} name named _ := by
    cases mask with
    | none => rfl
    | some k => exact tree.findLocal?_withBindings c k.shown named name
  veil_find? {g w tree s} name runs holds := by
    cases mask with
    | none => rfl
    | some k => exact holds.body.find? k.shown (runs rfl) name

theorem Regime.free_classBody (c : ScopeId) (mask : Option Mask) :
    (Regime.classBody c mask).Free :=
  ⟨fun _ => trivial, fun _ => trivial⟩

section Masks

variable {c : ScopeId} {m : Machine}

theorem Machine.InClassBody.inv (h : m.InClassBody c) {mask : Option Mask}
    (own : ∀ k ∈ mask, m.scopes.bindings c = k.own) :
    (Regime.classBody c mask).Inv () () m :=
  ⟨h.upheld, h.body, own⟩

theorem Machine.inClassBody_of_inv {mask : Option Mask}
    (inv : (Regime.classBody c mask).Inv () () m) : m.InClassBody c :=
  ⟨inv.holds.body, inv.upheld⟩

end Masks

end MeteredScript
