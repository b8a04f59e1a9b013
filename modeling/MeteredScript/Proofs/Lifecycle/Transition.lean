import Mathlib.Logic.Relation
import MeteredScript.Evaluation.Drive

/-!
# The life of a generator

A generator is made with its body, runs from `yield` to `yield`, and completes.
`GeneratorState.Step` is one transition of this life, and `Machine.Evolved`
says of two machines that the second can come after the first: every generator
has gone through transitions, and those that are new have started with a body.
Nothing leads out of completion and nothing leads back to the start, so both
can be read off from `Evolved` at once.
-/

namespace MeteredScript

/-! ## The saved continuation -/

namespace GeneratorState

/-- **A transition** in the life of a generator. -/
inductive Step : GeneratorState → GeneratorState → Prop
  | start (body : Block) : Step (.notStarted body) .running
  | abandon (body : Block) (c : Completion) : Step (.notStarted body) (.completed c)
  | wake (targets : List Expr) (frames : List Frame) : Step (.suspended targets frames) .running
  | suspend (targets : List Expr) (frames : List Frame) : Step .running (.suspended targets frames)
  | complete (c : Completion) : Step .running (.completed c)

/-- Any number of transitions. -/
abbrev Steps : GeneratorState → GeneratorState → Prop := Relation.ReflTransGen Step

/-- **Nothing leads out of completion.** -/
theorem Steps.eq_of_completed {c : Completion} {s : GeneratorState}
    (h : Steps (.completed c) s) : s = .completed c := by
  induction h with
  | refl => rfl
  | tail _ hstep ih =>
    subst ih
    cases hstep

/-- Whether the body is being run. -/
def isRunning : GeneratorState → Bool
  | running => true
  | _ => false

theorem isRunning_iff {s : GeneratorState} : s.isRunning = true ↔ s = .running := by
  cases s <;> simp [isRunning]

end GeneratorState

/-- **What a generator that may be resumed waits for**, and the frames that are
left of its body. -/
inductive Waiting : GeneratorState → Resume → List Expr → List Frame → Prop
  | notStarted (body : Block) : Waiting (.notStarted body) (.send .none) [] [.suite body]
  | suspended (targets : List Expr) (frames : List Frame) (resume : Resume) :
    Waiting (.suspended targets frames) resume targets frames

namespace Waiting

variable {state : GeneratorState} {resume : Resume} {targets : List Expr} {frames : List Frame}

theorem step (h : Waiting state resume targets frames) : state.Step .running := by
  cases h with
  | notStarted body => exact .start body
  | suspended targets frames resume => exact .wake targets frames

theorem resumeFrom_eq (h : Waiting state resume targets frames) (ev : Evaluator)
    (id : GeneratorId) :
    resumeFrom ev id state resume = runSuspended ev id targets frames resume := by
  cases h with
  | notStarted body => rfl
  | suspended targets frames resume => rfl

end Waiting

/-! ## Scopes of a tree -/

namespace ScopeTree

variable (t : ScopeTree) (id : ScopeId)

theorem scope?_define_self (name : String) (v : Value) :
    (t.define id name v).scope? id =
      (t.scope? id).map fun s => { s with bindings := s.bindings.insert name v } := by
  simp only [scope?, define, Array.getElem?_modify, if_true]

theorem scope?_define_of_ne {id' : ScopeId} (h : id' ≠ id) (name : String) (v : Value) :
    (t.define id name v).scope? id' = t.scope? id' := by
  have hne : id.index ≠ id'.index := fun heq => h (by cases id; cases id'; simp_all)
  simp only [scope?, define, Array.getElem?_modify, if_neg hne]

theorem scope?_setGenerator_self (state : GeneratorState) :
    (t.setGenerator id state).scope? id =
      (t.scope? id).map fun s => { s with generator := some state } := by
  simp only [scope?, setGenerator, Array.getElem?_modify, if_true]

theorem scope?_setGenerator_of_ne {id' : ScopeId} (h : id' ≠ id) (state : GeneratorState) :
    (t.setGenerator id state).scope? id' = t.scope? id' := by
  have hne : id.index ≠ id'.index := fun heq => h (by cases id; cases id'; simp_all)
  simp only [scope?, setGenerator, Array.getElem?_modify, if_neg hne]

theorem scope?_addScope_of_ne (kind : ScopeKind) (parent : Option ScopeId)
    (state : Option GeneratorState) (h : id.index ≠ t.scopes.size) :
    (t.addScope kind parent state).2.scope? id = t.scope? id := by
  simp only [scope?, addScope, Array.getElem?_push, if_neg h]

theorem scope?_addScope_self (kind : ScopeKind) (parent : Option ScopeId)
    (state : Option GeneratorState) :
    (t.addScope kind parent state).2.scope? ⟨t.scopes.size⟩ =
      some ⟨kind, .empty, parent, state⟩ := by
  simp [scope?, addScope]

theorem lt_size_of_scope? {x : Scope} (h : t.scope? id = some x) : id.index < t.scopes.size := by
  refine Nat.lt_of_not_le fun outside => ?_
  rw [scope?, Array.getElem?_eq_none outside] at h
  cases h

/-- A name that a scope itself binds means what it is bound to. -/
theorem find?_of_findLocal? {name : String} {v : Value} (own : t.findLocal? id name = some v) :
    t.find? id name = some v := by
  unfold findLocal? bindings at own
  unfold find?
  cases hx : t.scope? id with
  | none =>
    rw [hx] at own
    cases own
  | some x =>
    rw [hx] at own
    dsimp only at own ⊢
    rw [own]

end ScopeTree

/-! ## Generators of a tree of scopes -/

namespace ScopeTree

variable (t : ScopeTree) (id id' : ScopeId)

theorem generator?_of_size_le (h : t.scopes.size ≤ id.index) : t.generator? id = none := by
  rw [generator?, scope?, Array.getElem?_eq_none h, Option.bind_none]

theorem lt_size_of_generator? {s : GeneratorState} (h : t.generator? id = some s) :
    id.index < t.scopes.size := by
  refine Nat.lt_of_not_le fun hge => ?_
  rw [t.generator?_of_size_le id hge] at h
  cases h

@[simp] theorem generator?_define (name : String) (v : Value) :
    (t.define id name v).generator? id' = t.generator? id' := by
  simp only [generator?, scope?, define, Array.getElem?_modify]
  split
  · cases t.scopes[id'.index]? <;> rfl
  · rfl

theorem generator?_setGenerator_of_ne (h : id' ≠ id) (s : GeneratorState) :
    (t.setGenerator id s).generator? id' = t.generator? id' := by
  have hne : id.index ≠ id'.index := fun heq => h (by cases id; cases id'; simp_all)
  simp only [generator?, scope?, setGenerator, Array.getElem?_modify, if_neg hne]

theorem generator?_setGenerator_self {s : GeneratorState} (h : t.generator? id = some s)
    (s' : GeneratorState) : (t.setGenerator id s').generator? id = some s' := by
  have hlt := t.lt_size_of_generator? id h
  simp only [generator?, scope?, setGenerator, Array.getElem?_modify, if_true,
    Array.getElem?_eq_getElem hlt, Option.map_some, Option.bind_some]

/-- The last place that a generator was brought to is where it is. -/
theorem setGenerator_setGenerator (s s' : GeneratorState) :
    (t.setGenerator id s).setGenerator id s' = t.setGenerator id s' := by
  simp only [setGenerator, ScopeTree.mk.injEq]
  refine Array.ext_getElem? fun i => ?_
  simp only [Array.getElem?_modify]
  split
  · cases t.scopes[i]? <;> rfl
  · rfl

/-- To bring a generator to where it is changes nothing. -/
theorem setGenerator_of_generator? {s : GeneratorState} (h : t.generator? id = some s) :
    t.setGenerator id s = t := by
  obtain ⟨scopes⟩ := t
  simp only [setGenerator, ScopeTree.mk.injEq]
  refine Array.ext_getElem? fun i => ?_
  rw [Array.getElem?_modify]
  split
  · rename_i hi
    subst hi
    simp only [generator?, scope?] at h
    cases hs : scopes[id.index]? with
    | none => rfl
    | some scope =>
      rw [hs] at h
      obtain ⟨kind, bindings, parent, generator⟩ := scope
      simp only [Option.bind_some] at h
      rw [Option.map_some, h]
  · rfl

theorem generator?_addScope_self (kind : ScopeKind) (parent : Option ScopeId)
    (g : Option GeneratorState) :
    (t.addScope kind parent g).2.generator? (t.addScope kind parent g).1 = g := by
  simp [generator?, scope?, addScope]

theorem generator?_addScope_of_ne (kind : ScopeKind) (parent : Option ScopeId)
    (g : Option GeneratorState) (h : id.index ≠ t.scopes.size) :
    (t.addScope kind parent g).2.generator? id = t.generator? id := by
  simp only [generator?, scope?, addScope, Array.getElem?_push, if_neg h]

/-- **All generators are at places of a kind.** -/
def AllGenerators (P : GeneratorState → Prop) (t : ScopeTree) : Prop :=
  ∀ id s, t.generator? id = some s → P s

namespace AllGenerators

variable {P : GeneratorState → Prop} {t : ScopeTree} (h : t.AllGenerators P)

include h

theorem define (id : ScopeId) (name : String) (v : Value) :
    (t.define id name v).AllGenerators P :=
  fun id' s found => h id' s (by rwa [generator?_define] at found)

theorem setGenerator (id : ScopeId) {s : GeneratorState} (hs : P s) :
    (t.setGenerator id s).AllGenerators P := by
  intro id' s' found
  by_cases hne : id' = id
  · subst hne
    simp only [generator?, scope?, ScopeTree.setGenerator, Array.getElem?_modify, if_true,
      Option.bind_map, Option.bind_eq_some_iff] at found
    obtain ⟨_, -, found⟩ := found
    cases found
    exact hs
  · rw [generator?_setGenerator_of_ne _ _ _ hne] at found
    exact h id' s' found

theorem addScope (kind : ScopeKind) (parent : Option ScopeId) {g : Option GeneratorState}
    (hg : ∀ s ∈ g, P s) : (t.addScope kind parent g).2.AllGenerators P := by
  rintro ⟨i⟩ s found
  by_cases hi : i = t.scopes.size
  · subst hi
    exact hg s ((t.generator?_addScope_self kind parent g).symm.trans found)
  · rw [generator?_addScope_of_ne _ ⟨i⟩ kind parent g hi] at found
    exact h ⟨i⟩ s found

end AllGenerators

end ScopeTree

/-- What is no generator counts as one that is running. -/
theorem ScopeTree.AllGenerators.state {P : GeneratorState → Prop} {m : Machine}
    (h : m.scopes.AllGenerators P) (running : P .running) (id : GeneratorId) :
    P (m.generator id).state := by
  show P ((m.scopes.generator? id.scope).getD .running)
  cases hid : m.scopes.generator? id.scope with
  | none => exact running
  | some s => exact h _ _ hid

/-! ## Machines over time -/

/-- What a scope says of its generator can come to be something else: a
generator goes through transitions, and one that is new started with a body. -/
def GeneratorState.Came : Option GeneratorState → Option GeneratorState → Prop
  | some s, some s' => Steps s s'
  | none, some s' => ∃ body, Steps (.notStarted body) s'
  | none, none => True
  | some _, none => False

theorem GeneratorState.Came.refl (g : Option GeneratorState) : Came g g := by
  cases g with
  | none => trivial
  | some s => exact Relation.ReflTransGen.refl

theorem GeneratorState.Came.trans {g g' g'' : Option GeneratorState} (h : Came g g')
    (h' : Came g' g'') : Came g g'' := by
  match g, g', g'', h, h' with
  | some _, some _, some _, h, h' => exact Relation.ReflTransGen.trans h h'
  | none, some _, some _, ⟨body, h⟩, h' => exact ⟨body, Relation.ReflTransGen.trans h h'⟩
  | none, none, some _, _, h' => exact h'
  | none, none, none, _, _ => trivial

namespace Machine

/-- **A machine that can come after another one.** -/
def Evolved (m m' : Machine) : Prop :=
  ∀ id, GeneratorState.Came (m.scopes.generator? id) (m'.scopes.generator? id)

theorem Evolved.refl (m : Machine) : m.Evolved m := fun _ => .refl _

theorem Evolved.trans {m m' m'' : Machine} (h : m.Evolved m') (h' : m'.Evolved m'') :
    m.Evolved m'' := fun id => (h id).trans (h' id)

/-- A transition of one generator. -/
theorem Evolved.setGenerator {m m' : Machine} (h : m.Evolved m') {id : ScopeId}
    {s s' : GeneratorState} (hs : m'.scopes.generator? id = some s)
    (hstep : GeneratorState.Steps s s') :
    m.Evolved { m' with scopes := m'.scopes.setGenerator id s' } := by
  refine h.trans fun id' => ?_
  by_cases heq : id' = id
  · subst heq
    show GeneratorState.Came _ ((m'.scopes.setGenerator id' s').generator? id')
    rw [m'.scopes.generator?_setGenerator_self id' hs, hs]
    exact hstep
  · show GeneratorState.Came _ ((m'.scopes.setGenerator id s').generator? id')
    rw [m'.scopes.generator?_setGenerator_of_ne id id' heq]
    exact .refl _

/-- The generators whose bodies are being run. -/
def running (m : Machine) : List GeneratorId :=
  (List.range m.scopes.scopes.size).filterMap fun i =>
    if (m.scopes.generator? ⟨i⟩).any GeneratorState.isRunning then some ⟨⟨i⟩⟩ else none

theorem mem_running {m : Machine} {id : GeneratorId} :
    id ∈ m.running ↔ m.scopes.generator? id.scope = some .running := by
  obtain ⟨⟨i⟩⟩ := id
  have hany : (m.scopes.generator? ⟨i⟩).any GeneratorState.isRunning = true ↔
      m.scopes.generator? ⟨i⟩ = some .running := by
    cases m.scopes.generator? ⟨i⟩ with
    | none => simp
    | some s => simp [GeneratorState.isRunning_iff]
  simp only [running, List.mem_filterMap, List.mem_range, Option.ite_none_right_eq_some,
    Option.some.injEq, GeneratorId.mk.injEq, ScopeId.mk.injEq]
  constructor
  · rintro ⟨j, -, hj, rfl⟩
    exact hany.1 hj
  · intro h
    exact ⟨i, m.scopes.lt_size_of_generator? ⟨i⟩ h, hany.2 h, rfl⟩

/-- Whether the generators that are running are exactly the given ones. -/
def runs (active : List GeneratorId) (m : Machine) : Bool :=
  m.running.all (active.contains ·) && active.all (m.running.contains ·)

theorem runs_iff {active : List GeneratorId} {m : Machine} :
    m.runs active = true ↔ ∀ id, m.scopes.generator? id.scope = some .running ↔ id ∈ active := by
  simp only [runs, Bool.and_eq_true, List.all_eq_true, List.contains_iff_mem, mem_running]
  exact ⟨fun h id => ⟨h.1 id, h.2 id⟩, fun h => ⟨fun id => (h id).1, fun id => (h id).2⟩⟩

end Machine

end MeteredScript
