import MeteredScript.Proofs.Coupling.Invariant
import MeteredScript.Proofs.Lifecycle.Transition

/-!
# Keeping track of what runs

While a script runs, the generators that are running are those whose resumes
are inside one another at the moment, and they are known from outside: whoever
resumes a generator knows of one more. `Tracked` says so of a machine,
relative to the machine at some earlier point, after which each generator has
gone through transitions of its life and nothing else.

To resume a generator is to pass from one list of active generators to a longer
one and back. So there is one coupling for each list, and they are dealt with
together.
-/

namespace MeteredScript

open Coupling GeneratorState

variable {active : List GeneratorId} {m₀ m : Machine} {id : GeneratorId}

/-! ## Resumes that are refused -/

@[simp] theorem on_generatorState (id : GeneratorId) (m : Machine) :
    (Eval.generatorState id).on m = (.ok (m.generator id).state, m) := rfl

theorem generator_of_eq_some {s : GeneratorState}
    (h : m.scopes.generator? id.scope = some s) : (m.generator id).state = s := by
  rw [Machine.generator, h, Option.getD_some]

section Refused

variable (ev : Evaluator)

theorem on_resumeGenerator (r : Resume) :
    (resumeGenerator ev id r).on m = (resumeFrom ev id (m.generator id).state r).on m :=
  Eval.on_bind_ok (on_generatorState id m) _

/-- **A generator that is running cannot be resumed.** -/
theorem on_resume_of_running (h : (m.generator id).state = .running) (r : Resume) :
    (resumeGenerator ev id r).on m = (.error (.fault .alreadyExecuting), m) := by
  rw [on_resumeGenerator, h]
  rfl

/-- A generator that has not started takes no value. -/
theorem on_resume_of_early {body : Block} (h : (m.generator id).state = .notStarted body)
    {v : Value} (hv : v.isNone = false) :
    (resumeGenerator ev id (.send v)).on m = (.error (.fault (.typeFault .earlySend)), m) := by
  rw [on_resumeGenerator, h, resumeFrom, hv]
  rfl

theorem on_runSuspended_of_le (h : m.config.maxCallDepth ≤ m.depth) (targets : List Expr)
    (frames : List Frame) (r : Resume) :
    (runSuspended ev id targets frames r).on m = (.error (.fault .recursionLimit), m) :=
  Eval.on_bind_error (Eval.on_inFrame_of_le h _) _

/-- **A resume that is too deep changes nothing**: it is either refused for
another reason, or for its depth. -/
theorem on_resume_of_le (h : m.config.maxCallDepth ≤ m.depth) (r : Resume)
    (hstart : ∀ body e, (m.generator id).state = .notStarted body → r ≠ .throw e) :
    ((resumeGenerator ev id r).on m).2 = m := by
  rw [on_resumeGenerator]
  match hs : (m.generator id).state, r with
  | .running, _ => rfl
  | .completed _, .send _ => rfl
  | .completed _, .throw _ => rfl
  | .notStarted body, .throw e => exact absurd rfl (hstart body e hs)
  | .notStarted body, .send v =>
    rw [resumeFrom]
    split
    · rw [on_runSuspended_of_le ev h]
    · rfl
  | .suspended targets frames, r =>
    rw [resumeFrom, on_runSuspended_of_le ev h]

end Refused

/-! ## The invariant -/

/-- **The generators that are running are known**, and each generator has gone
through transitions since an earlier machine. -/
structure Tracked (active : List GeneratorId) (m₀ m : Machine) : Prop where
  evolved : m₀.Evolved m
  running (id : GeneratorId) : m.scopes.generator? id.scope = some .running ↔ id ∈ active

namespace Tracked

/-- It is about the generators of the scopes alone. -/
theorem of_eq {m' : Machine} (h : Tracked active m₀ m)
    (hg : ∀ id, m'.scopes.generator? id = m.scopes.generator? id) : Tracked active m₀ m' where
  evolved id := by rw [hg]; exact h.evolved id
  running id := by rw [hg]; exact h.running id

theorem trans {m₁ : Machine} (h₁ : Tracked active m₀ m₁) (h : Tracked active m₁ m) :
    Tracked active m₀ m :=
  ⟨h₁.evolved.trans h.evolved, h.running⟩

/-- A new scope, in which perhaps a generator starts. -/
theorem addScope (h : Tracked active m₀ m) (kind : ScopeKind) (parent : Option ScopeId)
    {g : Option GeneratorState} (hg : ∀ s ∈ g, ∃ body, s = .notStarted body) :
    Tracked active m₀ { m with scopes := (m.scopes.addScope kind parent g).2 } := by
  have hnew : m.scopes.generator? ⟨m.scopes.scopes.size⟩ = none :=
    m.scopes.generator?_of_size_le _ (Nat.le_refl _)
  refine ⟨h.evolved.trans fun id => ?_, fun id => ?_⟩
  · show Came (m.scopes.generator? id) ((m.scopes.addScope kind parent g).2.generator? id)
    by_cases hid : id.index = m.scopes.scopes.size
    · obtain rfl : id = ⟨m.scopes.scopes.size⟩ := by rw [← hid]
      rw [hnew, show (⟨m.scopes.scopes.size⟩ : ScopeId) = (m.scopes.addScope kind parent g).1 from rfl,
        m.scopes.generator?_addScope_self]
      match g with
      | none => trivial
      | some s =>
        obtain ⟨body, rfl⟩ := hg s rfl
        exact ⟨body, Relation.ReflTransGen.refl⟩
    · rw [m.scopes.generator?_addScope_of_ne id kind parent g hid]
      exact .refl _
  · show (m.scopes.addScope kind parent g).2.generator? id.scope = _ ↔ _
    by_cases hid : id.scope.index = m.scopes.scopes.size
    · have hscope : id.scope = ⟨m.scopes.scopes.size⟩ := by rw [← hid]
      rw [← h.running id, hscope, hnew,
        show (⟨m.scopes.scopes.size⟩ : ScopeId) = (m.scopes.addScope kind parent g).1 from rfl,
        m.scopes.generator?_addScope_self]
      refine ⟨fun hrunning => ?_, fun hrunning => by cases hrunning⟩
      obtain ⟨body, hbody⟩ := hg _ hrunning
      cases hbody
    · rw [m.scopes.generator?_addScope_of_ne id.scope kind parent g hid]
      exact h.running id

/-- **A generator starts to run.** -/
theorem run (h : Tracked active m₀ m) {s : GeneratorState}
    (hs : m.scopes.generator? id.scope = some s) (hstep : s.Step .running) :
    Tracked (id :: active) m₀ { m with scopes := m.scopes.setGenerator id.scope .running } := by
  refine ⟨h.evolved.setGenerator hs (.single hstep), fun id' => ?_⟩
  show (m.scopes.setGenerator id.scope .running).generator? id'.scope = _ ↔ _
  by_cases heq : id' = id
  · subst heq
    simp [m.scopes.generator?_setGenerator_self _ hs]
  · have hne : id'.scope ≠ id.scope := fun hscope => heq (by cases id; cases id'; simp_all)
    rw [m.scopes.generator?_setGenerator_of_ne _ _ hne, h.running id', List.mem_cons]
    exact ⟨.inr, fun hor => hor.resolve_left heq⟩

/-- **A generator stops running.** -/
theorem stop (h : Tracked (id :: active) m₀ m) (hid : id ∉ active) {s : GeneratorState}
    (hstep : Step .running s) :
    Tracked active m₀ { m with scopes := m.scopes.setGenerator id.scope s } := by
  have hs : m.scopes.generator? id.scope = some .running := (h.running id).2 (by simp)
  have hne : s ≠ .running := by
    rintro rfl
    cases hstep
  refine ⟨h.evolved.setGenerator hs (.single hstep), fun id' => ?_⟩
  show (m.scopes.setGenerator id.scope s).generator? id'.scope = _ ↔ _
  by_cases heq : id' = id
  · subst heq
    rw [m.scopes.generator?_setGenerator_self _ hs]
    simp [hne, hid]
  · have hscope : id'.scope ≠ id.scope := fun hscope => heq (by cases id; cases id'; simp_all)
    rw [m.scopes.generator?_setGenerator_of_ne _ _ hscope, h.running id', List.mem_cons]
    exact ⟨fun hor => hor.resolve_left heq, .inr⟩

theorem refl (h : Tracked active m₀ m) : Tracked active m m := ⟨.refl m, h.running⟩

/-- A generator that was not running completes, perhaps after something was done
that leaves the same generators running. -/
theorem complete (h : Tracked active m₀ m) {s : GeneratorState}
    (hs : m.scopes.generator? id.scope = some s) (hrunning : s ≠ .running) {c : Completion}
    (hsteps : Steps s (.completed c)) {n : Machine} (hn : Tracked active m n) :
    Tracked active m₀ { n with scopes := n.scopes.setGenerator id.scope (.completed c) } := by
  obtain ⟨s', hs'⟩ : ∃ s', n.scopes.generator? id.scope = some s' := by
    have hcame := hn.evolved id.scope
    rw [hs] at hcame
    cases hg : n.scopes.generator? id.scope with
    | none =>
      rw [hg] at hcame
      exact hcame.elim
    | some s' => exact ⟨s', rfl⟩
  have hrunning' : s' ≠ .running := by
    rintro rfl
    rw [(h.running id).2 ((hn.running id).1 hs')] at hs
    cases hs
    exact hrunning rfl
  refine ⟨h.evolved.trans fun id' => ?_, fun id' => ?_⟩
  · show Came _ ((n.scopes.setGenerator id.scope (.completed c)).generator? id')
    by_cases heq : id' = id.scope
    · subst heq
      rw [n.scopes.generator?_setGenerator_self _ hs', hs]
      exact hsteps
    · rw [n.scopes.generator?_setGenerator_of_ne _ _ heq]
      exact hn.evolved id'
  · show (n.scopes.setGenerator id.scope (.completed c)).generator? id'.scope = _ ↔ _
    rw [← hn.running id']
    by_cases heq : id'.scope = id.scope
    · rw [heq, n.scopes.generator?_setGenerator_self _ hs', hs']
      simp [hrunning']
    · rw [n.scopes.generator?_setGenerator_of_ne _ _ heq]

end Tracked

theorem tracked_kept (active : List GeneratorId) : Kept (Tracked active) where
  congr hI _ _ _ hs := hI.of_eq fun id => by rw [hs]
  define s name v hI := hI.of_eq fun id => ScopeTree.generator?_define _ s id name v
  addScope kind parent _ hg hI := hI.addScope kind parent hg
  inFrame {α P x y} h := by
    refine keeping_sim fun w m hI => ?_
    rcases Nat.lt_or_ge m.depth m.config.maxCallDepth with hlt | hge
    · rw [Eval.on_inFrame_of_lt hlt, Eval.on_inFrame_of_lt hlt]
      have hI' : Tracked active w { m with depth := m.depth + 1 } := hI.of_eq fun _ => rfl
      refine (h.alike hI').leaving (fun r _ => by simp) fun r n hn => ?_
      exact ⟨hn.1.of_eq fun _ => rfl, ifOk_ok hn.2⟩
    · rw [Eval.on_inFrame_of_le hge, Eval.on_inFrame_of_le hge]
      exact .error ⟨hI, ifOk_error _⟩
  whileHandling {α} f {x y} h := by
    refine keeping_sim fun w m hI => ?_
    rw [Eval.on_whileHandling, Eval.on_whileHandling]
    have hI' : Tracked active w { m with handling := f :: m.handling } := hI.of_eq fun _ => rfl
    refine (h.alike hI').leaving (fun r hr => hr) fun r n hn => ?_
    exact ⟨hn.1.of_eq fun _ => rfl, hn.2⟩

theorem tracked_steady (active : List GeneratorId) : (keeping (Tracked active)).Steady where
  pushHandling f := keeping_self fun _ _ hI => hI.of_eq fun _ => rfl
  popHandling := keeping_self fun _ _ hI => hI.of_eq fun _ => rfl
  withHandled {α P} faults {x y} h := by
    refine SimOf.to (keeping_sim fun w m hI => ?_)
    rw [Eval.on_withHandled, Eval.on_withHandled]
    have hI' : Tracked active w { m with handling := faults ++ m.handling } :=
      hI.of_eq fun _ => rfl
    refine (h.alike hI').leaving (fun r _ => by simp) fun r n hn => ?_
    exact ⟨hn.1.of_eq fun _ => rfl, ifOk_ok hn.2⟩

end MeteredScript
