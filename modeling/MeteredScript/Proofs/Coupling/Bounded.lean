import MeteredScript.Proofs.Coupling.Drive

/-!
# Two bounded evaluators

Here the circle of evaluation is closed for couplings. If two evaluators do the
same, so do the two that may recurse one level deeper, provided that resuming
and closing generators is taken care of (`Couples.deeper`). That is what
`Complete` asks for, and it gives `Complete.bounded`: a run to which nothing is
endless does the same with more room to recurse.
-/

namespace MeteredScript

@[simp] theorem rounds_bounded (n : Nat) : (Evaluator.bounded n).rounds = n := by
  induction n with
  | zero => rfl
  | succ n ih => exact congrArg (· + 1) ih

namespace Coupling

variable {c : Coupling} {ev ev' : Evaluator}

/-- **One level of recursion more.** -/
theorem Couples.deeper (h : c.Couples ev ev')
    (hresume : ∀ id r, c.Sim (resumeGenerator ev id r) (resumeGenerator ev' id r))
    (hclose : ∀ id, c.Sim (closeGenerator ev.deeper id) (closeGenerator ev'.deeper id)) :
    c.Couples ev.deeper ev'.deeper where
  toLawful := h.toLawful
  eval := h.evalExpr
  exec := h.execStmt
  resume := hresume
  close := hclose
  rounds := .more h.rounds
  unwinds := .inl fun _ _ => Unwinds.bind (Unwinds.charge 1) fun _ => False.elim

/-- Both runs close a generator in the same way. -/
theorem closeGenerator_sim (hc : c.Settled) (id : GeneratorId)
    (hread : c.Sim (Eval.generatorState id) (Eval.generatorState id))
    (hresume : ∀ r, c.Sim (ev.resume id r) (ev'.resume id r)) :
    c.Sim (closeGenerator ev id) (closeGenerator ev' id) := by
  have hset : c.Sim (Eval.setGeneratorState id (.completed (.returned .none)))
      (Eval.setGeneratorState id (.completed (.returned .none))) :=
    hc.setGeneratorState id (shows_nil c)
  have hanswer (result : Except Stop Value) :
      c.Sim (answerExit id result) (answerExit id result) := by
    unfold answerExit
    split
    · exact Sim.fail _
    · exact Sim.pure ()
    · exact Sim.ite hset (Sim.throw _)
  refine Sim.bind hread fun state => ?_
  match state with
  | .notStarted _ => exact hset
  | .completed _ => exact Sim.pure ()
  | .suspended _ _ | .running =>
    exact SimOf.attempt_bindOf (hresume _) (fun result _ => hanswer result) Unwinds.throw
      fun _ _ => trivial

/-- **The states of generators agree**, and so does what they will run. -/
structure Whole (c : Coupling) : Prop extends c.Lawful, c.Steady, c.Settled where
  generatorState (id : GeneratorId) :
    c.SimOf (fun state => c.Shows state.names) (Eval.generatorState id) (Eval.generatorState id)

/-- **Nothing more is needed** to couple bounded evaluators: the states of generators
agree, and if two runs part, nothing is said about a left run without end. -/
structure Complete (c : Coupling) : Prop extends c.Whole where
  patient : c.Patient := by exact .of_united _

/-- There is no end to running a statement with this evaluator. -/
theorem idles_idle : Evaluator.idle.Idles := fun _ _ => rfl

namespace Whole

variable (hc : c.Whole)

include hc

theorem closeGenerator (hresume : ∀ id r, c.Sim (ev.resume id r) (ev'.resume id r))
    (id : GeneratorId) : c.Sim (closeGenerator ev id) (closeGenerator ev' id) :=
  closeGenerator_sim hc.toSettled id (hc.generatorState id).sim (hresume id)

/-- The evaluator to which everything is endless does the same as itself. -/
theorem idle : c.Couples .idle .idle := by
  have hresume (id : GeneratorId) (r : Resume) :
      c.Sim (Evaluator.idle.resume id r) (Evaluator.idle.resume id r) := Sim.throw .endless
  exact ⟨hc.toLawful, fun _ => Sim.throw _, fun _ => Sim.throw _, hresume,
    hc.closeGenerator hresume, .done, .inr ⟨idles_idle, idles_idle⟩⟩

end Whole

namespace Complete

variable (hc : c.Complete)

include hc

theorem deeper (h : c.Couples ev ev') : c.Couples ev.deeper ev'.deeper := by
  have hresume (id : GeneratorId) (r : Resume) :
      c.Sim (resumeGenerator ev id r) (resumeGenerator ev' id r) :=
    SimOf.bind (hc.generatorState id) fun state hs => h.resumeFrom hc.toSteady hc.patient hc.toSettled id hs r
  exact h.deeper hresume (hc.closeGenerator hresume)

/-- **A bounded evaluator does the same as itself** on machines that are
alike. -/
theorem bounded_self (n : Nat) : c.Couples (.bounded n) (.bounded n) := by
  induction n with
  | zero => exact hc.idle
  | succ n ih => exact hc.deeper ih

/-- A left evaluator to which everything is endless is as good as any. -/
theorem idle_left (hp : c.patientLeft) (h : c.Couples ev ev') : c.Couples .idle ev' := by
  have hresume (id : GeneratorId) (r : Resume) :
      c.Sim (Evaluator.idle.resume id r) (ev'.resume id r) :=
    SimOf.endless_left hp (h.resume id r)
  exact ⟨hc.toLawful, fun hn => SimOf.endless_left hp (h.eval hn),
    fun hn => SimOf.endless_left hp (h.exec hn), hresume, hc.closeGenerator hresume, .left _ hp,
    .inl fun _ _ => Unwinds.endless hp⟩

/-- So is a right one. -/
theorem idle_right (hp : c.patientRight) (h : c.Couples ev ev') : c.Couples ev .idle := by
  have hresume (id : GeneratorId) (r : Resume) :
      c.Sim (ev.resume id r) (Evaluator.idle.resume id r) :=
    SimOf.endless_right hp (h.resume id r)
  exact ⟨hc.toLawful, fun hn => SimOf.endless_right hp (h.eval hn),
    fun hn => SimOf.endless_right hp (h.exec hn), hresume, hc.closeGenerator hresume, .right _ hp,
    h.unwinds.imp id fun h => ⟨h.1, idles_idle⟩⟩

/-- **More room to recurse changes nothing** but what was endless. -/
theorem bounded {n n' : Nat} (hn : c.Rounds n n') : c.Couples (.bounded n) (.bounded n') := by
  induction hn with
  | done => exact hc.bounded_self 0
  | left n hp => exact hc.idle_left hp (hc.bounded_self n)
  | right n hp => exact hc.idle_right hp (hc.bounded_self n)
  | more _ ih => exact hc.deeper ih

end Complete

end Coupling

end MeteredScript
