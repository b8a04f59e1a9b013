import MeteredScript.Evaluation.Bounded
import MeteredScript.Proofs.Conduct.Statement

/-!
# Generators under a rule

A generator's body is run frame by frame, and a stop looks for the frame that takes care of it.
The frames stay placed under a strict rule, also those that begin with a `finally` block and go on
with what was pending there. So whatever leaves all frames of a body is what a rule lets out of
the body of a function, and a `return` among it gives the generator its value.

With this the circle closes: an evaluator that may recurse one level deeper keeps to a rule if
the one below it does (`Binds.deeper`).
-/

namespace MeteredScript

/-- Whether what is left of a body is placed. -/
def Pause.placed : Pause → Bool
  | .yielded _ _ frames => framesPlaced frames
  | .returned _ => true

/-- The same after a step. -/
def Progress.placed : Progress → Bool
  | .onward frames => framesPlaced frames
  | .paused pause => pause.placed

namespace Conduct

variable {c : Conduct} {ev : Evaluator} {frames : List Frame}

/-- What a loop does not take for itself may go on to what is around it. -/
theorem Allows.of_signal {s : Stop} (breaks : s ≠ .breaks) (continues : s ≠ .continues)
    (inLoop : Bool) : c.Allows inLoop s := fun _ => by
  cases s with
  | breaks => exact absurd rfl breaks
  | continues => exact absurd rfl continues
  | _ => rfl

namespace Lawful

variable (law : c.Lawful)

include law

/-- **What gets out of a body** is what a rule lets out of it, a `return` apart. -/
theorem stops_of_ending {α : Type} {P : α → Prop} {s : Stop}
    (ends : Ending (c.Allows false) P (.error s : Except Stop α)) (other : ∀ v, s ≠ .returns v) :
    c.Stops s :=
  law.stops other ends

theorem stops_escaped {s : Stop} (stops : c.Stops s) : c.Stops (escaped s) := by
  unfold escaped
  split
  · exact law.stops_fault _
  · exact stops

end Lawful

namespace Binds

variable (h : c.Binds ev)

include h

/-! ## One unit of work -/

theorem suspendAt (scope : ScopeId) (operand : Option Expr) (targets : List Expr)
    (placed : c.strict → framesPlaced frames = true) :
    c.Runs c.Stops (fun progress => c.strict → progress.placed = true)
      (suspendAt ev scope operand targets frames) := by
  cases operand with
  | none => exact .pure placed
  | some e => exact Runs.bind (h.eval e scope) fun _ _ => .pure placed

theorem beginStmt (scope : ScopeId) {s : Stmt}
    (s_placed : c.strict → s.placed (loopAround frames) = true)
    (placed : c.strict → framesPlaced frames = true) :
    c.Runs (c.Allows (loopAround frames)) (fun progress => c.strict → progress.placed = true)
      (beginStmt ev scope s frames) := by
  obtain ⟨span, form⟩ := s
  unfold MeteredScript.beginStmt
  dsimp only
  split
  · exact h.stands (h.suspendAt scope _ _ placed) _
  · exact h.stands (h.suspendAt scope _ _ placed) _
  · refine h.before (h.holds scope _) fun _ _ => ?_
    simp only [Stmt.placed, StmtForm.placed, Bool.and_eq_true, imp_and] at s_placed
    refine .ite (.pure fun strict => ?_) (.pure fun strict => ?_)
    · simp [Progress.placed, Frame.placed, s_placed.1 strict, placed strict]
    · simp [Progress.placed, s_placed.2 strict, placed strict]
  · simp only [Stmt.placed, StmtForm.placed, Bool.and_eq_true, imp_and] at s_placed
    exact .pure fun strict => by
      simp [Progress.placed, Frame.placed, s_placed.1 strict, s_placed.2 strict, placed strict]
  · simp only [Stmt.placed, StmtForm.placed, Bool.and_eq_true, imp_and] at s_placed
    refine h.before (h.eval _ scope) fun v _ => h.before (h.startIteration v) fun _ _ => ?_
    exact .pure fun strict => by
      simp [Progress.placed, Frame.placed, s_placed.1 strict, s_placed.2 strict, placed strict]
  · simp only [Stmt.placed, StmtForm.placed, Bool.and_eq_true, imp_and] at s_placed
    exact .pure fun strict => by
      simp [Progress.placed, Frame.placed, Frame.isLoop, s_placed.1.1.1 strict,
        s_placed.1.1.2 strict, s_placed.1.2 strict, s_placed.2 strict, placed strict]
  · refine h.before (h.eval _ scope) fun v _ => ?_
    refine h.before (h.selectCase scope v s_placed) fun body body_placed => ?_
    exact .pure fun strict => by simp [Progress.placed, body_placed strict, placed strict]
  · exact Runs.bind (h.exec scope s_placed) fun _ _ => .pure placed

/-- **A unit of work** on placed frames leaves placed frames, and it stops for nothing that the
frames around it do not take care of. -/
theorem advanceFrame (scope : ScopeId) {frame : Frame}
    (placed : c.strict → framesPlaced (frame :: frames) = true) :
    c.Runs (c.Allows (loopAround frames)) (fun progress => c.strict → progress.placed = true)
      (advanceFrame ev scope frame frames) := by
  simp only [framesPlaced_cons, Bool.and_eq_true, imp_and] at placed
  obtain ⟨frame_placed, placed⟩ := placed
  have cleaned {last : Option Block}
      (last_placed : c.strict → optionalBlockPlaced (loopAround frames) last = true) :
      c.strict → (Progress.onward (enterCleanup last none frames)).placed = true :=
    fun strict => framesPlaced_enterCleanup (last_placed strict) rfl (placed strict)
  unfold MeteredScript.advanceFrame
  split
  · exact .pure placed
  · rename_i s rest
    simp only [Frame.placed, blockPlaced, Bool.and_eq_true, imp_and] at frame_placed
    have rest_placed : c.strict → framesPlaced (.suite rest :: frames) = true := fun strict => by
      simp [Frame.placed, frame_placed.2 strict, placed strict]
    exact .ite (h.beginStmt scope frame_placed.1 rest_placed)
      (Runs.bind (h.exec scope frame_placed.1) fun _ _ => .pure rest_placed)
  · simp only [Frame.placed, Bool.and_eq_true, imp_and] at frame_placed
    refine h.before (h.holds scope _) fun _ _ =>
      .ite (.pure fun strict => ?_) (.pure fun strict => ?_)
    · simp [Progress.placed, Frame.placed, Frame.isLoop, frame_placed.1 strict,
        frame_placed.2 strict, placed strict]
    · simp [Progress.placed, frame_placed.2 strict, placed strict]
  · simp only [Frame.placed, Bool.and_eq_true, imp_and] at frame_placed
    refine h.before (h.next? _) fun next _ => ?_
    split
    · refine h.before (h.assignTarget scope _ _) fun _ _ => .pure fun strict => ?_
      simp [Progress.placed, Frame.placed, Frame.isLoop, frame_placed.1 strict,
        frame_placed.2 strict, placed strict]
    · exact .pure fun strict => by simp [Progress.placed, frame_placed.2 strict, placed strict]
  · simp only [Frame.placed, optionalBlockPlaced, Bool.and_eq_true, imp_and] at frame_placed
    exact .pure fun strict => by
      simp [Progress.placed, Frame.placed, Frame.isLoop, frame_placed.1.2 strict,
        frame_placed.2 strict, placed strict]
  · simp only [Frame.placed, Bool.and_eq_true, imp_and] at frame_placed
    exact .pure (cleaned frame_placed.2)
  · exact .pure (cleaned frame_placed)
  · exact h.before h.popHandling fun _ _ => .pure (cleaned frame_placed)
  · exact .throw fun strict => by simpa [Frame.placed] using frame_placed strict
  · exact .pure placed

/-! ## Stops -/

theorem enterHandler (scope : ScopeId) {handlers : List Handler} {last : Option Block} {s : Stop}
    (handlers_placed : c.strict → handlersPlaced (loopAround frames) handlers = true)
    (last_placed : c.strict → optionalBlockPlaced (loopAround frames) last = true)
    (placed : c.strict → framesPlaced frames = true) (allowed : c.Allows (loopAround frames) s) :
    c.Runs c.Stops (Ending (c.Allows (loopAround frames))
        fun entered => c.strict → framesPlaced entered = true)
      (enterHandler ev scope handlers last s frames) := by
  unfold MeteredScript.enterHandler
  split
  · refine (h.attempt (h.findHandler scope _ handlers_placed)).bind fun found bodies => ?_
    split
    · refine Runs.bind (h.bindException scope _ _) fun _ _ =>
        Runs.bind (h.pushHandling _) fun _ _ => .pure fun strict => ?_
      have body_placed := bodies _ rfl strict
      simp [Frame.placed, Frame.isLoop, body_placed, last_placed strict, placed strict]
    · exact .pure allowed
    · exact .pure (h.allows_of_stops _ bodies)
  · exact .pure allowed

/-- **A stop finds a frame that takes care of it**, unless it may get out of the body. -/
theorem unwind (scope : ScopeId) {s : Stop} (placed : c.strict → framesPlaced frames = true)
    (allowed : c.Allows (loopAround frames) s) :
    c.Runs c.Stops (Ending (c.Allows false) fun found => c.strict → framesPlaced found = true)
      (unwind ev scope s frames) := by
  have cleaned {frames : List Frame} {last : Option Block} {s : Stop}
      (last_placed : c.strict → optionalBlockPlaced (loopAround frames) last = true)
      (placed : c.strict → framesPlaced frames = true) (allowed : c.Allows (loopAround frames) s) :
      c.strict → framesPlaced (enterCleanup last (some s) frames) = true :=
    fun strict => framesPlaced_enterCleanup (last_placed strict)
      (by simpa using allowed strict) (placed strict)
  induction frames generalizing s with
  | nil => exact .pure allowed
  | cons frame frames ih =>
    have here := placed
    simp only [framesPlaced_cons, Bool.and_eq_true, imp_and] at placed
    obtain ⟨frame_placed, placed⟩ := placed
    match frame with
    | .suite _ => exact ih placed allowed
    | .whileLoop .. | .forLoop .. =>
      unfold MeteredScript.unwind
      split
      · exact .pure placed
      · exact .pure here
      · exact ih placed (.of_signal ‹_› ‹_› _)
    | .guarded handlers orElse last =>
      simp only [Frame.placed, Bool.and_eq_true, imp_and] at frame_placed
      refine (h.enterHandler scope frame_placed.1.1 frame_placed.2 placed allowed).bind
        fun entered ends => ?_
      split
      · exact .pure ends
      · exact .ite (.pure (cleaned frame_placed.2 placed ends)) (ih placed ends)
    | .afterBody last =>
      exact .ite (.pure (cleaned frame_placed placed allowed)) (ih placed allowed)
    | .handling f last =>
      exact Runs.bind h.popHandling fun _ _ =>
        .ite (.pure (cleaned frame_placed placed allowed)) (ih placed allowed)
    | .cleanup pending => exact ih placed allowed

/-! ## Driving -/

theorem recover (scope : ScopeId) {s : Stop} (placed : c.strict → framesPlaced frames = true)
    (allowed : c.Allows (loopAround frames) s) :
    c.Runs c.Stops (fun progress => c.strict → progress.placed = true)
      (recover ev scope s frames) := by
  refine (h.unwind scope placed allowed).bind fun found ends => ?_
  split
  · exact .pure ends
  · exact .pure fun _ => rfl
  · exact .throw (h.stops_of_ending ends ‹_›)

theorem turn (scope : ScopeId) {frame : Frame}
    (placed : c.strict → framesPlaced (frame :: frames) = true) :
    c.Runs c.Stops (fun progress => c.strict → progress.placed = true)
      (turn ev scope frame frames) := by
  have rest : c.strict → framesPlaced frames = true := fun strict => by
    have both := placed strict
    rw [framesPlaced_cons, Bool.and_eq_true] at both
    exact both.2
  refine (h.attempt h.tick).bind fun paid ends => ?_
  split
  · exact h.recover scope placed (h.allows_of_stops _ ends)
  · refine (h.attempt (h.advanceFrame scope placed)).bind fun advanced ends => ?_
    split
    · exact .pure ends
    · exact h.recover scope rest ends

theorem drive (scope : ScopeId) (rounds : Nat) (placed : c.strict → framesPlaced frames = true) :
    c.Runs c.Stops (fun pause => c.strict → pause.placed = true)
      (drive ev scope rounds frames) := by
  induction rounds generalizing frames with
  | zero => exact .throw h.stops_endless
  | succ rounds ih =>
    cases frames with
    | nil => exact .pure fun _ => rfl
    | cons frame frames =>
      refine (h.turn scope placed).bind fun progress progress_placed => ?_
      cases progress with
      | onward frames => exact ih progress_placed
      | paused pause => exact .pure progress_placed

theorem driveFrom (scope : ScopeId) (targets : List Expr) (resume : Resume)
    (placed : c.strict → framesPlaced frames = true) :
    c.Runs c.Stops (fun pause => c.strict → pause.placed = true)
      (driveFrom ev scope targets frames resume) := by
  have delivered : c.Governs (deliver ev scope targets resume) := by
    cases resume with
    | send v => exact h.assignAll scope v targets
    | throw e => exact h.fail _
  have woken : c.Runs c.Stops (fun progress => c.strict → progress.placed = true)
      (wake ev scope targets frames resume) := by
    refine (h.attempt delivered).bind fun r ends => ?_
    split
    · exact .pure placed
    · exact h.recover scope placed (h.allows_of_stops _ ends)
  refine woken.bind fun progress progress_placed => ?_
  cases progress with
  | onward rest => exact h.drive scope _ progress_placed
  | paused pause => exact .pure progress_placed

/-! ## The protocol -/

theorem settle (id : GeneratorId) {outcome : Except Stop Pause}
    (ends : Ending c.Stops (fun pause => c.strict → pause.placed = true) outcome) :
    c.Governs (settle id outcome) := by
  unfold MeteredScript.settle
  split
  · rename_i v targets frames
    have placed : c.strict → (GeneratorState.suspended targets frames).placed = true := ends
    exact (h.setGeneratorState id placed).bind fun _ => .pure v
  · exact (h.setGeneratorState id fun _ => rfl).bind fun _ => h.fail _
  · exact (h.setGeneratorState id fun _ => rfl).bind fun _ => .throw (h.stops_escaped ends)

theorem runSuspended (id : GeneratorId) (targets : List Expr) (resume : Resume)
    (placed : c.strict → framesPlaced frames = true) :
    c.Governs (runSuspended ev id targets frames resume) := by
  refine (h.inFrame (Runs.bind (h.setGeneratorState id fun _ => rfl) fun _ _ =>
    (h.withHandled (h.driveFrom id.scope targets resume placed) _).bind fun _ ends =>
      Lawful.ofStop ends)).bind fun outcome ends => h.settle id ends

/-- **Resuming a generator keeps to a rule.** -/
theorem resumeGenerator (id : GeneratorId) (resume : Resume) :
    c.Governs (resumeGenerator ev id resume) := by
  refine (h.generatorState id).bind fun state placed => ?_
  unfold resumeFrom
  split
  · exact h.fail _
  · exact h.fail _
  · exact h.fail _
  · exact (h.setGeneratorState id fun _ => rfl).bind fun _ => h.fail _
  · rename_i body v
    have body_placed : c.strict → framesPlaced [.suite body] = true := fun strict => by
      have whole : blockPlaced false body = true := placed strict
      simp [Frame.placed, framesPlaced, loopAround, whole]
    exact .ite (h.runSuspended id _ _ body_placed) (h.fail _)
  · exact h.runSuspended id _ _ placed

/-! ## Closing the circle -/

/-- **One level of recursion more.** -/
theorem deeper (aborts : c.Governs Eval.abort) : c.Binds ev.deeper where
  toLawful := h.toLawful
  eval := h.evalExpr aborts
  exec := h.execStmt
  resume := h.resumeGenerator

end Binds

/-- **Every evaluator keeps to a lawful rule.** -/
theorem Lawful.bounded (law : c.Lawful) (aborts : c.Governs Eval.abort) (bound : Nat) :
    c.Binds (.bounded bound) := by
  induction bound with
  | zero =>
    exact ⟨law, fun _ _ => .throw law.stops_endless, fun _ _ => .throw allows_endless,
      fun _ _ => .throw law.stops_endless⟩
  | succ bound ih => exact ih.deeper aborts

end Conduct

end MeteredScript
