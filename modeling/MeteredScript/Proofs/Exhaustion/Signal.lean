import MeteredScript.Proofs.Dialogue.Resumes

/-!
# The signal of exhaustion

A generator reports its end by an exception that scripts can raise themselves
and that other generators report theirs by. So an end could be faked: by a body
that raises the exception, by a caller that throws it in, or by a call in the
body to another generator that has ended. None of these gets past a resume. What
a resume reports as an end is either an end that was reached before or the
`return` of the body in this very resume (`fst_resume_eq_exhausted_iff`).
-/

namespace MeteredScript

open Coupling

/-! ## What a resume runs -/

/-- **The body of a generator is run** by a resume, up to an outcome. -/
inductive BodyRun (ev : Evaluator) (id : GeneratorId) (r : Resume) (m : Machine) :
    Except Stop Pause → Machine → Prop
  | intro {targets : List Expr} {frames : List Frame} {outcome : Except Stop Pause}
    {n : Machine} : Waiting (m.generator id).state r targets frames →
    m.depth < m.config.maxCallDepth →
    (driveFrom ev id.scope targets frames r).on (m.driving id frames) = (outcome, n) →
    BodyRun ev id r m outcome n

/-- **The answers of a resume that runs no body.** -/
inductive Answered (m : Machine) (id : GeneratorId) : Resume → Except Stop Value → Prop
  | running (r : Resume) : Answered m id r (.error (.fault .alreadyExecuting))
  | ended (v : Value) : (m.generator id).state.isCompleted = true →
    Answered m id (.send v) (.error (.fault (.exhausted .none)))
  | refused (e : Exception) : (∀ targets frames, ¬ Waiting (m.generator id).state (.throw e)
      targets frames) → Answered m id (.throw e) (.error (.fault (.raised e)))
  | early (v : Value) : Answered m id (.send v) (.error (.fault (.typeFault .earlySend)))
  | deep (r : Resume) : Answered m id r (.error (.fault .recursionLimit))

section Signal

variable {bound : Nat} {id : GeneratorId} {r : Resume} {m n : Machine}
  {outcome : Except Stop Pause} {v w : Value}

/-- A generator that has ended says so, and nothing changes. -/
theorem on_resume_of_completed (ev : Evaluator) (ended : (m.generator id).state.isCompleted = true)
    (w : Value) :
    (resumeGenerator ev id (.send w)).on m = (.error (.fault (.exhausted .none)), m) := by
  rw [on_resumeGenerator]
  cases state : (m.generator id).state with
  | completed => rfl
  | notStarted | suspended | running =>
    rw [state] at ended
    cases ended

/-- A generator that waits is known to the machine. -/
theorem generator?_of_waiting {targets : List Expr} {frames : List Frame}
    (waiting : Waiting (m.generator id).state r targets frames) :
    m.scopes.generator? id.scope = some (m.generator id).state := by
  cases found : m.scopes.generator? id.scope with
  | some state => rw [generator_of_eq_some found]
  | none =>
    have running : (m.generator id).state = .running := by
      rw [Machine.generator, found]
      rfl
    rw [running] at waiting
    cases waiting

/-- **A body that was run** decides what its caller sees. -/
theorem BodyRun.on_resume (run : BodyRun (.bounded bound) id r m outcome n)
    (ends : outcome ≠ .error .endless) :
    (resumeGenerator (.bounded bound) id r).on m =
      (verdict outcome, m.resting n id (restState outcome)) := by
  obtain ⟨waiting, depth, driven⟩ := run
  exact on_resume_of_waiting (generator?_of_waiting waiting) waiting depth driven ends

/-- It also decides where the generator is in its life. -/
theorem BodyRun.state (run : BodyRun (.bounded bound) id r m outcome n)
    (ends : outcome ≠ .error .endless) :
    (((resumeGenerator (.bounded bound) id r).on m).2.generator id).state = restState outcome := by
  rw [run.on_resume ends]
  obtain ⟨waiting, depth, driven⟩ := run
  have running := running_of_driveFrom (generator?_of_waiting waiting) waiting.step driven ends
  have rests : (m.resting n id (restState outcome)).scopes.generator? id.scope =
      some (restState outcome) :=
    n.scopes.generator?_setGenerator_self id.scope running _
  rw [generator_of_eq_some rests]

/-- A body that is run without end gives no signal. -/
theorem BodyRun.endless (run : BodyRun (.bounded bound) id r m (.error .endless) n) :
    ((resumeGenerator (.bounded bound) id r).on m).1 = .error .endless := by
  obtain ⟨waiting, depth, driven⟩ := run
  exact on_resume_of_waiting_endless (generator?_of_waiting waiting) waiting depth driven

/-- **A resume runs the body or answers at once.** -/
theorem answered_or_run (ev : Evaluator) (id : GeneratorId) (r : Resume) (m : Machine) :
    Answered m id r ((resumeGenerator ev id r).on m).1 ∨
      ∃ outcome n, BodyRun ev id r m outcome n := by
  have waits {targets : List Expr} {frames : List Frame}
      (waiting : Waiting (m.generator id).state r targets frames) :
      Answered m id r ((resumeGenerator ev id r).on m).1 ∨
        ∃ outcome n, BodyRun ev id r m outcome n := by
    rcases Nat.lt_or_ge m.depth m.config.maxCallDepth with room | deep
    · exact .inr ⟨_, _, .intro waiting room rfl⟩
    · rw [on_resumeGenerator, waiting.resumeFrom_eq, on_runSuspended_of_le ev deep]
      exact .inl (.deep r)
  cases state : (m.generator id).state with
  | suspended targets frames =>
    exact waits (by rw [state]; exact .suspended targets frames r)
  | running =>
    rw [on_resume_of_running ev state]
    exact .inl (.running r)
  | notStarted body =>
    cases r with
    | throw e =>
      rw [on_resumeGenerator, state]
      exact .inl (.refused e fun _ _ waiting => by rw [state] at waiting; cases waiting)
    | send v =>
      cases start : v.isNone with
      | true =>
        rw [Value.isNone_iff.1 start] at waits ⊢
        exact waits (by rw [state]; exact .notStarted body)
      | false =>
        rw [on_resume_of_early ev state start]
        exact .inl (.early v)
  | completed c =>
    cases r with
    | throw e =>
      rw [on_resumeGenerator, state]
      exact .inl (.refused e fun _ _ waiting => by rw [state] at waiting; cases waiting)
    | send v =>
      have ended : (m.generator id).state.isCompleted = true := by rw [state]; rfl
      rw [on_resume_of_completed ev ended]
      exact .inl (.ended v ended)

/-! ## The signal -/

/-- No stop gets out of a body as an exception that reports an end. -/
theorem isInstanceOf_escaped (s : Stop) : (escaped s).isInstanceOf .stopIteration = false := by
  unfold escaped
  split
  · rfl
  · rename_i other
    exact Bool.eq_false_iff.2 other

/-- **The verdict on a body reports an end** just if the body returned. -/
theorem verdict_eq_exhausted_iff :
    verdict outcome = .error (.fault (.exhausted v)) ↔ outcome = .ok (.returned v) := by
  constructor
  · intro reported
    match outcome with
    | .ok (.yielded _ _ _) => cases reported
    | .ok (.returned _) =>
      cases reported
      rfl
    | .error s =>
      rw [verdict, Except.error.injEq] at reported
      have other := isInstanceOf_escaped s
      rw [reported] at other
      cases other
  · rintro rfl
    rfl

/-- **The signal is never faked**: a generator that is sent a value reports an end
just if it had ended before, or if its body has returned now. -/
theorem fst_send_eq_exhausted_iff :
    ((resumeGenerator (.bounded bound) id (.send w)).on m).1 = .error (.fault (.exhausted v)) ↔
      (m.generator id).state.isCompleted = true ∧ v = .none ∨
        ∃ n, BodyRun (.bounded bound) id (.send w) m (.ok (.returned v)) n := by
  constructor
  · intro reported
    rcases answered_or_run (.bounded bound) id (.send w) m with answered | ⟨outcome, n, run⟩
    · rw [reported] at answered
      cases answered with
      | ended _ ended => exact .inl ⟨ended, rfl⟩
    · by_cases endless : outcome = .error .endless
      · subst endless
        rw [run.endless] at reported
        cases reported
      · rw [run.on_resume endless, verdict_eq_exhausted_iff] at reported
        subst reported
        exact .inr ⟨n, run⟩
  · rintro (⟨ended, rfl⟩ | ⟨n, run⟩)
    · rw [on_resume_of_completed _ ended]
    · rw [run.on_resume nofun]
      rfl

/-- **What an exception that reports an end may be** when it comes out of a
resume: the signal itself, or an exception that was thrown at a generator with
no body to catch it. -/
theorem exhausted_or_refused {s : Stop}
    (failed : ((resumeGenerator (.bounded bound) id r).on m).1 = .error s)
    (reports : s.isInstanceOf .stopIteration = true) :
    (∃ v, s = .fault (.exhausted v)) ∨ ∃ e, r = .throw e ∧ s = .fault (.raised e) ∧
      ∀ targets frames, ¬ Waiting (m.generator id).state r targets frames := by
  rcases answered_or_run (.bounded bound) id r m with answered | ⟨outcome, n, run⟩
  · rw [failed] at answered
    cases answered with
    | ended v => exact .inl ⟨_, rfl⟩
    | refused e none => exact .inr ⟨e, rfl, rfl, none⟩
    | running | early | deep => cases reports
  · by_cases endless : outcome = .error .endless
    · subst endless
      rw [run.endless] at failed
      cases failed
      cases reports
    · rw [run.on_resume endless] at failed
      match outcome with
      | .ok (.yielded _ _ _) => cases failed
      | .ok (.returned v) =>
        cases failed
        exact .inl ⟨v, rfl⟩
      | .error s' =>
        cases failed
        rw [isInstanceOf_escaped] at reports
        cases reports

/-! ## How a body returns -/

/-- **A body that returns a value**, at some machine: there is nothing left of it,
or a `return` has left everything that was around it. -/
inductive Returning (ev : Evaluator) (id : GeneratorId) (r : Resume) (m : Machine) :
    Value → Machine → Prop
  | done {n : Machine} : DrivenTo ev id r m (.ok (.onward [])) n → Returning ev id r m .none n
  | left {v : Value} {n n' : Machine} {s : Stop} {frames : List Frame} :
    DrivenTo ev id r m (.ok (.paused (.returned v))) n' →
    (unwind ev id.scope s frames).on n = (.ok (.error (.returns v)), n') →
    Returning ev id r m v n'

/-- A unit of work never ends a body well by itself. -/
theorem gives_advanceFrame_ne_returned (ev : Evaluator) (scope : ScopeId) (frame : Frame)
    (frames : List Frame) :
    Eval.Gives (fun p => ∀ v, p ≠ .paused (.returned v)) (advanceFrame ev scope frame frames) := by
  have begun (st : Stmt) (frames : List Frame) :
      Eval.Gives (fun p => ∀ v, p ≠ .paused (.returned v)) (beginStmt ev scope st frames) := by
    have suspended (operand : Option Expr) (targets : List Expr) :
        Eval.Gives (fun p => ∀ v, p ≠ .paused (.returned v))
          (suspendAt ev scope operand targets frames) := by
      cases operand with
      | none => exact .pure nofun
      | some e => exact .bind fun _ => .pure nofun
    unfold beginStmt
    split
    · exact suspended _ _
    · exact suspended _ _
    · exact .bind fun _ => by split <;> exact .pure nofun
    · exact .pure nofun
    · exact .bind fun _ => .bind fun _ => .pure nofun
    · exact .pure nofun
    · exact .bind fun _ => .bind fun _ => .pure nofun
    · exact .bind fun _ => .pure nofun
  match frame with
  | .suite [] | .guarded _ (some _) _ | .guarded _ none _ | .afterBody _ | .cleanup none =>
    exact .pure nofun
  | .suite (st :: rest) =>
    unfold advanceFrame
    dsimp only
    split
    · exact begun st _
    · exact .bind fun _ => .pure nofun
  | .whileLoop condition body orElse =>
    exact .bind fun _ => by split <;> exact .pure nofun
  | .forLoop target body orElse cursor =>
    refine .bind fun next => ?_
    match next with
    | some _ => exact .bind fun _ => .pure nofun
    | none => exact .pure nofun
  | .handling _ _ => exact .bind fun _ => .pure nofun
  | .cleanup (some pending) => exact .throw pending

/-- Going on after a stop ends a body well just if a `return` leaves all
frames. -/
theorem unwind_of_recover {ev : Evaluator} {scope : ScopeId} {s : Stop} {frames : List Frame}
    (h : (recover ev scope s frames).on m = (.ok (.paused (.returned v)), n)) :
    (unwind ev scope s frames).on m = (.ok (.error (.returns v)), n) := by
  rw [recover, Eval.on_bind] at h
  split at h
  · rename_i result n' unwound
    cases result with
    | ok frames => cases h
    | error s =>
      cases s with
      | returns v =>
        cases h
        exact unwound
      | fault | breaks | continues | gasExhausted | endless => cases h
  · cases h

theorem unwind_of_turn {ev : Evaluator} {scope : ScopeId} {frame : Frame} {frames : List Frame}
    (h : (turn ev scope frame frames).on m = (.ok (.paused (.returned v)), n)) :
    ∃ s frames n', (unwind ev scope s frames).on n' = (.ok (.error (.returns v)), n) := by
  rw [turn, Eval.on_bind] at h
  split at h
  · rename_i charged n₁ _
    cases charged with
    | error s => exact ⟨_, _, _, unwind_of_recover h⟩
    | ok =>
      dsimp only at h
      rw [Eval.on_bind] at h
      split at h
      · rename_i result n₂ advanced
        cases result with
        | ok progress =>
          cases h
          have gives := (gives_advanceFrame_ne_returned ev scope frame frames).attempt
          exact absurd rfl (gives _ _ _ advanced _ rfl v)
        | error s => exact ⟨_, _, _, unwind_of_recover h⟩
      · cases h
  · cases h

/-- The same for a body that is woken. -/
theorem unwind_of_wake {ev : Evaluator} {scope : ScopeId} {targets : List Expr}
    {frames : List Frame} (h : (wake ev scope targets frames r).on m =
      (.ok (.paused (.returned v)), n)) :
    ∃ s frames n', (unwind ev scope s frames).on n' = (.ok (.error (.returns v)), n) := by
  rw [wake, Eval.on_bind] at h
  split at h
  · rename_i result n₁ _
    cases result with
    | ok => cases h
    | error s => exact ⟨_, _, _, unwind_of_recover h⟩
  · cases h

/-- What a body that was driven to its `return` has gone through. -/
theorem DrivenTo.unwound {ev : Evaluator} (h : DrivenTo ev id r m (.ok (.paused (.returned v))) n) :
    ∃ s frames n', (unwind ev id.scope s frames).on n' = (.ok (.error (.returns v)), n) := by
  cases h with
  | woken _ woken => exact unwind_of_wake woken
  | turned _ turned => exact unwind_of_turn turned

/-- **A body that ended well returned**, by a statement or for lack of one. -/
theorem BodyRun.returning {ev : Evaluator} (run : BodyRun ev id r m (.ok (.returned v)) n) :
    Returning ev id r m v n := by
  obtain ⟨waiting, -, driven⟩ := run
  rename_i targets frames
  have left {n : Machine} (h : DrivenTo ev id r m (.ok (.paused (.returned v))) n) :
      Returning ev id r m v n := by
    obtain ⟨s, frames, n', unwound⟩ := h.unwound
    exact .left h unwound
  rw [driveFrom, Eval.on_bind] at driven
  split at driven
  · rename_i progress n₁ woken
    have begun : DrivenTo ev id r m (.ok progress) n₁ := .woken waiting woken
    cases progress with
    | onward rest =>
      rcases drivenTo_of_drive begun driven with paused | ⟨done, same⟩
      · exact left paused
      · cases same
        exact .done done
    | paused pause =>
      cases driven
      exact left begun
  · cases driven

end Signal

end MeteredScript
