import MeteredScript.Proofs.Exhaustion.Signal

/-!
# What comes of closing a generator

To close a generator that waits is to throw an exception at its `yield` and to make
something of what the body does with it. The body may return, let the exception
out, let another one out or `yield` once more. `closeVerdict` says what the caller
gets to know in each case, `closeState` where the generator is afterwards, and
`BodyRun.on_close` that closing does just this. Since every outcome of a body has
its place in these two tables, what is true of all closings can be read off from
them.
-/

namespace MeteredScript

open Coupling

/-- **What the caller of `close` sees** of the outcome of a body that was told to
exit. -/
def closeVerdict : Except Stop Pause → Except Stop Unit
  | .ok (.yielded _ _ _) => .error (.fault .ignoredExit)
  | .ok (.returned _) => .ok ()
  | .error s => if s.isInstanceOf .generatorExit then .ok () else .error (escaped s)

/-- **Where the generator is** after that. To let the exception out is as good as to
return nothing. -/
def closeState : Except Stop Pause → GeneratorState
  | .ok (.yielded _ targets frames) => .suspended targets frames
  | .ok (.returned v) => .completed (.returned v)
  | .error s =>
    if s.isInstanceOf .generatorExit then .completed (.returned .none)
    else .completed (.stopped (escaped s))

variable {bound : Nat} {id : GeneratorId} {m n : Machine} {outcome : Except Stop Pause}
  {s : Stop}

/-! ## Exceptions that tell to exit -/

/-- No exception both tells to exit and reports an end. -/
theorem isInstanceOf_stopIteration_of_generatorExit (exits : s.isInstanceOf .generatorExit = true) :
    s.isInstanceOf .stopIteration = false := by
  have apart (k : ExceptionKind) : k.isSubclassOf .generatorExit = true →
      k.isSubclassOf .stopIteration = false := by
    cases k <;> decide
  cases s with
  | fault f => exact apart _ exits
  | returns | breaks | continues | gasExhausted | endless => rfl

/-- A stop that does not report an end gets out as it is. -/
theorem escaped_of_other (other : s.isInstanceOf .stopIteration = false) : escaped s = s := by
  rw [escaped, if_neg (by simp [other])]

theorem escaped_of_stopIteration (ended : s.isInstanceOf .stopIteration = true) :
    escaped s = .fault .escapedStopIteration := by
  rw [escaped, if_pos ended]

/-- What gets out of a body tells to exit just if what happened in it does. -/
theorem isInstanceOf_generatorExit_escaped (s : Stop) :
    (escaped s).isInstanceOf .generatorExit = s.isInstanceOf .generatorExit := by
  cases ended : s.isInstanceOf .stopIteration with
  | false => rw [escaped_of_other ended]
  | true =>
    rw [escaped_of_stopIteration ended]
    cases exits : s.isInstanceOf .generatorExit with
    | false => rfl
    | true =>
      rw [isInstanceOf_stopIteration_of_generatorExit exits] at ended
      cases ended

/-! ## The tables -/

theorem closeVerdict_of_exits (exits : s.isInstanceOf .generatorExit = true) :
    closeVerdict (.error s) = .ok () := by
  rw [closeVerdict, if_pos exits]

theorem closeState_of_exits (exits : s.isInstanceOf .generatorExit = true) :
    closeState (.error s) = .completed (.returned .none) := by
  rw [closeState, if_pos exits]

theorem closeVerdict_of_fails (fails : s.isInstanceOf .generatorExit = false) :
    closeVerdict (.error s) = .error (escaped s) := by
  rw [closeVerdict, if_neg (by simp [fails])]

theorem closeState_of_fails (fails : s.isInstanceOf .generatorExit = false) :
    closeState (.error s) = .completed (.stopped (escaped s)) := by
  rw [closeState, if_neg (by simp [fails])]

/-- A closing that went well leaves the generator completed. -/
theorem closeState_of_ok (closed : closeVerdict outcome = .ok ()) :
    ∃ c, closeState outcome = .completed c := by
  cases outcome with
  | ok pause =>
    cases pause with
    | yielded => cases closed
    | returned v => exact ⟨_, rfl⟩
  | error s =>
    cases exits : s.isInstanceOf .generatorExit with
    | true => exact ⟨_, closeState_of_exits exits⟩
    | false =>
      rw [closeVerdict_of_fails exits] at closed
      cases closed

/-- **What closing fails with** neither tells to exit nor reports an end. -/
theorem isInstanceOf_of_closeVerdict (failed : closeVerdict outcome = .error s) :
    s.isInstanceOf .generatorExit = false ∧ s.isInstanceOf .stopIteration = false := by
  cases outcome with
  | ok pause =>
    cases pause with
    | yielded =>
      cases failed
      exact ⟨rfl, rfl⟩
    | returned => cases failed
  | error inside =>
    cases exits : inside.isInstanceOf .generatorExit with
    | true =>
      rw [closeVerdict_of_exits exits] at failed
      cases failed
    | false =>
      rw [closeVerdict_of_fails exits] at failed
      cases failed
      exact ⟨by rw [isInstanceOf_generatorExit_escaped, exits], isInstanceOf_escaped inside⟩

/-! ## Closing -/

/-- What closing makes of the answer to the exception it throws. -/
theorem on_answerExit (outcome : Except Stop Pause) :
    (answerExit id (verdict outcome)).on (m.resting n id (restState outcome)) =
      (closeVerdict outcome, m.resting n id (closeState outcome)) := by
  cases outcome with
  | ok pause => cases pause <;> rfl
  | error s =>
    have reports : ∀ v, escaped s ≠ .fault (.exhausted v) := by
      intro v same
      have other := isInstanceOf_escaped s
      rw [same] at other
      cases other
    have answered : answerExit id (.error (escaped s)) =
        if (escaped s).isInstanceOf .generatorExit then
          Eval.setGeneratorState id (.completed (.returned .none))
        else throw (escaped s) := by
      unfold answerExit
      split
      · rename_i same
        cases same
      · rename_i v same
        exact absurd (Except.error.inj same) (reports v)
      · rename_i same
        rw [Except.error.inj same]
    rw [verdict, restState, answered, isInstanceOf_generatorExit_escaped]
    cases exits : s.isInstanceOf .generatorExit with
    | true =>
      rw [if_pos rfl, closeVerdict_of_exits exits, closeState_of_exits exits,
        Eval.setGeneratorState, Eval.on_modify]
      -- The generator came to rest with the exception first, and is moved on from there.
      simp only [Machine.resting, ScopeTree.setGenerator_setGenerator]
    | false =>
      rw [closeVerdict_of_fails exits, closeState_of_fails exits]
      rfl

/-- To close a generator that waits is to throw the exception at it. -/
theorem on_close_of_suspended {targets : List Expr} {frames : List Frame}
    (state : (m.generator id).state = .suspended targets frames) :
    (closeGenerator (.bounded (bound + 1)) id).on m =
      (Eval.attempt (resumeGenerator (.bounded bound) id (.throw (.bare .generatorExit))) >>=
        answerExit id).on m := by
  rw [closeGenerator, Eval.on_bind_ok (on_generatorState id m), state]
  rfl

/-- **A generator that has not started** is completed without running. -/
theorem on_close_of_notStarted {ev : Evaluator} {body : Block}
    (state : (m.generator id).state = .notStarted body) :
    (closeGenerator ev id).on m =
      (.ok (), { m with
        scopes := m.scopes.setGenerator id.scope (.completed (.returned .none)) }) := by
  rw [closeGenerator, Eval.on_bind_ok (on_generatorState id m), state]
  rfl

/-- **A generator that has completed** stays as it is. -/
theorem on_close_of_completed {ev : Evaluator} {c : Completion}
    (state : (m.generator id).state = .completed c) :
    (closeGenerator ev id).on m = (.ok (), m) := by
  rw [closeGenerator, Eval.on_bind_ok (on_generatorState id m), state]
  rfl

/-- **A generator that is too deep** to be told anything stays as it is. -/
theorem on_close_of_deep {targets : List Expr} {frames : List Frame}
    (state : (m.generator id).state = .suspended targets frames)
    (deep : m.config.maxCallDepth ≤ m.depth) :
    (closeGenerator (.bounded (bound + 1)) id).on m = (.error (.fault .recursionLimit), m) := by
  have refused : (resumeGenerator (.bounded bound) id (.throw (.bare .generatorExit))).on m =
      (.error (.fault .recursionLimit), m) := by
    rw [on_resumeGenerator, state, resumeFrom, on_runSuspended_of_le _ deep]
  rw [on_close_of_suspended state, Eval.on_bind_ok (Eval.on_attempt_of_ne refused (by simp))]
  rfl

/-- A generator whose body is run with an exception waits at a `yield`. -/
theorem BodyRun.suspended {ev : Evaluator} {e : Exception}
    (run : BodyRun ev id (.throw e) m outcome n) :
    ∃ targets frames, (m.generator id).state = .suspended targets frames := by
  obtain ⟨waiting, -, -⟩ := run
  generalize (m.generator id).state = state at waiting
  cases waiting
  exact ⟨_, _, rfl⟩

/-- **A body that was told to exit** decides what closing its generator comes to. -/
theorem BodyRun.on_close
    (run : BodyRun (.bounded bound) id (.throw (.bare .generatorExit)) m outcome n)
    (ends : outcome ≠ .error .endless) :
    (closeGenerator (.bounded (bound + 1)) id).on m =
      (closeVerdict outcome, m.resting n id (closeState outcome)) := by
  obtain ⟨targets, frames, state⟩ := run.suspended
  rw [on_close_of_suspended state,
    Eval.on_bind_ok (Eval.on_attempt_of_ne (run.on_resume ends) (verdict_ne_endless ends))]
  exact on_answerExit outcome

/-- Closing is endless if the body is. -/
theorem BodyRun.on_close_endless
    (run : BodyRun (.bounded bound) id (.throw (.bare .generatorExit)) m (.error .endless) n) :
    ((closeGenerator (.bounded (bound + 1)) id).on m).1 = .error .endless := by
  obtain ⟨targets, frames, state⟩ := run.suspended
  rw [on_close_of_suspended state, Eval.on_bind_error (Eval.on_attempt_of_endless
    (Prod.ext run.endless rfl))]

/-- The generator is known to the machine on which its body has ended. -/
theorem BodyRun.generator?_resting {r : Resume} (run : BodyRun (.bounded bound) id r m outcome n)
    (ends : outcome ≠ .error .endless) (state : GeneratorState) :
    (m.resting n id state).scopes.generator? id.scope = some state := by
  obtain ⟨waiting, depth, driven⟩ := run
  have running := running_of_driveFrom (generator?_of_waiting waiting) waiting.step driven ends
  exact n.scopes.generator?_setGenerator_self id.scope running _

/-! ## All closings -/

/-- **The ways in which closing a generator goes.** -/
inductive Closed (bound : Nat) (id : GeneratorId) (m : Machine) :
    Except Stop Unit × Machine → Prop
  | unstarted {body : Block} : (m.generator id).state = .notStarted body →
    Closed bound id m (.ok (), { m with
      scopes := m.scopes.setGenerator id.scope (.completed (.returned .none)) })
  | ended {c : Completion} : (m.generator id).state = .completed c → Closed bound id m (.ok (), m)
  | running : (m.generator id).state = .running →
    Closed bound id m (.error (.fault .alreadyExecuting), m)
  | deep {targets : List Expr} {frames : List Frame} :
    (m.generator id).state = .suspended targets frames → m.config.maxCallDepth ≤ m.depth →
    Closed bound id m (.error (.fault .recursionLimit), m)
  | told {outcome : Except Stop Pause} {n : Machine} :
    BodyRun (.bounded bound) id (.throw (.bare .generatorExit)) m outcome n →
    outcome ≠ .error .endless →
    Closed bound id m (closeVerdict outcome, m.resting n id (closeState outcome))
  | endless {n n' : Machine} :
    BodyRun (.bounded bound) id (.throw (.bare .generatorExit)) m (.error .endless) n →
    Closed bound id m (.error .endless, n')

/-- **There are no other ways.** -/
theorem closed (bound : Nat) (id : GeneratorId) (m : Machine) :
    Closed bound id m ((closeGenerator (.bounded (bound + 1)) id).on m) := by
  cases state : (m.generator id).state with
  | notStarted body =>
    rw [on_close_of_notStarted state]
    exact .unstarted state
  | completed c =>
    rw [on_close_of_completed state]
    exact .ended state
  | running =>
    rw [on_close_of_running state (on_resume_of_running (.bounded bound) state _)]
    exact .running state
  | suspended targets frames =>
    rcases Nat.lt_or_ge m.depth m.config.maxCallDepth with room | deep
    · have waiting :
          Waiting (m.generator id).state (.throw (.bare .generatorExit)) targets frames := by
        rw [state]
        exact .suspended targets frames _
      cases driven : (driveFrom (.bounded bound) id.scope targets frames
          (.throw (.bare .generatorExit))).on (m.driving id frames) with
      | mk outcome n =>
        have run : BodyRun (.bounded bound) id (.throw (.bare .generatorExit)) m outcome n :=
          .intro waiting room driven
        by_cases ends : outcome = .error .endless
        · subst ends
          have closing := run.on_close_endless
          generalize (closeGenerator (.bounded (bound + 1)) id).on m = closed at closing ⊢
          obtain ⟨r, after⟩ := closed
          subst closing
          exact .endless run
        · rw [run.on_close ends]
          exact .told run ends
    · rw [on_close_of_deep state deep]
      exact .deep state deep

/-- **What closing a generator fails with** neither tells to exit nor reports an
end. -/
theorem isInstanceOf_of_close
    (failed : ((closeGenerator (.bounded (bound + 1)) id).on m).1 = .error s) :
    s.isInstanceOf .generatorExit = false ∧ s.isInstanceOf .stopIteration = false := by
  have ways := closed bound id m
  generalize (closeGenerator (.bounded (bound + 1)) id).on m = result at failed ways
  cases ways with
  | unstarted | ended => cases failed
  | running | deep | endless =>
    cases failed
    exact ⟨rfl, rfl⟩
  | told run ends => exact isInstanceOf_of_closeVerdict failed

/-- **A generator that was closed** is known to the machine as completed. -/
theorem completed_of_close
    (done : (closeGenerator (.bounded (bound + 1)) id).on m = (.ok (), n)) :
    ∃ c, n.scopes.generator? id.scope = some (.completed c) := by
  have known {state : GeneratorState} (state_eq : (m.generator id).state = state)
      (waits : state ≠ .running) : m.scopes.generator? id.scope = some state := by
    cases found : m.scopes.generator? id.scope with
    | some other => rw [← state_eq, generator_of_eq_some found]
    | none =>
      refine absurd ?_ waits
      rw [← state_eq, Machine.generator, found]
      rfl
  have ways := closed bound id m
  rw [done] at ways
  generalize result : (Except.ok (), n) = o at ways
  cases ways with
  | unstarted state =>
    cases result
    exact ⟨_, m.scopes.generator?_setGenerator_self id.scope (known state (by simp)) _⟩
  | ended state =>
    cases result
    exact ⟨_, known state (by simp)⟩
  | running | deep | endless => cases result
  | told run ends =>
    obtain ⟨verdict_eq, rfl⟩ := Prod.mk.inj result
    obtain ⟨c, state⟩ := closeState_of_ok verdict_eq.symm
    rw [state]
    exact ⟨c, run.generator?_resting ends _⟩

/-- **To close a generator that has completed** is to do nothing, whatever was done in
between. -/
theorem on_close_of_evolved {ev : Evaluator} {c : Completion}
    (ended : m.scopes.generator? id.scope = some (.completed c)) (later : m.Evolved n) :
    (closeGenerator ev id).on n = (.ok (), n) := by
  have came := later id.scope
  rw [ended] at came
  cases found : n.scopes.generator? id.scope with
  | none =>
    rw [found] at came
    exact came.elim
  | some state =>
    rw [found] at came
    exact on_close_of_completed (by rw [generator_of_eq_some found, came.eq_of_completed])

end MeteredScript
