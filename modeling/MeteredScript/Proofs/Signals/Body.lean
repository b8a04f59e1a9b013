import MeteredScript.Proofs.Binding.Arguments
import MeteredScript.Proofs.Closing.Outcome
import MeteredScript.Proofs.Conduct.Placed

/-!
# What a body ends with

A call runs the body of a function and makes something of its outcome, and so do resuming and
closing a generator. A `return` is answered there. A `break` or `continue` is not, and so it is
seen outside just if it is what the body ended with (`CalleeRun.fst_call` with `exists_calleeRun`,
`fst_resume_eq_signal_iff`, `fst_close_eq_signal_iff`).
-/

namespace MeteredScript

open Eval

variable {bound : Nat} {m n : Machine} {s : Stop}

/-! ## The body of a function -/

/-- **The body of a function is run** by a call, up to an outcome. -/
inductive CalleeRun (ev : Evaluator) (id : FunctionId) (name : String) (arguments : List Value)
    (m : Machine) : Except Stop Value → Machine → Prop
  | intro {bound : List (String × Value)} {r : Except Stop Value} {n : Machine} :
    bindArguments name (m.function id).parameters arguments = .ok bound →
    (m.function id).beginning = none → m.depth < m.config.maxCallDepth →
    (runBody ev (m.function id).body ⟨m.scopes.scopes.size⟩).on
      { m.opening (m.function id) bound with depth := m.depth + 1 } = (r, n) →
    CalleeRun ev id name arguments m r n

/-- What a call makes of how the body ended. -/
def callOutcome : Except Stop Value → Except Stop Value
  | .error (.returns v) => .ok v
  | r => r

theorem eq_of_callOutcome {r : Except Stop Value} (ends : callOutcome r = .error s) :
    r = .error s := by
  match r, ends with
  | .error (.fault _), ends | .error .breaks, ends | .error .continues, ends
  | .error .gasExhausted, ends | .error .endless, ends => exact ends

section Callee

variable {ev : Evaluator} {id : FunctionId} {name : String} {arguments : List Value}
  {r : Except Stop Value}

/-- A function that makes no generator runs its body. -/
theorem Function.goOn_of_eq_none {f : Function} (none : f.beginning = none) (ev : Evaluator)
    (name : String) (scope : ScopeId) : f.goOn ev name scope = callBody ev f.body scope := by
  obtain ⟨parameters, body, closure, isGenerator⟩ := f
  match isGenerator, body, none with
  | true, .expr _, _ | false, .block _, _ | false, .expr _, _ => rfl

/-- One that makes a generator gives it. -/
theorem Function.goOn_of_eq_some {f : Function} {state : GeneratorState}
    (begins : f.beginning = some state) (ev : Evaluator) (name : String) (scope : ScopeId) :
    f.goOn ev name scope = pure (.generator ⟨scope⟩ name) := by
  obtain ⟨parameters, body, closure, isGenerator⟩ := f
  match isGenerator, body, begins with
  | true, .block _, _ => rfl

theorem fst_callBody_of_lt (room : m.depth < m.config.maxCallDepth) (ev : Evaluator)
    (body : FunctionBody) (scope : ScopeId) :
    ((callBody ev body scope).on m).1 =
      callOutcome ((runBody ev body scope).on { m with depth := m.depth + 1 }).1 := by
  rw [callBody, on_bind, on_inFrame_of_lt room]
  generalize (runBody ev body scope).on { m with depth := m.depth + 1 } = o
  obtain ⟨r, n⟩ := o
  match r with
  | .ok _ | .error (.fault _) | .error (.returns _) | .error .breaks | .error .continues
  | .error .gasExhausted | .error .endless => rfl

theorem on_callBody_of_le (deep : m.config.maxCallDepth ≤ m.depth) (ev : Evaluator)
    (body : FunctionBody) (scope : ScopeId) :
    (callBody ev body scope).on m = (.error (.fault .recursionLimit), m) := by
  rw [callBody, on_bind_error (on_inFrame_of_le deep _)]

/-- **The outcome of the body decides** what the caller sees. -/
theorem CalleeRun.fst_call (run : CalleeRun ev id name arguments m r n) :
    ((callFunction ev id name arguments).on m).1 = callOutcome r := by
  obtain ⟨binds, none, room, ran⟩ := run
  rw [on_callFunction_of_ok rfl binds, Function.goOn_of_eq_none none]
  refine (fst_callBody_of_lt (m := m.opening _ _) room ev _ _).trans ?_
  exact congrArg (fun o => callOutcome o.1) ran

/-- **A call that ends with a signal** has run a body that did. -/
theorem exists_calleeRun (signal : s.placed false = false)
    (ends : ((callFunction ev id name arguments).on m).1 = .error s) :
    ∃ n, CalleeRun ev id name arguments m (.error s) n := by
  have no_fault {f : Fault} (fails : (.error (.fault f) : Except Stop Value) = .error s) :
      False := by
    cases fails
    cases signal
  cases binds : bindArguments name (m.function id).parameters arguments with
  | error why =>
    rw [on_callFunction_of_error rfl binds] at ends
    exact (no_fault ends).elim
  | ok bound =>
    rw [on_callFunction_of_ok rfl binds] at ends
    cases begins : (m.function id).beginning with
    | some state =>
      rw [Function.goOn_of_eq_some begins] at ends
      cases ends
    | none =>
      rw [Function.goOn_of_eq_none begins] at ends
      rcases Nat.lt_or_ge m.depth m.config.maxCallDepth with room | deep
      · rw [fst_callBody_of_lt (m := m.opening _ _) room] at ends
        exact ⟨_, .intro binds begins room (Prod.ext (eq_of_callOutcome ends) rfl)⟩
      · rw [on_callBody_of_le (m := m.opening _ _) deep] at ends
        exact (no_fault ends).elim

end Callee

/-! ## The body of a generator -/

section Generator

variable {id : GeneratorId} {r : Resume}

theorem ne_endless_of_signal {α : Type} (signal : s.placed false = false) :
    (.error s : Except Stop α) ≠ .error .endless := by
  rintro ⟨⟩
  cases signal

/-- A `break` or `continue` is not changed on its way out of a body. -/
theorem escaped_eq_iff (signal : s.placed false = false) {t : Stop} : escaped t = s ↔ t = s := by
  constructor
  · rintro rfl
    unfold escaped at signal ⊢
    split at signal
    · cases signal
    · rename_i other
      exact (if_neg other).symm
  · rintro rfl
    refine escaped_of_other ?_
    match t, signal with
    | .breaks, _ | .continues, _ => rfl

/-- **A resume ends with such a signal** just if the body is run and does. -/
theorem fst_resume_eq_signal_iff (signal : s.placed false = false) :
    ((resumeGenerator (.bounded bound) id r).on m).1 = .error s ↔
      ∃ n, BodyRun (.bounded bound) id r m (.error s) n := by
  constructor
  · intro stops
    rcases answered_or_run (.bounded bound) id r m with answers | ⟨outcome, n, run⟩
    · rw [stops] at answers
      cases answers <;> cases signal
    · by_cases endless : outcome = .error .endless
      · subst endless
        rw [run.endless] at stops
        cases stops
        cases signal
      · rw [run.on_resume endless] at stops
        match outcome, run, stops with
        | .ok (.returned v), _, stops =>
          cases stops
          cases signal
        | .error t, run, stops =>
          rw [verdict, Except.error.injEq, escaped_eq_iff signal] at stops
          exact ⟨n, stops ▸ run⟩
  · rintro ⟨n, run⟩
    rw [run.on_resume (ne_endless_of_signal signal), verdict, (escaped_eq_iff signal).2 rfl]

/-- The generator has completed with it then. -/
theorem state_of_signal {n : Machine} (signal : s.placed false = false)
    (run : BodyRun (.bounded bound) id r m (.error s) n) :
    (((resumeGenerator (.bounded bound) id r).on m).2.generator id).state =
      .completed (.stopped s) := by
  rw [run.state (ne_endless_of_signal signal), restState, (escaped_eq_iff signal).2 rfl]

/-- **So does closing a generator**, if the body that is told to exit does. -/
theorem fst_close_eq_signal_iff (signal : s.placed false = false) :
    ((closeGenerator (.bounded (bound + 1)) id).on m).1 = .error s ↔
      ∃ n, BodyRun (.bounded bound) id (.throw (.bare .generatorExit)) m (.error s) n := by
  constructor
  · intro stops
    have ways := closed bound id m
    generalize (closeGenerator (.bounded (bound + 1)) id).on m = result at stops ways
    cases ways with
    | unstarted | ended => cases stops
    | running | deep | endless =>
      cases stops
      cases signal
    | @told outcome n run ends =>
      match outcome, run, stops with
      | .ok (.yielded _ _ _), _, stops =>
        cases stops
        cases signal
      | .error t, run, stops =>
        change closeVerdict (.error t) = .error s at stops
        cases exits : t.isInstanceOf .generatorExit with
        | true =>
          rw [closeVerdict_of_exits exits] at stops
          cases stops
        | false =>
          rw [closeVerdict_of_fails exits, Except.error.injEq, escaped_eq_iff signal] at stops
          exact ⟨n, stops ▸ run⟩
  · rintro ⟨n, run⟩
    have fails : s.isInstanceOf .generatorExit = false := by
      match s, signal with
      | .breaks, _ | .continues, _ => rfl
    rw [run.on_close (ne_endless_of_signal signal), closeVerdict_of_fails fails,
      (escaped_eq_iff signal).2 rfl]

end Generator

end MeteredScript
