import MeteredScript.Proofs.Closing.Cleanups
import MeteredScript.Proofs.Closing.Outcome

/-!
# The contract of `close`

What may be relied on when a generator is closed: what its caller sees and what becomes
of the generator, for every outcome of its body (`Proofs.Closing.Outcome`), that all
`finally` blocks that are open at the `yield` are run if the body comes to its end
(`Proofs.Closing.Cleanups`), and that the exception which tells the body to exit passes
by the handlers for ordinary exceptions. The last is a matter of the tree of exception
classes: the class of that exception is not below `Exception`.
-/

namespace MeteredScript

open Coupling

/-! ## Handlers -/

/-- **What a handler for ordinary exceptions catches**: `Exception`, a class below it,
or a tuple of such values. -/
inductive Ordinary : Value → Prop
  | exceptionClass {kind : ExceptionKind} : kind.isSubclassOf .exception = true →
    Ordinary (.exceptionClass kind)
  | tuple {options : List Value} : (∀ v ∈ options, Ordinary v) → Ordinary (.tuple options)

theorem anyCatches_eq_false {options : List Value} {kind : ExceptionKind}
    (none : ∀ v ∈ options, catches v kind = .ok false) : anyCatches options kind = .ok false := by
  induction options with
  | nil => rfl
  | cons option rest ih =>
    obtain ⟨first, others⟩ := List.forall_mem_cons.1 none
    rw [anyCatches, first]
    exact ih others

/-- **To be told to exit is not an ordinary exception.** -/
theorem Ordinary.catches_generatorExit {v : Value} (ordinary : Ordinary v) :
    catches v .generatorExit = .ok false := by
  induction ordinary with
  | @exceptionClass kind below =>
    have apart (k : ExceptionKind) : k.isSubclassOf .exception = true →
        ExceptionKind.generatorExit.isSubclassOf k = false := by
      cases k <;> decide
    rw [catches, apart kind below]
  | tuple _ ih => exact anyCatches_eq_false ih

/-- A handler that is not for ordinary exceptions only: it is for all, or its class
expression has just come to have another value. -/
def Handler.Unordinary (ev : Evaluator) (scope : ScopeId) (handler : Handler) (n : Machine) :
    Prop :=
  handler.catches = none ∨ ∃ e v m, handler.catches = some e ∧
    (ev.eval e scope).on m = (.ok v, n) ∧ ¬ Ordinary v

section Handlers

variable {ev : Evaluator} {scope : ScopeId} {m n : Machine}

theorem on_findHandler_of_catches {handler : Handler} {e : Expr} {v : Value} {kind : ExceptionKind}
    {caught : Bool} (catches_eq : handler.catches = some e)
    (evaluated : (ev.eval e scope).on m = (.ok v, n)) (answer : catches v kind = .ok caught)
    (rest : List Handler) :
    (findHandler ev scope kind (handler :: rest)).on m =
      (if caught then pure (some handler) else findHandler ev scope kind rest : Eval _).on n := by
  rw [findHandler, catches_eq]
  dsimp only
  rw [Eval.on_bind_ok evaluated, answer]
  rfl

/-- **A handler for ordinary exceptions is passed over**, and the search goes on behind
it. -/
theorem on_findHandler_of_ordinary {handler : Handler} {e : Expr} {v : Value}
    (catches_eq : handler.catches = some e) (evaluated : (ev.eval e scope).on m = (.ok v, n))
    (ordinary : Ordinary v) (rest : List Handler) :
    (findHandler ev scope .generatorExit (handler :: rest)).on m =
      (findHandler ev scope .generatorExit rest).on n :=
  on_findHandler_of_catches catches_eq evaluated ordinary.catches_generatorExit rest

/-- **The handler that is found** for the exception is not for ordinary ones. -/
theorem unordinary_of_findHandler {handler : Handler} {handlers : List Handler}
    (found : (findHandler ev scope .generatorExit handlers).on m = (.ok (some handler), n)) :
    handler.Unordinary ev scope n := by
  induction handlers generalizing m with
  | nil => cases found
  | cons first rest ih =>
    cases catches_eq : first.catches with
    | none =>
      rw [findHandler, catches_eq] at found
      cases found
      exact .inl catches_eq
    | some e =>
      cases evaluated : (ev.eval e scope).on m with
      | mk r k =>
        cases r with
        | error s =>
          rw [findHandler, catches_eq] at found
          dsimp only at found
          rw [Eval.on_bind_error evaluated] at found
          cases found
        | ok v =>
          cases answer : catches v .generatorExit with
          | error why =>
            rw [findHandler, catches_eq] at found
            dsimp only at found
            rw [Eval.on_bind_ok evaluated, answer] at found
            cases found
          | ok caught =>
            -- Either this handler is the one that is found, or it comes after it.
            rw [on_findHandler_of_catches catches_eq evaluated answer] at found
            cases caught with
            | false => exact ih found
            | true =>
              cases found
              refine .inr ⟨e, v, m, catches_eq, evaluated, fun ordinary => ?_⟩
              rw [ordinary.catches_generatorExit] at answer
              cases answer

/-- The same where the exception is offered to the handlers of a `try` statement. -/
theorem unordinary_of_enterHandler {handlers : List Handler} {block : Option Block} {f : Fault}
    {frames rest : List Frame} (exits : f.exceptionKind = .generatorExit)
    (entered :
      (enterHandler ev scope handlers block (.fault f) frames).on m = (.ok (.ok rest), n)) :
    ∃ handler ∈ handlers, (∃ k, handler.Unordinary ev scope k) ∧
      rest = .suite handler.body :: .handling f block :: frames := by
  rw [enterHandler, exits] at entered
  cases found : (findHandler ev scope .generatorExit handlers).on m with
  | mk r k =>
    by_cases endless : r = .error .endless
    · subst endless
      rw [Eval.on_bind_error (Eval.on_attempt_of_endless found)] at entered
      cases entered
    · rw [Eval.on_bind_ok (Eval.on_attempt_of_ne found endless)] at entered
      rcases r with s | _ | handler
      · cases entered
      · cases entered
      · refine ⟨handler, ?_, ⟨k, unordinary_of_findHandler found⟩, ?_⟩
        · exact Talk.gives_findHandler ev scope .generatorExit handlers m _ k found handler rfl
        · obtain ⟨_, k', bound⟩ := Eval.total_bindException scope handler f k
          dsimp only at entered
          rw [Eval.on_bind_ok (by rw [Eval.on, bound])] at entered
          cases entered
          rfl

end Handlers

/-! ## Later -/

section Later

variable {bound : Nat} {active : List GeneratorId} {id : GeneratorId} {m n : Machine}

/-- Whatever is done keeps track of the generators that are running. -/
theorem tracked_task (task : Task) (runs : m.runs active = true)
    (ends : ((task.run (.bounded bound)).on m).1 ≠ .error .endless) :
    Tracked active m ((task.run (.bounded bound)).on m).2 :=
  (tracked_of_sim runs ((tracked_tracking (fun _ => throw .endless) bound active).task
    (fun _ => keeping_shows _) task) ends).2

theorem tracked_of_close (runs : m.runs active = true)
    (done : (closeGenerator (.bounded bound) id).on m = (.ok (), n)) : Tracked active m n := by
  have closing : ((Task.close id).run (.bounded bound)).on m = (.ok .none, n) := by
    show ((fun _ => Value.none) <$> closeGenerator (.bounded bound) id).on m = _
    rw [map_eq_pure_bind, Eval.on_bind_ok done]
    rfl
  have tracked := tracked_task (.close id) runs (by rw [closing]; simp)
  rwa [closing] at tracked

/-- **A generator that a host has closed** stays closed, whatever the host does. -/
theorem Session.close_of_closed {s s' : Session} (reachable : s.Reachable)
    (closed : (s.close id).1 = .ok ()) (leads : (s.close id).2.Leads s') :
    s'.close id = (.ok (), s') := by
  obtain ⟨config, reached⟩ := reachable
  have runs : s.machine.runs [] = true :=
    Machine.runs_iff.2 (reached.tracked (Session.runs_start config)).running
  obtain ⟨bound, enough⟩ : ∃ bound, s.machine.bound = bound + 1 := ⟨_, rfl⟩
  have done : (closeGenerator (.bounded (bound + 1)) id).on s.machine =
      (.ok (), (s.close id).2.machine) := by
    rw [Session.close, Session.perform_eq, Eval.on_boundedly, enough] at closed ⊢
    exact Prod.ext closed rfl
  obtain ⟨c, ended⟩ := completed_of_close done
  have later := leads.tracked (Machine.runs_iff.2 (tracked_of_close runs done).running)
  rw [Session.close, Session.perform_eq, Eval.on_boundedly,
    on_close_of_evolved ended later.evolved]

end Later

/-! ## The contract -/

/-- **The contract of `close`**, whatever the body of the generator does and whatever
machine it is on. A generator that is closed while it waits is told to exit by the
exception `GeneratorExit`, thrown at its `yield`. -/
structure Closing (bound : Nat) : Prop where
  /-- One that has not started runs nothing and has completed. -/
  unstarted {m : Machine} {id : GeneratorId} {body : Block} :
    (m.generator id).state = .notStarted body →
    (closeGenerator (.bounded (bound + 1)) id).on m =
      (.ok (), { m with
        scopes := m.scopes.setGenerator id.scope (.completed (.returned .none)) })
  /-- One that has completed runs nothing and stays as it is. -/
  ended {m : Machine} {id : GeneratorId} {c : Completion} :
    (m.generator id).state = .completed c →
    (closeGenerator (.bounded (bound + 1)) id).on m = (.ok (), m)
  /-- One that is running refuses, and nothing changes. -/
  running {m : Machine} {id : GeneratorId} : (m.generator id).state = .running →
    (closeGenerator (.bounded (bound + 1)) id).on m = (.error (.fault .alreadyExecuting), m)
  /-- So does one that waits if calls are too deep. -/
  deep {m : Machine} {id : GeneratorId} {targets : List Expr} {frames : List Frame} :
    (m.generator id).state = .suspended targets frames → m.config.maxCallDepth ≤ m.depth →
    (closeGenerator (.bounded (bound + 1)) id).on m = (.error (.fault .recursionLimit), m)
  /-- Otherwise the body of one that waits is told to exit, and has some outcome. -/
  told {m : Machine} {id : GeneratorId} {targets : List Expr} {frames : List Frame} :
    (m.generator id).state = .suspended targets frames → m.depth < m.config.maxCallDepth →
    ∃ outcome n, BodyRun (.bounded bound) id (.throw (.bare .generatorExit)) m outcome n
  /-- If it returns then the generator has completed with that value. -/
  returned {m n : Machine} {id : GeneratorId} {v : Value} :
    BodyRun (.bounded bound) id (.throw (.bare .generatorExit)) m (.ok (.returned v)) n →
    (closeGenerator (.bounded (bound + 1)) id).on m =
      (.ok (), m.resting n id (.completed (.returned v)))
  /-- If it lets the exception out, or another one of its class, then the generator has
  completed. -/
  exited {m n : Machine} {id : GeneratorId} {s : Stop} :
    BodyRun (.bounded bound) id (.throw (.bare .generatorExit)) m (.error s) n →
    s.isInstanceOf .generatorExit = true →
    (closeGenerator (.bounded (bound + 1)) id).on m =
      (.ok (), m.resting n id (.completed (.returned .none)))
  /-- If it yields then it has broken the protocol, and waits at that `yield`. -/
  yielded {m n : Machine} {id : GeneratorId} {v : Value} {targets : List Expr}
    {frames : List Frame} :
    BodyRun (.bounded bound) id (.throw (.bare .generatorExit)) m
      (.ok (.yielded v targets frames)) n →
    (closeGenerator (.bounded (bound + 1)) id).on m =
      (.error (.fault .ignoredExit), m.resting n id (.suspended targets frames))
  /-- If it fails with anything else then so does `close`, and the generator has completed
  with it. -/
  failed {m n : Machine} {id : GeneratorId} {s : Stop} :
    BodyRun (.bounded bound) id (.throw (.bare .generatorExit)) m (.error s) n → s ≠ .endless →
    s.isInstanceOf .generatorExit = false → s.isInstanceOf .stopIteration = false →
    (closeGenerator (.bounded (bound + 1)) id).on m =
      (.error s, m.resting n id (.completed (.stopped s)))
  /-- An exception that reports an end is replaced by one that says so. -/
  replaced {m n : Machine} {id : GeneratorId} {s : Stop} :
    BodyRun (.bounded bound) id (.throw (.bare .generatorExit)) m (.error s) n →
    s.isInstanceOf .stopIteration = true →
    (closeGenerator (.bounded (bound + 1)) id).on m =
      (.error (.fault .escapedStopIteration),
        m.resting n id (.completed (.stopped (.fault .escapedStopIteration))))
  /-- Where it is brought to in these cases is where it is found. -/
  rests {m n : Machine} {id : GeneratorId} {outcome : Except Stop Pause}
    (state : GeneratorState) :
    BodyRun (.bounded bound) id (.throw (.bare .generatorExit)) m outcome n →
    outcome ≠ .error .endless → ((m.resting n id state).generator id).state = state
  /-- The failures that `close` itself reports are a violation of the protocol and an error
  at run time. -/
  reported : Fault.ignoredExit.kind = .generatorProtocolViolation ∧
    Fault.escapedStopIteration.exceptionKind = .runtimeError
  /-- No failure of `close` tells to exit or reports an end. -/
  failure {m : Machine} {id : GeneratorId} {s : Stop} :
    ((closeGenerator (.bounded (bound + 1)) id).on m).1 = .error s →
    s.isInstanceOf .generatorExit = false ∧ s.isInstanceOf .stopIteration = false
  /-- If `close` succeeds then the generator has completed, and to close it again does
  nothing, on any machine that comes later. -/
  success {m n : Machine} {id : GeneratorId} :
    (closeGenerator (.bounded (bound + 1)) id).on m = (.ok (), n) →
    (∃ c, (n.generator id).state = .completed c) ∧
      ∀ n', n.Evolved n' → ∀ ev, (closeGenerator ev id).on n' = (.ok (), n')
  /-- One that comes after any code of a script is later. -/
  later {active : List GeneratorId} {m n : Machine} {id : GeneratorId} (task : Task) :
    m.runs active = true → (closeGenerator (.bounded (bound + 1)) id).on m = (.ok (), n) →
    ((task.run (.bounded bound)).on n).1 ≠ .error .endless →
    n.Evolved ((task.run (.bounded bound)).on n).2
  /-- So is one that comes after any operations of a host. -/
  between {s s' : Session} {id : GeneratorId} : s.Reachable → (s.close id).1 = .ok () →
    (s.close id).2.Leads s' → s'.close id = (.ok (), s')
  /-- Where the exception is offered to the handlers of a `try` statement in the body, none
  of those for `Exception`, a class below it or a tuple of these receives it. -/
  spared {ev : Evaluator} {scope : ScopeId} {m n : Machine} {handlers : List Handler}
    {block : Option Block} {f : Fault} {frames rest : List Frame} :
    f.exceptionKind = .generatorExit →
    (enterHandler ev scope handlers block (.fault f) frames).on m = (.ok (.ok rest), n) →
    ∃ handler ∈ handlers, (∃ k, handler.Unordinary ev scope k) ∧
      rest = .suite handler.body :: .handling f block :: frames
  /-- It is passed on to the handlers after it. -/
  passed {ev : Evaluator} {scope : ScopeId} {m n : Machine} {handler : Handler} {e : Expr}
    {v : Value} (rest : List Handler) : handler.catches = some e →
    (ev.eval e scope).on m = (.ok v, n) → Ordinary v →
    (findHandler ev scope .generatorExit (handler :: rest)).on m =
      (findHandler ev scope .generatorExit rest).on n
  /-- If the body comes to its end, by whatever way, then the `finally` blocks that were
  open at the `yield` have been run, innermost first. -/
  cleaned {m n : Machine} {id : GeneratorId} {targets : List Expr} {frames : List Frame}
    {outcome : Except Stop Pause} : (m.generator id).state = .suspended targets frames →
    BodyRun (.bounded bound) id (.throw (.bare .generatorExit)) m outcome n → Over outcome →
    openCleanups frames ≠ [] →
    ∃ rest n₀, (wake (.bounded bound) id.scope targets frames
        (.throw (.bare .generatorExit))).on (m.driving id frames) = (.ok (.onward rest), n₀) ∧
      CleansUp (.bounded bound) id.scope (openCleanups frames) (rest, n₀)

/-- **Generators are closed as the contract says.** -/
theorem generators_close (bound : Nat) : Closing bound where
  unstarted state := on_close_of_notStarted state
  ended state := on_close_of_completed state
  running state := on_close_of_running state (on_resume_of_running (.bounded bound) state _)
  deep state deep := on_close_of_deep state deep
  told {m id targets frames} state room := by
    have waiting :
        Waiting (m.generator id).state (.throw (.bare .generatorExit)) targets frames := by
      rw [state]
      exact .suspended targets frames _
    exact ⟨_, _, .intro waiting room rfl⟩
  returned run := run.on_close (by simp)
  exited {m n id s} run exits := by
    have ends : Except.error (α := Pause) s ≠ .error .endless := by
      rintro ⟨⟩
      cases exits
    rw [run.on_close ends, closeVerdict_of_exits exits, closeState_of_exits exits]
  yielded run := run.on_close (by simp)
  failed run ends fails other := by
    rw [run.on_close (by simpa using ends), closeVerdict_of_fails fails, closeState_of_fails fails,
      escaped_of_other other]
  replaced {m n id s} run reports := by
    have ends : Except.error (α := Pause) s ≠ .error .endless := by
      rintro ⟨⟩
      cases reports
    have fails : s.isInstanceOf .generatorExit = false := by
      cases exits : s.isInstanceOf .generatorExit with
      | false => rfl
      | true =>
        rw [isInstanceOf_stopIteration_of_generatorExit exits] at reports
        cases reports
    rw [run.on_close ends, closeVerdict_of_fails fails, closeState_of_fails fails,
      escaped_of_stopIteration reports]
  rests state run ends := generator_of_eq_some (run.generator?_resting ends state)
  reported := ⟨rfl, rfl⟩
  failure failed := isInstanceOf_of_close failed
  success done := by
    obtain ⟨c, ended⟩ := completed_of_close done
    exact ⟨⟨c, generator_of_eq_some ended⟩, fun n' later ev => on_close_of_evolved ended later⟩
  later task runs done ends :=
    (tracked_task task (Machine.runs_iff.2 (tracked_of_close runs done).running) ends).evolved
  between reachable closed leads := Session.close_of_closed reachable closed leads
  spared exits entered := unordinary_of_enterHandler exits entered
  passed rest catches_eq evaluated ordinary :=
    on_findHandler_of_ordinary catches_eq evaluated ordinary rest
  cleaned {m n id targets frames outcome} state run finished opened := by
    obtain ⟨waiting, -, driven⟩ := run
    rw [state] at waiting
    cases waiting
    exact cleansUp_of_driveFrom driven finished opened

end MeteredScript
