import MeteredScript.Proofs.Conduct.Drive
import MeteredScript.Proofs.Signals.Body
import MeteredScript.Proofs.Task

/-!
# What gets out of a body

`return`, `break` and `continue` are signals to the code around them. A call and a generator
answer a `return` of their body, so that none ever gets out of one (`SignalsConfined.returns`).
They answer no `break` and no `continue`. Such a signal gets out of a body just if the body ends
with it (`SignalsConfined.called`, `SignalsConfined.resumed`), and then a loop of the caller takes
it for its own (`break_of_callee_ends_loop_of_caller`).

This takes a `break` or `continue` that stands in no loop of its own body. Where all code is placed
(`Stmt.placed`), no call, no step of a generator and no expression ends with one, and the machine
stays one on which all code is placed. Both are about all of evaluation and are instances of one
rule (`confining`), which is strict in the second case.
-/

namespace MeteredScript

open Eval

variable {bound : Nat} {m n : Machine} {s : Stop}

/-! ## The rule -/

/-- **The rule that signals stay in the body they are met in**: a `return` always, the others if
code is placed. -/
def confining (strict : Prop) : Conduct where
  World := Unit
  Kept _ m := strict → m.Placed
  Stops s := (∀ v, s ≠ .returns v) ∧ (strict → s.placed false = true)
  strict := strict

theorem lawful_confining (strict : Prop) : (confining strict).Lawful where
  congr kept functions scopes _ h :=
    ⟨by rw [functions]; exact (kept h).functions, by rw [scopes]; exact (kept h).generators⟩
  kept_define scope name v kept h := (kept h).define scope name v
  kept_addScope kind parent _ placed kept h := (kept h).addScope kind parent (placed h)
  kept_setGenerator id _ placed kept h := (kept h).setGenerator id (placed h)
  kept_newFunction placed kept h := (kept h).newFunction (placed h)
  placed h kept := kept h
  stops other allowed := ⟨other, allowed⟩
  stays stops := stops.2

theorem aborts_confining (strict : Prop) : (confining strict).Governs Eval.abort :=
  .change (fun _ => rfl) fun _ _ kept h => ⟨(kept h).functions, (kept h).generators⟩

/-- **All evaluation keeps to it.** -/
theorem binds_confining (strict : Prop) (bound : Nat) : (confining strict).Binds (.bounded bound) :=
  (lawful_confining strict).bounded (aborts_confining strict) bound

/-- The statements that a task is to run. -/
def Task.statements : Task → Option Block
  | .exec s _ => some [s]
  | .block body _ | .script body _ => some body
  | _ => none

/-- Whatever is not the running of statements is governed by the rule. -/
theorem governs_task (strict : Prop) (bound : Nat) {task : Task} (none : task.statements = none) :
    (confining strict).Governs (task.run (.bounded bound)) := by
  have h := binds_confining strict bound
  cases task with
  | eval e scope => exact h.eval e scope
  | exec | block | script => cases none
  | call callee arguments => exact h.callValue (aborts_confining strict) callee arguments
  | method receiver name arguments => exact h.callMethod (fun _ _ _ => aborts_confining strict) arguments
  | assign target v scope => exact (h.assignTarget scope target v).map _
  | drain v => exact (h.collect v).map _
  | resume id r => exact h.resume id r
  | close id => exact (h.closeGenerator id).map _

/-- Statements stand where they are placed. -/
theorem stands_task (strict : Prop) (bound : Nat) {task : Task} {inLoop : Bool}
    (placed : strict → ∀ body ∈ task.statements, blockPlaced inLoop body = true) :
    (confining strict).Stands inLoop (task.run (.bounded bound)) := by
  have h := binds_confining strict bound
  match task, placed with
  | .exec s scope, placed =>
    have s_placed : strict → s.placed inLoop = true := fun strict => by
      simpa [blockPlaced] using placed strict [s] rfl
    exact (h.exec scope s_placed).map _
  | .block body scope, placed =>
    exact (h.execBlock scope fun strict => placed strict body rfl).map _
  | .script body scope, placed =>
    exact h.execModule scope .none fun strict => placed strict body rfl
  | .eval .., _ | .call .., _ | .method .., _ | .assign .., _ | .drain .., _ | .resume .., _
  | .close .., _ => exact h.stands (governs_task strict bound rfl) inLoop

/-! ## Sessions -/

/-- **What a host is told is misplaced** is a `return`, a `break` or a `continue`. -/
theorem kind_eq_misplaced_iff :
    s.kind = .misplacedControlFlow ↔ (∃ v, s = .returns v) ∨ s.placed false = false := by
  cases s with
  | fault f =>
    have other : f.kind ≠ .misplacedControlFlow := by
      match f with
      | .unresolvedName _ | .typeFault _ | .exhausted _ | .protocolViolation _ => nofun
      | .raised e =>
        rw [Fault.kind]
        split <;> nofun
    simp [Stop.kind, Stop.placed, other]
  | _ => simp [Stop.kind, Stop.placed]

namespace Session

/-- **A session of a host that runs placed scripts only.** -/
inductive WellPlaced : Session → Prop
  | start (config : Config) : WellPlaced (start config)
  | run {s : Session} {body : Block} : s.WellPlaced → blockPlaced false body = true →
    WellPlaced (s.run body).2
  | evaluate {s : Session} {body : Block} : s.WellPlaced → blockPlaced false body = true →
    WellPlaced (evaluate s body).2
  | call {s : Session} (name : String) (arguments : List Value) : s.WellPlaced →
    WellPlaced (s.call name arguments).2
  | send {s : Session} (id : GeneratorId) (v : Value) : s.WellPlaced → WellPlaced (s.send id v).2
  | throw {s : Session} (id : GeneratorId) (e : Exception) : s.WellPlaced →
    WellPlaced (s.throw id e).2
  | close {s : Session} (id : GeneratorId) : s.WellPlaced → WellPlaced (s.close id).2
  | define {s : Session} (name : String) (v : Value) : s.WellPlaced → WellPlaced (s.define name v)
  | clearOutput {s : Session} : s.WellPlaced → WellPlaced s.clearOutput

variable {s : Session}

/-- **One operation of a host.** -/
theorem placed_perform (placed : s.machine.Placed) {α : Type} {S : Stop → Prop} {P : α → Prop}
    {x : Evaluator → Eval α} (runs : ∀ bound, (confining True).Runs S P (x (.bounded bound))) :
    (s.perform (.boundedly x)).2.machine.Placed ∧ Ending S P (s.perform (.boundedly x)).1 := by
  rw [perform_eq, on_boundedly]
  obtain ⟨kept, ends⟩ := runs s.machine.bound () s.machine fun _ => placed
  exact ⟨kept trivial, ends⟩

theorem placed_run (placed : s.machine.Placed) {body : Block}
    (body_placed : blockPlaced false body = true) :
    (s.run body).2.machine.Placed ∧
      Ending ((confining True).Allows false) (fun _ => True) (s.run body).1 :=
  placed_perform placed fun bound => (binds_confining True bound).execModule s.globals .none
    fun _ => body_placed

theorem placed_call (placed : s.machine.Placed) (name : String) (arguments : List Value) :
    (s.call name arguments).2.machine.Placed ∧
      Ending (confining True).Stops (fun _ => True) (s.call name arguments).1 := by
  cases found : s.global? name with
  | none =>
    rw [call_of_none found]
    exact ⟨placed, (lawful_confining True).stops_fault _⟩
  | some callee =>
    rw [call_of_some found]
    exact placed_perform placed fun bound =>
      (binds_confining True bound).callValue (aborts_confining True) callee arguments

theorem placed_resume (placed : s.machine.Placed) (id : GeneratorId) (r : Resume) :
    (s.perform (.boundedly fun ev => ev.resume id r)).2.machine.Placed ∧
      Ending (confining True).Stops (fun _ => True)
        (s.perform (.boundedly fun ev => ev.resume id r)).1 :=
  placed_perform placed fun bound => (binds_confining True bound).resume id r

theorem placed_close (placed : s.machine.Placed) (id : GeneratorId) :
    (s.close id).2.machine.Placed ∧
      Ending (confining True).Stops (fun _ => True) (s.close id).1 :=
  placed_perform placed fun bound => (binds_confining True bound).closeGenerator id

/-- **All code of such a session stays placed.** -/
theorem WellPlaced.placed (h : s.WellPlaced) : s.machine.Placed := by
  induction h with
  | start config => exact (Machine.Placed.initial config).addScope .module none nofun
  | run _ body ih => exact (placed_run ih body).1
  | @evaluate s body _ body_placed ih =>
    have fresh : (s.machine.fresh .standard).Placed := ⟨ih.functions, ih.generators⟩
    exact (placed_run (s := { s with machine := s.machine.fresh .standard }) fresh body_placed).1
  | call name arguments _ ih => exact (placed_call ih name arguments).1
  | send id v _ ih => exact (placed_resume ih id (.send v)).1
  | throw id e _ ih => exact (placed_resume ih id (.throw e)).1
  | close id _ ih => exact (placed_close ih id).1
  | define name v _ ih => exact ih.define _ name v
  | clearOutput _ ih => exact ⟨ih.functions, ih.generators⟩

end Session

/-- What a rule about placed code lets out of a call is nothing misplaced. -/
theorem kind_ne_misplaced_of_stops (stops : (confining True).Stops s) :
    s.kind ≠ .misplacedControlFlow := by
  rw [Ne, kind_eq_misplaced_iff]
  rintro (⟨v, rfl⟩ | signal)
  · exact stops.1 v rfl
  · rw [stops.2 trivial] at signal
    cases signal

/-! ## The result -/

/-- **How far the signals of control flow get.** -/
structure SignalsConfined (bound : Nat) : Prop where
  /-- A `return` gets out of statements only: not out of an expression, a call of whatever
  value, a method, an assignment, the items of a value, or a generator that is resumed or
  closed. -/
  returns {m : Machine} {task : Task} (v : Value) : task.statements = none →
    ((task.run (.bounded bound)).on m).1 ≠ .error (.returns v)
  /-- The call whose body returns has the value. -/
  answered {m n : Machine} {id : FunctionId} {name : String} {arguments : List Value}
    {v : Value} : CalleeRun (.bounded bound) id name arguments m (.error (.returns v)) n →
    ((callValue (.bounded bound) (.function id name) arguments).on m).1 = .ok v
  /-- A `break` or `continue` gets out of a call of a function just if the body ends with it. -/
  called {m : Machine} {id : FunctionId} {name : String} {arguments : List Value} {s : Stop} :
    s.placed false = false →
    (((callValue (.bounded bound) (.function id name) arguments).on m).1 = .error s ↔
      ∃ n, CalleeRun (.bounded bound) id name arguments m (.error s) n)
  /-- It gets out of a generator that is resumed just if what is left of the body does. -/
  resumed {m : Machine} {id : GeneratorId} {r : Resume} {s : Stop} : s.placed false = false →
    ((((Evaluator.bounded (bound + 1)).resume id r).on m).1 = .error s ↔
      ∃ n, BodyRun (.bounded bound) id r m (.error s) n)
  /-- The generator has completed with it then. -/
  completed {m n : Machine} {id : GeneratorId} {r : Resume} {s : Stop} :
    s.placed false = false → BodyRun (.bounded bound) id r m (.error s) n →
    ((((Evaluator.bounded (bound + 1)).resume id r).on m).2.generator id).state =
      .completed (.stopped s)
  /-- It gets out of a generator that is closed just if the body that is told to exit ends with
  it. -/
  closed {m : Machine} {id : GeneratorId} {s : Stop} : s.placed false = false →
    (((closeGenerator (.bounded (bound + 1)) id).on m).1 = .error s ↔
      ∃ n, BodyRun (.bounded bound) id (.throw (.bare .generatorExit)) m (.error s) n)
  /-- Where all code is placed, no task ends with one, other than statements that are in a
  loop. -/
  placed {m : Machine} {task : Task} {inLoop : Bool} {s : Stop} : m.Placed →
    (∀ body ∈ task.statements, blockPlaced inLoop body = true) →
    ((task.run (.bounded bound)).on m).1 = .error s →
    s.placed (inLoop && task.statements.isSome) = true
  /-- All code stays placed. -/
  stays {m : Machine} {task : Task} {inLoop : Bool} : m.Placed →
    (∀ body ∈ task.statements, blockPlaced inLoop body = true) →
    ((task.run (.bounded bound)).on m).2.Placed
  /-- These signals are what a host is told is misplaced. -/
  reported {s : Stop} :
    s.kind = .misplacedControlFlow ↔ (∃ v, s = .returns v) ∨ s.placed false = false
  /-- A host that runs placed scripts is told so of a `return` at module level. -/
  run {s : Session} {body : Block} {stop : Stop} : s.WellPlaced →
    blockPlaced false body = true → (s.run body).1 = .error stop →
    stop.kind = .misplacedControlFlow → ∃ v, stop = .returns v
  /-- It is never told so of a call. -/
  call {s : Session} {name : String} {arguments : List Value} {stop : Stop} : s.WellPlaced →
    (s.call name arguments).1 = .error stop → stop.kind ≠ .misplacedControlFlow
  /-- Nor is it of a generator that is sent a value, -/
  send {s : Session} {id : GeneratorId} {v : Value} {stop : Stop} : s.WellPlaced →
    (s.send id v).1 = .error stop → stop.kind ≠ .misplacedControlFlow
  /-- is thrown an exception, -/
  throw {s : Session} {id : GeneratorId} {e : Exception} {stop : Stop} : s.WellPlaced →
    (s.throw id e).1 = .error stop → stop.kind ≠ .misplacedControlFlow
  /-- or is closed. -/
  close {s : Session} {id : GeneratorId} {stop : Stop} : s.WellPlaced →
    (s.close id).1 = .error stop → stop.kind ≠ .misplacedControlFlow

/-- **A `return` stays inside the body it is met in, and a `break` or `continue` does if it is
placed.** -/
theorem signals_stay_inside_calls (bound : Nat) : SignalsConfined bound where
  returns {m task} v none ends := by
    have stops := (governs_task False bound none () m nofun).2
    rw [ends] at stops
    exact stops.1 v rfl
  answered run := run.fst_call
  called {m id name arguments s} signal := ⟨exists_calleeRun signal, fun ⟨_, run⟩ => by
    match s, signal, run with
    | .breaks, _, run | .continues, _, run => exact run.fst_call⟩
  resumed signal := fst_resume_eq_signal_iff signal
  completed signal run := state_of_signal signal run
  closed signal := fst_close_eq_signal_iff signal
  placed {m task inLoop s} placed statements ends := by
    cases none : task.statements with
    | none =>
      have stops := (governs_task True bound none () m fun _ => placed).2
      rw [ends] at stops
      simpa using stops.2 trivial
    | some body =>
      have stops := (stands_task True bound (fun _ => statements) () m fun _ => placed).2
      rw [ends] at stops
      simpa using stops trivial
  stays {m task inLoop} placed statements :=
    (stands_task True bound (fun _ => statements) () m fun _ => placed).1 trivial
  reported := kind_eq_misplaced_iff
  run {s body stop} well body_placed ends misplaced := by
    have allowed := (Session.placed_run well.placed body_placed).2
    rw [ends] at allowed
    refine (kind_eq_misplaced_iff.1 misplaced).resolve_right fun signal => ?_
    rw [allowed trivial] at signal
    cases signal
  call {s name arguments stop} well ends := by
    have stops := (Session.placed_call well.placed name arguments).2
    rw [ends] at stops
    exact kind_ne_misplaced_of_stops stops
  send {s id v stop} well ends := by
    have stops := (Session.placed_resume well.placed id (.send v)).2
    rw [show (s.perform _).1 = .error stop from ends] at stops
    exact kind_ne_misplaced_of_stops stops
  throw {s id e stop} well ends := by
    have stops := (Session.placed_resume well.placed id (.throw e)).2
    rw [show (s.perform _).1 = .error stop from ends] at stops
    exact kind_ne_misplaced_of_stops stops
  close {s id stop} well ends := by
    have stops := (Session.placed_close well.placed id).2
    rw [ends] at stops
    exact kind_ne_misplaced_of_stops stops

/-- A function that has a `break` but no loop, and a loop in which it is called. -/
def straying : Block :=
  let call (name : String) (arguments : List Expr) : Stmt :=
    StmtForm.synthetic (.expr (.call (.name name) arguments))
  [StmtForm.synthetic (.function "leaf" [] [StmtForm.synthetic .breaks]),
    StmtForm.synthetic (.forLoop (.name "i") (.list [.int 1, .int 2, .int 3])
      [call "print" [.name "i"], call "leaf" []] none)]

/-- What is left of a session in which it was run. -/
def strayed : Except Stop Value × Session := (Session.start ⟨50, 5⟩).run straying

/-- Whether something ended with a `break`. -/
def endsInBreak : Except Stop Value → Bool
  | .error .breaks => true
  | _ => false

theorem eq_of_endsInBreak {r : Except Stop Value} (ends : endsInBreak r = true) :
    r = .error .breaks := by
  cases r with
  | ok => cases ends
  | error s =>
    cases s with
    | breaks => rfl
    | fault | returns | continues | gasExhausted | endless => cases ends

/-- **The loop of the caller takes the `break` of the callee.** The run ends well after one item,
and only where no loop is around the call is the host told. The body of the callee is not
placed. -/
theorem break_of_callee_ends_loop_of_caller :
    strayed.1 = .ok .none ∧ strayed.2.output.lines = #["1"] ∧
      (strayed.2.call "leaf" []).1 = .error .breaks ∧ blockPlaced false straying = false := by
  have well : strayed.1.toOption.any Value.isNone = true := by decide +kernel
  have alone : endsInBreak (strayed.2.call "leaf" []).1 = true := by decide +kernel
  refine ⟨?_, by decide +kernel, eq_of_endsInBreak alone, by decide +kernel⟩
  generalize strayed.1 = r at well
  cases r with
  | ok v => rw [Value.isNone_iff.1 well]
  | error => cases well

end MeteredScript
