import MeteredScript.Evaluation.Expression
import MeteredScript.Evaluation.Matching

/-!
# Statements

What running each form of statement does. Running a statement costs one unit
of gas before anything else happens, and so does each round of a loop.

`return`, `break` and `continue` stop the evaluation with a signal of their
own. Loops absorb the latter two, and a call absorbs the first.
-/

namespace MeteredScript

/-! ## Loops -/

/-- How a round of a loop ended, unless it stops the code around the loop:
whether there may be another round. -/
def roundEnd (result : Except Stop Unit) : Except Stop Bool :=
  match result with
  | .ok () | .error .continues => .ok true
  | .error .breaks => .ok false
  | .error s => .error s

/-- Run a round of a loop. The answer is whether there may be another. -/
def runRound (ev : Evaluator) (scope : ScopeId) (body : Block) : Eval Bool := do
  Eval.ofStop (roundEnd (← Eval.attempt (ev.execBlock scope body)))

/-- **Run a `while` loop**, at most `rounds` rounds of it. The answer is
whether it ended because its condition failed. -/
def runWhile (ev : Evaluator) (scope : ScopeId) (condition : Expr) (body : Block) :
    (rounds : Nat) → Eval Bool
  | 0 => throw .endless
  | rounds + 1 => do
    Eval.tick
    if ← ev.holds scope condition then
      if ← runRound ev scope body then runWhile ev scope condition body rounds
      else return false
    else return true

/-- **Run a `for` loop.** The answer is whether it ended because there were no
more items. -/
def runFor (ev : Evaluator) (scope : ScopeId) (target : Expr) (body : Block) (cursor : Cursor) :
    Eval Bool :=
  ev.iterate (fun _ item => do
    Eval.tick
    assignTarget ev scope target item
    if ← runRound ev scope body then return .yield true else return .done false)
    ev.rounds cursor true

/-! ## Exceptions -/

mutual

/-- Whether the class expression of a handler, given by its value, catches
exceptions of a class. A tuple catches what one of its items does. -/
def catches (expected : Value) (kind : ExceptionKind) : Except TypeFault Bool :=
  match expected with
  | .exceptionClass base => .ok (kind.isSubclassOf base)
  | .tuple options => anyCatches options kind
  | _ => .error .notExceptionClass

/-- Whether one of several values catches exceptions of a class, from the
left. -/
def anyCatches (options : List Value) (kind : ExceptionKind) : Except TypeFault Bool :=
  match options with
  | [] => .ok false
  | option :: rest => do
    if ← catches option kind then return true else anyCatches rest kind

end

/-- **The first handler that catches exceptions of a class.** -/
def findHandler (ev : Evaluator) (scope : ScopeId) (kind : ExceptionKind) :
    List Handler → Eval (Option Handler)
  | [] => return none
  | handler :: rest => do
    match handler.catches with
    | none => return some handler
    | some e =>
      let expected ← ev.eval e scope
      if ← Eval.ofTypeFault (catches expected kind) then return some handler
      else findHandler ev scope kind rest

/-- Bind the exception that a handler sees to the handler's name. -/
def bindException (scope : ScopeId) (handler : Handler) (f : Fault) : Eval Unit :=
  match handler.name with
  | none => pure ()
  | some name => do Eval.define scope name (← Eval.newException f.toException)

/-- Give a fault to the first handler that catches it. Without one it goes
on. -/
def handleFault (ev : Evaluator) (scope : ScopeId) (handlers : List Handler) (f : Fault) :
    Eval Unit := do
  match ← findHandler ev scope f.exceptionKind handlers with
  | none => Eval.fail f
  | some handler =>
    bindException scope handler f
    Eval.whileHandling f (ev.execBlock scope handler.body)

/-- Run the body of a `try` statement and what follows on how it ends: the
`else` block, or a handler. -/
def runGuarded (ev : Evaluator) (scope : ScopeId) (body : Block) (handlers : List Handler)
    (orElse : Option Block) : Eval Unit := do
  match ← Eval.attempt (ev.execBlock scope body) with
  | .ok () => ev.execOptional scope orElse
  | .error (.fault f) => handleFault ev scope handlers f
  | .error s => throw s

/-- **Run a `try` statement.** The `finally` block is run in any case, and
what it stops with takes the place of what was pending. -/
def runTry (ev : Evaluator) (scope : ScopeId) (body : Block) (handlers : List Handler)
    (orElse cleanup : Option Block) : Eval Unit := do
  let outcome ← Eval.attempt (runGuarded ev scope body handlers orElse)
  ev.execOptional scope cleanup
  Eval.ofStop outcome

/-- The fault that a `raise` statement stops with. -/
def raisedFault (ev : Evaluator) (scope : ScopeId) (exception : Option Expr) : Eval Fault := do
  match exception with
  | some e => return .raised (← Eval.ofTypeFault (exceptionOf (← ev.eval e scope)))
  | none => return (← Eval.handled?).getD .nothingToReraise

/-! ## Definitions -/

/-- Define a function. -/
def defineFunction (ev : Evaluator) (scope : ScopeId) (name : String)
    (parameters : List Parameter) (body : Block) : Eval Unit := do
  let parameters ← evalParameters ev scope parameters
  let f ← Eval.newFunction name ⟨parameters, .block body, scope, blockYields body⟩
  Eval.define scope name f

/-- Define a class: run its body in a scope of its own, which then holds the
attributes of the class. -/
def defineClass (ev : Evaluator) (scope : ScopeId) (name : String) (body : Block) :
    Eval Unit := do
  let inner ← Eval.newScope .classBody (some scope)
  ev.execBlock inner body
  Eval.define scope name (.classObject name inner)

/-! ## All statements -/

/-- What running a statement does, once its gas is paid. -/
def execForm (ev : Evaluator) (scope : ScopeId) : StmtForm → Eval Unit
  | .expr value => do
    let _ ← ev.eval value scope
  | .assign targets value => do assignAll ev scope (← ev.eval value scope) targets
  | .augmented target op value => augmentTarget ev scope target op value
  | .branch condition body orElse => do
    if ← ev.holds scope condition then ev.execBlock scope body
    else ev.execOptional scope orElse
  | .whileLoop condition body orElse => do
    if ← runWhile ev scope condition body ev.rounds then ev.execOptional scope orElse
  | .forLoop target iterable body orElse => do
    let cursor ← Evaluator.startIteration (← ev.eval iterable scope)
    if ← runFor ev scope target body cursor then ev.execOptional scope orElse
  | .function name parameters body => defineFunction ev scope name parameters body
  | .classDef name body => defineClass ev scope name body
  | .returns none => throw (.returns .none)
  | .returns (some e) => do throw (.returns (← ev.eval e scope))
  | .attempt body handlers orElse cleanup => runTry ev scope body handlers orElse cleanup
  | .raise exception => do Eval.fail (← raisedFault ev scope exception)
  | .select subject cases => do
    let v ← ev.eval subject scope
    ev.execOptional scope (← selectCase ev scope v cases)
  | .breaks => throw .breaks
  | .continues => throw .continues
  | .pass => pure ()

/-- **Run a statement in a scope.** -/
def execStmt (ev : Evaluator) (s : Stmt) (scope : ScopeId) : Eval Unit := do
  Eval.tick
  execForm ev scope s.form

end MeteredScript
