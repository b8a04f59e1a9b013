import MeteredScript.Evaluation.Monad

/-!
# The evaluator as an argument

Expressions, statements and generators are evaluated by three operations each
of which needs the others. The modules that define them take the three
operations as one argument, an `Evaluator`, so that each form can be defined,
read and reasoned about by itself. The circle is closed in one place, where
an evaluator is made out of a smaller one; the number of loops that it may run
goes down with it.
-/

namespace MeteredScript

/-- **The operations that evaluation recurses through.** -/
structure Evaluator where
  /-- The value of an expression in a scope. -/
  eval : Expr → ScopeId → Eval Value
  /-- Run a statement in a scope. -/
  exec : Stmt → ScopeId → Eval Unit
  /-- Run a generator to its next `yield` and give what it yields. -/
  resume : GeneratorId → Resume → Eval Value
  /-- How often a loop may go round before it counts as endless. -/
  rounds : Nat

namespace Evaluator

/-- Run the statements of a block in order. -/
def execBlock (ev : Evaluator) (scope : ScopeId) : Block → Eval Unit
  | [] => pure ()
  | s :: rest => do
    ev.exec s scope
    ev.execBlock scope rest

/-- Run a block that may be left out. -/
def execOptional (ev : Evaluator) (scope : ScopeId) : Option Block → Eval Unit
  | none => pure ()
  | some block => ev.execBlock scope block

/-- The values of several expressions, from the left. -/
def evalAll (ev : Evaluator) (scope : ScopeId) : List Expr → Eval (List Value)
  | [] => return []
  | e :: es => do
    let v ← ev.eval e scope
    return v :: (← ev.evalAll scope es)

/-- Whether the value of an expression counts as true. -/
def holds (ev : Evaluator) (scope : ScopeId) (condition : Expr) : Eval Bool := do
  Eval.isTruthy (← ev.eval condition scope)

/-- Whether all conditions hold, from the left up to the first that does
not. -/
def allHold (ev : Evaluator) (scope : ScopeId) : List Expr → Eval Bool
  | [] => return true
  | c :: cs => do
    if ← ev.holds scope c then ev.allHold scope cs else return false

/-- **The next item of a generator**, or nothing if it has ended. -/
def nextYielded? (ev : Evaluator) (id : GeneratorId) : Eval (Option Value) := do
  match ← Eval.attempt (ev.resume id (.send .none)) with
  | .ok v => return some v
  | .error (.fault (.exhausted _)) => return none
  | .error s => throw s

end Evaluator

end MeteredScript
