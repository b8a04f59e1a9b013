import MeteredScript.Evaluation.Method

/-!
# Calls

A call binds its arguments to the parameters of the function and runs the
body in a scope of its own, which stands in the scope of the definition. A
function whose body yields makes a generator instead. Classes of exceptions
are called to make exception objects.
-/

namespace MeteredScript

/-- What each parameter is bound to: the arguments in order, then the
defaults. The second part lists the parameters that have neither. -/
def matchArguments : List (String × Option Value) → List Value →
    List (String × Value) × List String
  | [], _ => ([], [])
  | (name, _) :: parameters, v :: arguments =>
    let (bound, missing) := matchArguments parameters arguments
    ((name, v) :: bound, missing)
  | (name, some fallback) :: parameters, [] =>
    let (bound, missing) := matchArguments parameters []
    ((name, fallback) :: bound, missing)
  | (name, none) :: parameters, [] =>
    let (bound, missing) := matchArguments parameters []
    (bound, name :: missing)

/-- **The bindings of a call**, or why there are none: more arguments than
parameters, or parameters left without a value. -/
def bindArguments (name : String) (parameters : List (String × Option Value))
    (arguments : List Value) : Except TypeFault (List (String × Value)) :=
  if parameters.length < arguments.length then
    .error (.tooManyArguments name parameters.length arguments.length)
  else
    match matchArguments parameters arguments with
    | (bound, []) => .ok bound
    | (_, missing) => .error (.missingArguments name missing)

/-- Bind several names in a scope, in order. -/
def defineAll (scope : ScopeId) : List (String × Value) → Eval Unit
  | [] => pure ()
  | (name, value) :: rest => do
    Eval.define scope name value
    defineAll scope rest

/-- Run the body of a function in the scope of a call. -/
def runBody (ev : Evaluator) (body : FunctionBody) (scope : ScopeId) : Eval Value :=
  match body with
  | .block block => do
    ev.execBlock scope block
    return .none
  | .expr e => ev.eval e scope

/-- Run the body of a function one call deeper. A `return` gives the call its
value. -/
def callBody (ev : Evaluator) (body : FunctionBody) (scope : ScopeId) : Eval Value := do
  match ← Eval.inFrame (runBody ev body scope) with
  | .error (.returns v) => return v
  | result => Eval.ofStop result

/-- **Call a function of the script.** -/
def callFunction (ev : Evaluator) (id : FunctionId) (name : String) (arguments : List Value) :
    Eval Value := do
  let f ← Eval.function id
  let bound ← Eval.ofTypeFault (bindArguments name f.parameters arguments)
  match f.isGenerator, f.body with
  | true, .block body =>
    let generator ← Eval.newGenerator .function f.closure body
    defineAll generator.scope bound
    return .generator generator name
  | _, body =>
    let scope ← Eval.newScope .function (some f.closure)
    defineAll scope bound
    callBody ev body scope

/-- The exception that a class makes of the arguments of a call. The class of
the end of iteration carries its only argument; other classes take its text as
their message, and several arguments are shown as a tuple. -/
def makeException (kind : ExceptionKind) (arguments : List Value) : Eval Exception := do
  match kind, arguments with
  | _, [] => return .bare kind
  | .stopIteration, [v] => return .stopIteration v
  | _, [v] => return .saying kind (← Eval.text v)
  | _, vs => return .saying kind (← Eval.repr (.tuple vs))

/-- **Call a value.** -/
def callValue (ev : Evaluator) (callee : Value) (arguments : List Value) : Eval Value :=
  match callee with
  | .function id name => callFunction ev id name arguments
  | .builtin b => callBuiltin ev b arguments
  | .method _ receiver name => callMethod ev receiver name arguments
  | .exceptionClass kind => do Eval.newException (← makeException kind arguments)
  | other => Eval.fail (.typeFault (.notCallable other.typeName))

end MeteredScript
