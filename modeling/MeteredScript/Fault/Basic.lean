import MeteredScript.Fault.TypeFault
import MeteredScript.Value.Basic

/-!
# Faults and early ends

An evaluation that does not produce its value stops for one of six reasons
(`Stop`). A *fault* is an error of the script, which handlers of the script
can catch as an exception. `return`, `break` and `continue` stop what is
around them until something absorbs them. Running out of gas is for the host
alone, and so is `endless`, the answer for a computation that would not end.

A fault keeps its cause. `Fault.toException` is what a handler sees of it and
`Fault.kind` is the coarse class that a host distinguishes.
-/

namespace MeteredScript

/-- **Errors of a script.** -/
inductive Fault where
  /-- A name bound in no scope in reach, and built in nowhere. -/
  | unresolvedName (name : String)
  /-- An operation refused for the types of its operands. -/
  | typeFault (why : TypeFault)
  /-- A generator asked for more than it has, with what it returned. -/
  | exhausted (returned : Value)
  /-- A generator that does not keep to the protocol of closing. -/
  | protocolViolation (text : String)
  /-- Any other exception. -/
  | raised (exception : Exception)
  deriving Repr

/-- **Coarse classes of failure**, as a host tells them apart. -/
inductive ErrorKind where
  | unresolvedName
  | unsupportedOperation
  | exhaustedGenerator
  | generatorProtocolViolation
  | unhandledPropagatedException
  | gasExhausted
  /-- A `return`, `break` or `continue` that nothing absorbed. -/
  | misplacedControlFlow
  /-- A computation that would not end. -/
  | endless
  deriving DecidableEq, Repr

/-- The name of the class in reports. -/
def ErrorKind.name : ErrorKind → String
  | unresolvedName => "UnresolvedName"
  | unsupportedOperation => "UnsupportedOperation"
  | exhaustedGenerator => "ExhaustedGenerator"
  | generatorProtocolViolation => "GeneratorProtocolViolation"
  | unhandledPropagatedException => "UnhandledPropagatedException"
  | gasExhausted => "GasExhausted"
  | misplacedControlFlow => "MisplacedControlFlow"
  | endless => "Endless"

/-- **Why an evaluation stopped** without producing its value. -/
inductive Stop where
  /-- An error of the script. -/
  | fault (fault : Fault)
  /-- A `return` on its way out of a function body. -/
  | returns (value : Value)
  /-- A `break` on its way to a loop. -/
  | breaks
  /-- A `continue` on its way to a loop. -/
  | continues
  /-- The gas limit is exceeded. -/
  | gasExhausted
  /-- The computation would go on without end. -/
  | endless
  deriving Repr

namespace Fault

/-- **What a handler sees** of a fault. -/
def toException : Fault → Exception
  | unresolvedName name => .saying .nameError ("name '" ++ name ++ "' is not defined")
  | typeFault why => .saying .typeError why.message
  | exhausted returned => .stopIteration returned
  | protocolViolation text => .saying .runtimeError text
  | raised exception => exception

/-- The class of the exception a handler sees. -/
def exceptionKind : Fault → ExceptionKind
  | unresolvedName _ => .nameError
  | typeFault _ => .typeError
  | exhausted _ => .stopIteration
  | protocolViolation _ => .runtimeError
  | raised exception => exception.kind

@[simp] theorem kind_toException (f : Fault) : f.toException.kind = f.exceptionKind := by
  cases f <;> rfl

/-- Whether a handler for a class catches the fault. -/
def isInstanceOf (f : Fault) (kind : ExceptionKind) : Bool :=
  f.exceptionKind.isSubclassOf kind

/-- The class of failure that a host sees. Exceptions that a script raises
itself count like the faults they imitate. -/
def kind : Fault → ErrorKind
  | unresolvedName _ => .unresolvedName
  | typeFault _ => .unsupportedOperation
  | exhausted _ => .exhaustedGenerator
  | protocolViolation _ => .generatorProtocolViolation
  | raised exception =>
    match exception.kind with
    | .nameError => .unresolvedName
    | .typeError => .unsupportedOperation
    | .stopIteration => .exhaustedGenerator
    | _ => .unhandledPropagatedException

end Fault

namespace Stop

/-- The class of failure that a host sees. -/
def kind : Stop → ErrorKind
  | fault f => f.kind
  | returns _ | breaks | continues => .misplacedControlFlow
  | gasExhausted => .gasExhausted
  | endless => .endless

/-- The fault that handlers can catch, if it is one. -/
def fault? : Stop → Option Fault
  | fault f => some f
  | _ => none

/-- The exception a handler sees, if handlers can catch this. -/
def toException? (s : Stop) : Option Exception := s.fault?.map Fault.toException

/-- The class of the exception a handler sees. -/
def exceptionKind? (s : Stop) : Option ExceptionKind := s.fault?.map Fault.exceptionKind

/-- Whether this is an exception of the class or of one below it. -/
def isInstanceOf (s : Stop) (kind : ExceptionKind) : Bool :=
  match s with
  | fault f => f.isInstanceOf kind
  | _ => false

end Stop

end MeteredScript
