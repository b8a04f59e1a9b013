import MeteredScript.Fault.Basic

/-!
# The exceptions that the language itself raises

Besides the faults that have a constructor of their own, evaluation raises a
fixed stock of exceptions. Each is defined here once, with its class and its
wording.
-/

namespace MeteredScript

namespace Fault

/-- An exception of a class with a message, in flight. -/
def saying (kind : ExceptionKind) (message : String) : Fault := .raised (.saying kind message)

/-- A result that does not fit into 64 bits. -/
def integerOverflow : Fault := saying .overflowError "integer overflow"

/-- A repetition longer than any sequence may be; `what` is the kind of
sequence. -/
def repetitionTooLong (what : String) : Fault :=
  saying .overflowError ("repeated " ++ what ++ " is too long")

/-- A quotient or remainder by zero. -/
def divisionByZero : Fault := saying .zeroDivisionError "integer division or modulo by zero"

/-- A power whose value is no integer. -/
def negativeExponent : Fault :=
  saying .valueError "negative exponents are not supported for integers"

/-- A position outside a sequence; `what` is what was indexed. -/
def indexOutOfRange (what : String) : Fault :=
  saying .indexError (what ++ " index out of range")

/-- A key that is not there, in its printed form. -/
def missingKey (printed : String) : Fault := saying .keyError printed

/-- An arithmetic progression that does not progress. -/
def zeroStep : Fault := saying .valueError "range() arg 3 must not be zero"

/-- An item given as a dict entry that is no pair. -/
def entryLength (length : Nat) : Fault :=
  saying .valueError ("dictionary update sequence element has length " ++ toString length
    ++ "; 2 is required")

/-- A text that does not denote an integer, in its printed form. -/
def invalidInteger (printed : String) : Fault :=
  saying .valueError ("invalid literal for int() with base 10: " ++ printed)

/-- The least or greatest item of nothing. -/
def emptySequence (function : String) : Fault :=
  saying .valueError (function ++ "() arg is an empty sequence")

/-- An item taken from a list that has none. -/
def popFromEmpty : Fault := saying .indexError "pop from empty list"

/-- An item taken from a position that is not in the list. -/
def popOutOfRange : Fault := saying .indexError "pop index out of range"

/-- An attribute that values of a type do not have. -/
def noAttribute (type name : String) : Fault :=
  saying .attributeError ("'" ++ type ++ "' object has no attribute '" ++ name ++ "'")

/-- An attribute that a class of the script does not have. -/
def noClassAttribute (className name : String) : Fault :=
  saying .attributeError ("type object '" ++ className ++ "' has no attribute '" ++ name ++ "'")

/-- An attribute of something whose attributes cannot be set. -/
def readOnlyAttribute (type name : String) : Fault :=
  saying .attributeError ("'" ++ type ++ "' object attribute '" ++ name ++ "' is read-only")

/-- Too many calls inside one another. -/
def recursionLimit : Fault := saying .recursionError "maximum recursion depth exceeded"

/-- A bare `raise` with no exception being handled. -/
def nothingToReraise : Fault := saying .runtimeError "No active exception to reraise"

/-- More items than targets. -/
def tooManyToUnpack (targets : Nat) : Fault :=
  saying .valueError ("too many values to unpack (expected " ++ toString targets ++ ")")

/-- Fewer items than targets. -/
def notEnoughToUnpack (targets items : Nat) : Fault :=
  saying .valueError ("not enough values to unpack (expected " ++ toString targets ++ ", got "
    ++ toString items ++ ")")

/-- A generator resumed from inside its own body. -/
def alreadyExecuting : Fault := saying .valueError "generator already executing"

/-- A generator body that ended with the exception reserved for the end of
iteration. -/
def escapedStopIteration : Fault := saying .runtimeError "generator raised StopIteration"

/-- A generator that yields although it is told to exit. -/
def ignoredExit : Fault := .protocolViolation "generator ignored GeneratorExit"

end Fault

end MeteredScript
