import MeteredScript.Syntax.Operator

/-!
# Why an operation is refused

Every way in which an operation can be refused for the types of its operands
is a constructor of `TypeFault`, with the type names and counts that its
report mentions. The wording stands in `TypeFault.message` and nowhere else.
Scripts can read the message of an exception they catch, so the wording is
part of the language.
-/

namespace MeteredScript

/-- **Reasons for a type error.** Fields called `type`, `left`, `right`,
`container` and `index` are names of types. -/
inductive TypeFault where
  /-- A list, dict or set used where a key is needed. -/
  | unhashable (type : String)
  /-- An operator, spelled plainly or in its augmented form, between types
  that it does not combine. -/
  | operands (op left right : String)
  | negation (type : String)
  /-- An ordering of types that have no order. -/
  | ordering (op : CompareOp) (left right : String)
  /-- A search in a string for something that is no string. -/
  | substring (type : String)
  /-- A membership test in something without members. -/
  | membership (type : String)
  | itemIndex (container index : String)
  | notSubscriptable (type : String)
  | noItemAssignment (type : String)
  /-- A built-in function that takes between `least` and `most` arguments. -/
  | argumentCount (function : String) (least most given : Nat)
  | notInteger (type function : String)
  | noLength (type : String)
  | intArgument (type : String)
  /-- `min` or `max` of nothing at all. -/
  | noArguments (function : String)
  | notIterator (type : String)
  | notString (type : String)
  | joinItem (position : Nat) (type : String)
  | yieldPosition
  | notCallable (type : String)
  | tooManyArguments (function : String) (most given : Nat)
  | missingArguments (function : String) (names : List String)
  | notException (type : String)
  | notExceptionClass
  | noClauses
  | notAssignable
  | notAugmentable
  | repetition (type : String)
  /-- A value sent to a generator that is not waiting at a `yield`. -/
  | earlySend
  | notIterable (type : String)
  /-- A reason that a host gives in its own words. -/
  | other (text : String)
  deriving DecidableEq, Repr

namespace TypeFault

/-- The ending that makes a noun agree with its count. -/
def plural (count : Nat) : String := if count == 1 then "" else "s"

/-- A text between single quotes. -/
def quoted (text : String) : String := "'" ++ text ++ "'"

/-- How a wrong number of arguments is reported: as a mismatch if one number
is right, else by the bound that is missed. -/
def argumentCountMessage (function : String) (least most given : Nat) : String :=
  if least == most then
    function ++ "() takes exactly " ++ toString least ++ " argument" ++ plural least
      ++ " (" ++ toString given ++ " given)"
  else if given < least then
    function ++ "() expected at least " ++ toString least ++ " argument" ++ plural least
      ++ ", got " ++ toString given
  else
    function ++ "() expected at most " ++ toString most ++ " argument" ++ plural most
      ++ ", got " ++ toString given

/-- **The wording of each reason.** -/
def message : TypeFault → String
  | unhashable type => "unhashable type: " ++ quoted type
  | operands op left right =>
    "unsupported operand type(s) for " ++ op ++ ": " ++ quoted left ++ " and " ++ quoted right
  | negation type => "bad operand type for unary -: " ++ quoted type
  | ordering op left right =>
    quoted op.symbol ++ " not supported between instances of " ++ quoted left ++ " and "
      ++ quoted right
  | substring type => "'in <string>' requires string as left operand, not " ++ type
  | membership type => "argument of type " ++ quoted type ++ " is not iterable"
  | itemIndex container index =>
    container ++ " indices must be integers or slices, not " ++ index
  | notSubscriptable type => quoted type ++ " object is not subscriptable"
  | noItemAssignment type => quoted type ++ " object does not support item assignment"
  | argumentCount function least most given => argumentCountMessage function least most given
  | notInteger type function =>
    quoted type ++ " object cannot be interpreted as an integer in " ++ function ++ "()"
  | noLength type => "object of type " ++ quoted type ++ " has no len()"
  | intArgument type =>
    "int() argument must be a string or a number, not " ++ quoted type
  | noArguments function => function ++ " expected at least 1 argument, got 0"
  | notIterator type => quoted type ++ " object is not an iterator"
  | notString type => "must be str, not " ++ type
  | joinItem position type =>
    "sequence item " ++ toString position ++ ": expected str instance, " ++ type ++ " found"
  | yieldPosition =>
    "'yield' is only supported as a statement or as the value of an assignment"
  | notCallable type => quoted type ++ " object is not callable"
  | tooManyArguments function most given =>
    function ++ "() takes " ++ toString most ++ " positional arguments but " ++ toString given
      ++ " were given"
  | missingArguments function names =>
    function ++ "() missing " ++ toString names.length ++ " required positional argument"
      ++ plural names.length ++ ": " ++ String.intercalate " and " (names.map quoted)
  | notException type => "exceptions must derive from BaseException, not " ++ quoted type
  | notExceptionClass =>
    "catching classes that do not inherit from BaseException is not allowed"
  | noClauses => "comprehension without a 'for' clause"
  | notAssignable => "cannot assign to expression"
  | notAugmentable => "illegal expression for augmented assignment"
  | repetition type => "can't multiply sequence by non-int of type " ++ quoted type
  | earlySend => "can't send non-None value to a just-started generator"
  | notIterable type => quoted type ++ " object is not iterable"
  | other text => text

end TypeFault

end MeteredScript
