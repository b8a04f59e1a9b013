import MeteredScript.Exception.Kind
import MeteredScript.Value.Builtin

/-!
# Values

What a variable of a script can hold. Numbers, strings, tuples and classes of
exceptions are values in themselves. Lists, dicts, sets, functions,
generators and classes live elsewhere and a value only points at them:
copying the value copies the pointer, so that every holder sees the same
object. Pointers are numbered apart for each sort of object, which is why a
pointer to a list can never lead to a dict.

A handle of a function, generator or class carries the object's name, since
the name is fixed when the object is made and is all that printing needs.
Bound methods and exception objects are immutable, so they stand in the value
itself, with a serial number that tells two of them apart.
-/

namespace MeteredScript

/-- A pointer to a list. -/
structure ListId where
  /-- Where the list stands in the heap. -/
  index : Nat
  deriving DecidableEq, Repr, Inhabited

/-- A pointer to a dict. -/
structure DictId where
  /-- Where the dict stands in the heap. -/
  index : Nat
  deriving DecidableEq, Repr, Inhabited

/-- A pointer to a set. -/
structure SetId where
  /-- Where the set stands in the heap. -/
  index : Nat
  deriving DecidableEq, Repr, Inhabited

/-- A pointer to a function that a script defined. -/
structure FunctionId where
  /-- Where the function stands in the machine. -/
  index : Nat
  deriving DecidableEq, Repr, Inhabited

/-- A pointer to a scope. -/
structure ScopeId where
  /-- Where the scope stands in the machine. -/
  index : Nat
  deriving DecidableEq, Repr, Inhabited

/-- A pointer to a generator. The scope that its body runs in is never shared,
so it identifies the generator. -/
structure GeneratorId where
  /-- The scope its body runs in. -/
  scope : ScopeId
  deriving DecidableEq, Repr, Inhabited

/-- The serial number of an object that stands in the value itself. -/
structure Serial where
  /-- The number. -/
  number : Nat
  deriving DecidableEq, Repr, Inhabited

/-- **Values** of the scripting language. -/
inductive Value where
  | none
  | bool (b : Bool)
  | int (n : Int64)
  | str (s : String)
  | list (id : ListId)
  | tuple (items : List Value)
  | dict (id : DictId)
  | set (id : SetId)
  | generator (id : GeneratorId) (name : String)
  /-- A function or lambda of a script. -/
  | function (id : FunctionId) (name : String)
  | builtin (b : Builtin)
  /-- A method looked up on a receiver and not yet called. -/
  | method (serial : Serial) (receiver : Value) (name : String)
  /-- A class of exceptions; calling it makes an exception object. -/
  | exceptionClass (kind : ExceptionKind)
  /-- A class of a script, which is its name and the scope its body filled.
  The scope is never shared, so it identifies the class. -/
  | classObject (name : String) (scope : ScopeId)
  /-- An exception object. `carried` is the return value that an exhausted
  generator hands over; for other exceptions it is usually `none`. -/
  | exception (serial : Serial) (kind : ExceptionKind) (message : Option String)
      (carried : Value)
  deriving Repr

instance : Inhabited Value := ⟨.none⟩

/-- **An exception** in flight or about to be raised: an exception object
without its identity. Each time a handler binds it, a new object is made. -/
structure Exception where
  /-- Its class. -/
  kind : ExceptionKind
  /-- What was said, if anything. -/
  message : Option String
  /-- The return value it carries for an exhausted generator. -/
  carried : Value
  deriving Repr, Inhabited

namespace Value

/-- The name of the value's type. -/
def typeName : Value → String
  | none => "NoneType"
  | bool _ => "bool"
  | int _ => "int"
  | str _ => "str"
  | list _ => "list"
  | tuple _ => "tuple"
  | dict _ => "dict"
  | set _ => "set"
  | generator .. => "generator"
  | function .. => "function"
  | builtin b => if b.isType then "type" else "builtin_function_or_method"
  | method .. => "method"
  | exceptionClass _ | classObject .. => "type"
  | exception _ kind _ _ => kind.name

/-- Whether the value is `None`. -/
def isNone : Value → Bool
  | none => true
  | _ => false

@[simp] theorem isNone_iff {v : Value} : v.isNone = true ↔ v = none := by
  cases v <;> simp [isNone]

/-- Lists and tuples are what a sequence pattern may take apart. -/
def isSequence : Value → Bool
  | list _ | tuple _ => true
  | _ => false

/-- The number that an int or a bool counts as. -/
def asInt? : Value → Option Int64
  | int n => some n
  | bool b => some (if b then 1 else 0)
  | _ => Option.none

mutual

/-- **Identity**, the `is` test. Scalars and strings are the same if they are
equal, tuples if their items are, and everything else only if it is one and
the same object. -/
def isSame : Value → Value → Bool
  | none, none => true
  | bool a, bool b => a == b
  | int a, int b => a == b
  | str a, str b => a == b
  | list a, list b => a == b
  | dict a, dict b => a == b
  | set a, set b => a == b
  | tuple xs, tuple ys => allSame xs ys
  | generator a _, generator b _ => a == b
  | function a _, function b _ => a == b
  | builtin a, builtin b => a == b
  | method a _ _, method b _ _ => a == b
  | exceptionClass a, exceptionClass b => a == b
  | classObject _ a, classObject _ b => a == b
  | exception a _ _ _, exception b _ _ _ => a == b
  | _, _ => false

/-- Whether two lists of values have the same length and the same items. -/
def allSame : List Value → List Value → Bool
  | [], [] => true
  | x :: xs, y :: ys => x.isSame y && allSame xs ys
  | _, _ => false

end

/-- **Induction through tuples.** Containers are pointers, so tuples are the
only values that have values as parts. -/
@[elab_as_elim]
theorem tupleInduction {motive : Value → Prop}
    (tuple : ∀ items, (∀ x ∈ items, motive x) → motive (.tuple items))
    (other : ∀ v, (∀ items, v ≠ .tuple items) → motive v) (v : Value) : motive v := by
  match v with
  | .tuple items =>
    exact tuple items fun x member =>
      have := List.sizeOf_lt_of_mem member
      tupleInduction tuple other x
  | .none | .bool _ | .int _ | .str _ | .list _ | .dict _ | .set _ | .generator .. | .function ..
  | .builtin _ | .method .. | .exceptionClass _ | .classObject .. | .exception .. =>
    exact other _ (by simp)

end Value

/-- An exception of a class and nothing more. -/
def Exception.bare (kind : ExceptionKind) : Exception := ⟨kind, none, .none⟩

/-- An exception of a class with a message. -/
def Exception.saying (kind : ExceptionKind) (message : String) : Exception :=
  ⟨kind, some message, .none⟩

/-- The exception that reports a generator's end and carries what the
generator returned. -/
def Exception.stopIteration (carried : Value) : Exception := ⟨.stopIteration, none, carried⟩

/-- The object for an exception under a given serial number. -/
def Exception.toValue (e : Exception) (serial : Serial) : Value :=
  .exception serial e.kind e.message e.carried

end MeteredScript
