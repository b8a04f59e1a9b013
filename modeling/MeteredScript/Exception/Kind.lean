/-!
# Exception classes

The language has a fixed tree of exception classes. Handlers catch a class
together with everything below it, so what matters about a class is its name
and its chain of base classes.

`lineage_eq` says that the chain is what following the bases gives, with no
bound on its length, although it is computed with one.
-/

namespace MeteredScript

/-- **The exception classes.** -/
inductive ExceptionKind where
  | baseException
  | generatorExit
  | exception
  | stopIteration
  | nameError
  | typeError
  | valueError
  | keyError
  | indexError
  | attributeError
  | zeroDivisionError
  | overflowError
  | runtimeError
  | recursionError
  deriving DecidableEq, Repr, Inhabited

namespace ExceptionKind

/-- All classes, bases before the classes below them. -/
def all : List ExceptionKind :=
  [baseException, generatorExit, exception, stopIteration, nameError, typeError, valueError,
    keyError, indexError, attributeError, zeroDivisionError, overflowError, runtimeError,
    recursionError]

theorem mem_all (k : ExceptionKind) : k ∈ all := by cases k <;> decide

/-- The name by which scripts refer to the class. -/
def name : ExceptionKind → String
  | baseException => "BaseException"
  | generatorExit => "GeneratorExit"
  | exception => "Exception"
  | stopIteration => "StopIteration"
  | nameError => "NameError"
  | typeError => "TypeError"
  | valueError => "ValueError"
  | keyError => "KeyError"
  | indexError => "IndexError"
  | attributeError => "AttributeError"
  | zeroDivisionError => "ZeroDivisionError"
  | overflowError => "OverflowError"
  | runtimeError => "RuntimeError"
  | recursionError => "RecursionError"

/-- The class of a given name. -/
def ofName? (s : String) : Option ExceptionKind := all.find? (·.name == s)

theorem name_injective {a b : ExceptionKind} (h : a.name = b.name) : a = b := by
  cases a <;> cases b <;> simp_all [name]

@[simp] theorem ofName?_name (k : ExceptionKind) : ofName? k.name = some k := by
  cases k <;> decide

/-- The direct base class. Only `BaseException` has none. -/
def base? : ExceptionKind → Option ExceptionKind
  | baseException => none
  | generatorExit | exception => some baseException
  | recursionError => some runtimeError
  | _ => some exception

/-- The class and its bases, nearest first, as far as `steps` bases up. -/
def lineageWithin : Nat → ExceptionKind → List ExceptionKind
  | 0, k => [k]
  | steps + 1, k => k :: (match k.base? with
    | none => []
    | some b => lineageWithin steps b)

/-- The class and all its bases, nearest first. No class is more than three
bases below the top. -/
def lineage (k : ExceptionKind) : List ExceptionKind := lineageWithin 3 k

theorem lineage_eq (k : ExceptionKind) :
    k.lineage = k :: (match k.base? with
      | none => []
      | some b => b.lineage) := by
  cases k <;> rfl

/-- **The subclass relation**, which is reflexive. -/
def isSubclassOf (k other : ExceptionKind) : Bool := k.lineage.contains other

theorem isSubclassOf_refl (k : ExceptionKind) : k.isSubclassOf k = true := by
  cases k <;> decide

theorem isSubclassOf_trans {a b c : ExceptionKind} (hab : a.isSubclassOf b = true)
    (hbc : b.isSubclassOf c = true) : a.isSubclassOf c = true := by
  revert a b c
  have h : ∀ a ∈ all, ∀ b ∈ all, ∀ c ∈ all, a.isSubclassOf b = true →
      b.isSubclassOf c = true → a.isSubclassOf c = true := by decide
  exact fun {a b c} => h a (mem_all a) b (mem_all b) c (mem_all c)

theorem isSubclassOf_baseException (k : ExceptionKind) :
    k.isSubclassOf baseException = true := by
  cases k <;> decide

end ExceptionKind

end MeteredScript
