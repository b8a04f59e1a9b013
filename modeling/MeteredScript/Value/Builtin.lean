/-!
# Built-in functions, by name

The built-in functions of the language. Seven of them are also the type
objects of a kind of value: `list` is both the function that makes a list and
what `type([])` evaluates to. What each does is said elsewhere.
-/

namespace MeteredScript

/-- **The built-in functions.** -/
inductive Builtin where
  | print | range | len | list | tuple | set | dict | str | repr | int | bool | sorted | sum
  | min | max | enumerate | next | type
  deriving DecidableEq, Repr

namespace Builtin

/-- All built-in functions. -/
def all : List Builtin :=
  [print, range, len, list, tuple, set, dict, str, repr, int, bool, sorted, sum, min, max,
    enumerate, next, type]

theorem mem_all (b : Builtin) : b ∈ all := by cases b <;> decide

/-- The name by which scripts refer to the function. -/
def name : Builtin → String
  | print => "print"
  | range => "range"
  | len => "len"
  | list => "list"
  | tuple => "tuple"
  | set => "set"
  | dict => "dict"
  | str => "str"
  | repr => "repr"
  | int => "int"
  | bool => "bool"
  | sorted => "sorted"
  | sum => "sum"
  | min => "min"
  | max => "max"
  | enumerate => "enumerate"
  | next => "next"
  | type => "type"

/-- The built-in function of a given name. -/
def ofName? (s : String) : Option Builtin := all.find? (·.name == s)

theorem name_injective {a b : Builtin} (h : a.name = b.name) : a = b := by
  cases a <;> cases b <;> simp_all [name]

@[simp] theorem ofName?_name (b : Builtin) : ofName? b.name = some b := by
  cases b <;> decide

/-- Whether the function is also the type object of a kind of value. -/
def isType : Builtin → Bool
  | list | tuple | set | dict | str | int | bool => true
  | _ => false

end Builtin

end MeteredScript
