import MeteredScript.Fault.Basic
import MeteredScript.Heap.Basic
import MeteredScript.Text.Quoted

/-!
# Printed forms

A value has two texts. Its *printed form* (`repr?`) shows its structure, with
strings in quotes; its *text* (`text?`) is the same, except that a string is
its own text and an exception's text is its message.

A list or dict that is met again inside itself is cut short. A set is not:
it cannot contain a list or dict, but an exception object can carry the set
that it is an item of, and then printing has no end. Such a value has no
printed form, which the answer `none` says. As with equality, containers are
opened by a second layer that is told how many it may open inside one
another; `printBound` is more than any printing that ends needs, since the
lists and dicts being printed are all different and so are the sets between
two of them.
-/

namespace MeteredScript

/-- A pointer to a container. -/
inductive Container where
  | list (id : ListId)
  | dict (id : DictId)
  | set (id : SetId)
  deriving DecidableEq, Repr

namespace Value

/-- The printed form of a number of items, between commas. -/
def commaJoin (texts : List String) : String := String.intercalate ", " texts

/-- A text between brackets. -/
def bracketed (opening closing text : String) : String := opening ++ text ++ closing

mutual

/-- The printed form of a value. `opened` are the lists and dicts that it
stands in, and `contents` prints a container that is not among them. -/
def printWith (h : Heap) (contents : List Container → Container → Option String)
    (opened : List Container) : Value → Option String
  | none => some "None"
  | bool true => some "True"
  | bool false => some "False"
  | int n => some (toString n.toInt)
  | str s => some (Text.quote s)
  | list id =>
    if opened.contains (.list id) then some "[...]" else contents opened (.list id)
  | dict id =>
    if opened.contains (.dict id) then some "\x7b...\x7d" else contents opened (.dict id)
  | set id => contents opened (.set id)
  | tuple items => do
    let texts ← printAllWith h contents opened items
    return bracketed "(" (if texts.length = 1 then ",)" else ")") (commaJoin texts)
  | generator _ name => some ("<generator object " ++ name ++ ">")
  | function _ name => some ("<function " ++ name ++ ">")
  | builtin b =>
    some (if b.isType then "<class '" ++ b.name ++ "'>"
      else "<built-in function " ++ b.name ++ ">")
  | method _ receiver name =>
    some ("<bound method " ++ receiver.typeName ++ "." ++ name ++ ">")
  | exceptionClass kind => some ("<class '" ++ kind.name ++ "'>")
  | classObject name _ => some ("<class '" ++ name ++ "'>")
  | exception _ kind message carried => do
    let inside ← match message with
      | some text => some (Text.quote text)
      | Option.none => if carried.isNone then some "" else carried.printWith h contents opened
    return bracketed (kind.name ++ "(") ")" inside

/-- The printed forms of several values. -/
def printAllWith (h : Heap) (contents : List Container → Container → Option String)
    (opened : List Container) : List Value → Option (List String)
  | [] => some []
  | v :: vs => do
    let text ← v.printWith h contents opened
    return text :: (← printAllWith h contents opened vs)

end

/-- The printed forms of dict entries, each a key and a value. -/
def printEntriesWith (h : Heap) (contents : List Container → Container → Option String)
    (opened : List Container) : List (Value × Value) → Option (List String)
  | [] => some []
  | (key, value) :: es => do
    let keyText ← key.printWith h contents opened
    let valueText ← value.printWith h contents opened
    return (keyText ++ ": " ++ valueText) :: (← printEntriesWith h contents opened es)

end Value

namespace Heap

/-- The printed form of a container that does not stand in itself, opening at
most `depth` containers inside one another. -/
def printContents? (h : Heap) :
    (depth : Nat) → List Container → Container → Option String
  | 0, _, _ => none
  | depth + 1, opened, .list id => do
    let texts ← Value.printAllWith h (h.printContents? depth) (.list id :: opened)
      (h.list id).toList
    return Value.bracketed "[" "]" (Value.commaJoin texts)
  | depth + 1, opened, .dict id => do
    let texts ← Value.printEntriesWith h (h.printContents? depth) (.dict id :: opened)
      (h.dict id).values
    return Value.bracketed "\x7b" "\x7d" (Value.commaJoin texts)
  | depth + 1, opened, .set id =>
    if (h.set id).isEmpty then some "set()" else do
    let texts ← Value.printAllWith h (h.printContents? depth) opened (h.set id).values
    return Value.bracketed "\x7b" "\x7d" (Value.commaJoin texts)

/-- How many containers inside one another a printing that ends can open. -/
def printBound (h : Heap) : Nat := (h.lists.size + h.dicts.size + 1) * (h.sets.size + 1)

/-- **The printed form of a value**, if printing it ends. -/
def repr? (h : Heap) (v : Value) : Option String :=
  v.printWith h (h.printContents? h.printBound) []

/-- The text of an exception: its message, or what it carries, or nothing. -/
def messageText? (h : Heap) (message : Option String) (carried : Value) : Option String :=
  match message with
  | some text => some text
  | none => if carried.isNone then some "" else h.repr? carried

/-- **The text of a value**, if printing it ends. -/
def text? (h : Heap) : Value → Option String
  | .str s => some s
  | .exception _ _ message carried => h.messageText? message carried
  | v => h.repr? v

/-! ## Reports -/

/-- The report of an exception: its class, and its text if there is one. -/
def describeException? (h : Heap) (e : Exception) : Option String := do
  let text ← h.messageText? e.message e.carried
  return if text.isEmpty then e.kind.name else e.kind.name ++ ": " ++ text

/-- The report of a fault. -/
def describeFault? (h : Heap) : Fault → Option String
  | .unresolvedName name => some ("NameError: name '" ++ name ++ "' is not defined")
  | .typeFault why => some ("TypeError: " ++ why.message)
  | .exhausted _ => some "StopIteration"
  | .protocolViolation text => some ("RuntimeError: " ++ text)
  | .raised exception => h.describeException? exception

/-- **The report a host gives** of an evaluation that stopped. -/
def describeStop? (h : Heap) : Stop → Option String
  | .fault f => h.describeFault? f
  | .returns _ => some "'return' outside function"
  | .breaks => some "'break' outside loop"
  | .continues => some "'continue' not properly in loop"
  | .gasExhausted => some "gas exhausted"
  | .endless => some "evaluation does not end"

end Heap

end MeteredScript
