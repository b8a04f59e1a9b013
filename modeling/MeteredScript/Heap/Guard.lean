import MeteredScript.Heap.Print

/-!
# Guards

Whoever reads or changes a container or a generator holds a guard of it for as
long as that takes. Any number of readers can hold guards of one object at the
same time, but a guard for writing excludes every other one. To ask for a guard
that is excluded is not an error that a script could handle: it ends the host.

Most guards are given back before anything else happens. Printing is what makes
them matter, since it keeps a guard of each container that it is inside of, and
since reports of errors are made by printing. `Heap.guardedRepr` is the printed
form of a value with all the guards that it takes, asked for in the order in
which printing gets there.
-/

namespace MeteredScript

/-- What there can be a guard of. -/
inductive Cell where
  | container (c : Container)
  | generator (id : GeneratorId)
  deriving DecidableEq, Repr

/-- **A guard** of an object, to read it or to change it. -/
inductive Guard where
  | reading (cell : Cell)
  | writing (cell : Cell)
  deriving DecidableEq, Repr

namespace Guard

/-- The object that a guard is of. -/
def cell : Guard → Cell
  | reading c | writing c => c

/-- Whether two guards exclude each other. -/
def excludes : Guard → Guard → Bool
  | reading _, reading _ => false
  | g, g' => g.cell = g'.cell

end Guard

/-- Why something that asks for guards has no answer. -/
inductive Obstacle where
  /-- It stops by itself. -/
  | stop (s : Stop)
  /-- It asks for a guard that another one excludes. -/
  | excluded (asked : Guard)

/-- **Something that asks for guards**, under guards that are held already. -/
abbrev Guarded (α : Type) : Type := ReaderT (List Guard) (Except Obstacle) α

/-- Hold a guard while something is done. -/
def Guarded.holding {α : Type} (g : Guard) (x : Guarded α) : Guarded α := fun held =>
  if held.any g.excludes then .error (.excluded g) else x (g :: held)

/-- Hold a guard to read a container while something is done. -/
def Guarded.inside {α : Type} (c : Container) (x : Guarded α) : Guarded α :=
  holding (.reading (.container c)) x

namespace Value

mutual

/-- The printed form of a value, with guards, where `contents` prints a container that is
not cut short. A generator is asked for its name. -/
def guardedPrintWith (h : Heap) (contents : List Container → Container → Guarded String)
    (opened : List Container) : Value → Guarded String
  | none => return "None"
  | bool true => return "True"
  | bool false => return "False"
  | int n => return toString n.toInt
  | str s => return Text.quote s
  | list id =>
    if opened.contains (.list id) then return "[...]" else contents opened (.list id)
  | dict id =>
    if opened.contains (.dict id) then return "\x7b...\x7d" else contents opened (.dict id)
  | set id => contents opened (.set id)
  | tuple items => do
    let texts ← guardedPrintAllWith h contents opened items
    return bracketed "(" (if texts.length = 1 then ",)" else ")") (commaJoin texts)
  | generator id name =>
    Guarded.holding (.reading (.generator id)) (return "<generator object " ++ name ++ ">")
  | function _ name => return "<function " ++ name ++ ">"
  | builtin b =>
    return if b.isType then "<class '" ++ b.name ++ "'>"
      else "<built-in function " ++ b.name ++ ">"
  | method _ receiver name =>
    return "<bound method " ++ receiver.typeName ++ "." ++ name ++ ">"
  | exceptionClass kind => return "<class '" ++ kind.name ++ "'>"
  | classObject name _ => return "<class '" ++ name ++ "'>"
  | exception _ kind message carried => do
    let inside ← match message with
      | some text => pure (Text.quote text)
      | Option.none =>
        if carried.isNone then pure "" else carried.guardedPrintWith h contents opened
    return bracketed (kind.name ++ "(") ")" inside

/-- The printed forms of several values, with guards. -/
def guardedPrintAllWith (h : Heap) (contents : List Container → Container → Guarded String)
    (opened : List Container) : List Value → Guarded (List String)
  | [] => return []
  | v :: vs => do
    let text ← v.guardedPrintWith h contents opened
    return text :: (← guardedPrintAllWith h contents opened vs)

end

/-- The printed forms of dict entries, with guards. -/
def guardedPrintEntriesWith (h : Heap)
    (contents : List Container → Container → Guarded String) (opened : List Container) :
    List (Value × Value) → Guarded (List String)
  | [] => return []
  | (key, value) :: es => do
    let keyText ← key.guardedPrintWith h contents opened
    let valueText ← value.guardedPrintWith h contents opened
    return (keyText ++ ": " ++ valueText) :: (← guardedPrintEntriesWith h contents opened es)

end Value

namespace Heap

/-- The printed form of a container that does not stand in itself, with guards: one of
the container is held while its items are printed. -/
def guardedContents (h : Heap) : (depth : Nat) → List Container → Container → Guarded String
  | 0, _, _ => throw (.stop .endless)
  | depth + 1, opened, .list id => Guarded.inside (.list id) do
    let texts ← Value.guardedPrintAllWith h (h.guardedContents depth) (.list id :: opened)
      (h.list id).toList
    return Value.bracketed "[" "]" (Value.commaJoin texts)
  | depth + 1, opened, .dict id => Guarded.inside (.dict id) do
    let texts ← Value.guardedPrintEntriesWith h (h.guardedContents depth) (.dict id :: opened)
      (h.dict id).values
    return Value.bracketed "\x7b" "\x7d" (Value.commaJoin texts)
  | depth + 1, opened, .set id => Guarded.inside (.set id) do
    if (h.set id).isEmpty then return "set()" else
    let texts ← Value.guardedPrintAllWith h (h.guardedContents depth) opened (h.set id).values
    return Value.bracketed "\x7b" "\x7d" (Value.commaJoin texts)

/-- **The printed form of a value, with the guards that printing takes.** -/
def guardedRepr (h : Heap) (v : Value) : Guarded String :=
  v.guardedPrintWith h (h.guardedContents h.printBound) []

/-- **Whether printing a value is excluded** by guards that are held. -/
def reprExcluded (h : Heap) (held : List Guard) (v : Value) : Bool :=
  match h.guardedRepr v held with
  | .error (.excluded _) => true
  | _ => false

end Heap

end MeteredScript
