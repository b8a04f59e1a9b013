import MeteredScript.Fault.Raised
import MeteredScript.Heap.Print

/-!
# Items of containers

Reading `container[key]` and storing to it. Positions count from the end if
they are negative. A store is done in two steps: `storePlace` finds the place
or says why there is none, and `Heap.store` writes to it and cannot fail.

All ways to address a list go through `resolvePosition`.
-/

namespace MeteredScript

/-- **The place in a sequence of a given length that an index means**, if
there is one. -/
def resolvePosition (length : Nat) (index : Int) : Option Nat :=
  let i := if index < 0 then index + length else index
  if 0 ≤ i ∧ i < length then some i.toNat else none

theorem resolvePosition_lt {length : Nat} {index : Int} {i : Nat}
    (h : resolvePosition length index = some i) : i < length := by
  simp only [resolvePosition] at h
  split at h <;> simp_all <;> omega

theorem resolvePosition_eq_some {length k : Nat} {n : Int} (inside : k < length)
    (here : n = k ∨ n = k - length) : resolvePosition length n = some k := by
  have place : (if n < 0 then n + length else n) = k := by
    split <;> omega
  have bounds : (0 : Int) ≤ k ∧ (k : Int) < length := by omega
  rw [resolvePosition, place, if_pos bounds, Int.toNat_natCast]

theorem resolvePosition_eq_none {length : Nat} {n : Int} (outside : n < -length ∨ length ≤ n) :
    resolvePosition length n = none := by
  unfold resolvePosition
  split <;> exact if_neg (by omega)

/-- The place that an index means in a container of a given length, where
`what` names the container in the report of an index out of range. -/
def positionOf (container index : Value) (length : Nat) (what : String) : Except Fault Nat :=
  match index.asInt? with
  | none => .error (.typeFault (.itemIndex container.typeName index.typeName))
  | some n =>
    match resolvePosition length n.toInt with
    | some i => .ok i
    | none => .error (.indexOutOfRange what)

/-- The report that a key is missing, which shows its printed form. -/
def missingKey (h : Heap) (key : Value) : Stop :=
  match h.repr? key with
  | some printed => .fault (.missingKey printed)
  | none => .endless

/-- The value under a key of a dict. -/
def dictItem (h : Heap) (id : DictId) (key : Value) : Except Stop Value :=
  match key.hashKey with
  | .error why => .error (.fault (.typeFault why))
  | .ok hashKey =>
    match (h.dict id).find? hashKey with
    | some (_, value) => .ok value
    | none => .error (missingKey h key)

/-- The item of a list of items at the place that an index means. -/
def sequenceItem (container index : Value) (items : List Value) (what : String) :
    Except Stop Value :=
  match positionOf container index items.length what with
  | .error f => .error (.fault f)
  | .ok i => .ok (items.getD i .none)

/-- The characters of a string, each as a string. -/
def characters (s : String) : List Value := s.toList.map fun c => .str (String.singleton c)

/-- **The value of `container[key]`.** -/
def itemAt (h : Heap) (container key : Value) : Except Stop Value :=
  match container with
  | .list id =>
    match positionOf container key (h.list id).size "list" with
    | .error f => .error (.fault f)
    | .ok i => .ok ((h.list id).getD i .none)
  | .tuple items => sequenceItem container key items "tuple"
  | .str s => sequenceItem container key (characters s) "string"
  | .dict id => dictItem h id key
  | other => .error (.fault (.typeFault (.notSubscriptable other.typeName)))

/-- **A place that can be stored to**: a position of a list, or a key of a
dict together with the value it was given as. -/
inductive Place where
  | listItem (id : ListId) (position : Nat)
  | dictEntry (id : DictId) (hashKey : HashKey) (key : Value)
  deriving Repr

/-- The place that `container[key] = …` stores to. -/
def storePlace (h : Heap) (container key : Value) : Except Fault Place :=
  match container with
  | .list id => .listItem id <$> positionOf container key (h.list id).size "list assignment"
  | .dict id =>
    match key.hashKey with
    | .ok hashKey => .ok (.dictEntry id hashKey key)
    | .error why => .error (.typeFault why)
  | other => .error (.typeFault (.noItemAssignment other.typeName))

/-- Store a value. -/
def Heap.store (h : Heap) (place : Place) (value : Value) : Heap :=
  match place with
  | .listItem id position => h.modifyList id (·.setIfInBounds position value)
  | .dictEntry id hashKey key => h.modifyDict id (EntryTable.put · hashKey key value)

end MeteredScript
