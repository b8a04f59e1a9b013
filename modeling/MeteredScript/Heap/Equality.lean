import MeteredScript.Heap.Basic

/-!
# Equality

Two values are equal if they have the same structure: numbers by their value
(bools count as numbers), strings by their characters, lists and tuples item
by item, dicts and sets as mappings and collections of keys, whatever their
order. Everything else is equal only to itself.

Containers can contain themselves, and comparing two such containers may have
no end. The comparison is therefore given in two layers. `Value.equalWith`
recurses on a value and leaves the contents of two containers to its
argument; `Heap.contentsEqual?` opens containers, at most as many inside one
another as it is told. `Heap.equal?` allows as many as there are pairs of
containers: a comparison that goes deeper meets the same pair inside itself
and would never end. The answer `none` says so.
-/

namespace MeteredScript

/-- Two containers whose contents are to be compared. -/
inductive ContainerPair where
  | lists (a b : ListId)
  | dicts (a b : DictId)
  deriving DecidableEq, Repr

namespace Value

mutual

/-- Equality of two values, where `contents` decides on two different lists
or two different dicts. -/
def equalWith (h : Heap) (contents : ContainerPair → Option Bool) :
    Value → Value → Option Bool
  | tuple xs, tuple ys =>
    if xs.length = ys.length then allEqualWith h contents xs ys else some false
  | list a, list b => if a = b then some true else contents (.lists a b)
  | dict a, dict b => if a = b then some true else contents (.dicts a b)
  | set a, set b =>
    some (a == b || ((h.set a).size == (h.set b).size
      && (h.set a).keys.all (h.set b).contains))
  | x, y =>
    match x.asInt?, y.asInt? with
    | some m, some n => some (m == n)
    | _, _ => some (x.isSame y)

/-- Equality of values at the same positions, from the left, up to the end of
the shorter list. -/
def allEqualWith (h : Heap) (contents : ContainerPair → Option Bool) :
    List Value → List Value → Option Bool
  | x :: xs, y :: ys =>
    match x.equalWith h contents y with
    | some true => allEqualWith h contents xs ys
    | answer => answer
  | _, _ => some true

end

/-- Whether every entry of a list of dict entries has an equal value under its
key in a table. -/
def entriesEqualWith (h : Heap) (contents : ContainerPair → Option Bool)
    (other : EntryTable) : List (HashKey × Value × Value) → Option Bool
  | [] => some true
  | (key, _, value) :: es =>
    match other.find? key with
    | Option.none => some false
    | some (_, otherValue) =>
      match value.equalWith h contents otherValue with
      | some true => entriesEqualWith h contents other es
      | answer => answer

end Value

namespace Heap

/-- Whether two containers have equal contents, opening at most `depth`
containers inside one another. -/
def contentsEqual? (h : Heap) : (depth : Nat) → ContainerPair → Option Bool
  | 0, _ => none
  | depth + 1, .lists a b =>
    let xs := h.list a
    let ys := h.list b
    if xs.size = ys.size then
      Value.allEqualWith h (h.contentsEqual? depth) xs.toList ys.toList
    else some false
  | depth + 1, .dicts a b =>
    if (h.dict a).size = (h.dict b).size then
      Value.entriesEqualWith h (h.contentsEqual? depth) (h.dict b) (h.dict a).entries
    else some false

/-- More than the number of pairs of containers that a comparison can be
about. -/
def pairBound (h : Heap) : Nat := h.lists.size * h.lists.size + h.dicts.size * h.dicts.size + 1

/-- **Equality**, the `==` test. There is no answer if the comparison would
not end. -/
def equal? (h : Heap) (x y : Value) : Option Bool :=
  x.equalWith h (h.contentsEqual? h.pairBound) y

/-- Whether some of the items equals a value, from the left. -/
def anyEqual? (h : Heap) (x : Value) : List Value → Option Bool
  | [] => some false
  | y :: ys =>
    match h.equal? y x with
    | some false => h.anyEqual? x ys
    | answer => answer

end Heap

end MeteredScript
