import MeteredScript.Fault.Basic
import MeteredScript.Heap.Equality

/-!
# Order

Numbers are ordered by their value, strings by the code points of their
characters, lists and tuples by the first items that differ, and by length if
none do. Values of other types, or of two different ones, have no order.

The items before the deciding ones are only compared for equality, so a list
may contain values without an order as long as another list has equal ones at
the same positions.
-/

namespace MeteredScript

namespace Value

mutual

/-- The order of two values, where `equal` tests items and `contents` orders
two lists. The operator is the one that a report of a failure mentions. -/
def orderWith (equal : Value → Value → Option Bool)
    (contents : ListId → ListId → Except Stop Ordering) (op : CompareOp) :
    Value → Value → Except Stop Ordering
  | tuple xs, tuple ys => orderItemsWith equal contents op xs ys
  | list a, list b => contents a b
  | str a, str b => .ok (compare a b)
  | x, y =>
    match x.asInt?, y.asInt? with
    | some m, some n => .ok (compare m.toInt n.toInt)
    | _, _ => .error (.fault (.typeFault (.ordering op x.typeName y.typeName)))

/-- The order of two sequences: that of the first items that differ, else that
of the lengths. -/
def orderItemsWith (equal : Value → Value → Option Bool)
    (contents : ListId → ListId → Except Stop Ordering) (op : CompareOp) :
    List Value → List Value → Except Stop Ordering
  | x :: xs, y :: ys =>
    match equal x y with
    | Option.none => .error .endless
    | some true => orderItemsWith equal contents op xs ys
    | some false => x.orderWith equal contents op y
  | [], [] => .ok .eq
  | [], _ :: _ => .ok .lt
  | _ :: _, [] => .ok .gt

end

end Value

namespace Heap

/-- The order of two lists, opening at most `depth` lists inside one
another. -/
def listOrder (h : Heap) (op : CompareOp) :
    (depth : Nat) → ListId → ListId → Except Stop Ordering
  | 0, _, _ => .error .endless
  | depth + 1, a, b =>
    Value.orderItemsWith h.equal? (h.listOrder op depth) op (h.list a).toList (h.list b).toList

/-- **The order of two values.** -/
def order (h : Heap) (op : CompareOp) (x y : Value) : Except Stop Ordering :=
  x.orderWith h.equal? (h.listOrder op h.pairBound) op y

end Heap

end MeteredScript
