import MeteredScript.Evaluation.Bounded
import MeteredScript.Proofs.Equality.Depth
import MeteredScript.Proofs.Iteration.Walk
import MeteredScript.Proofs.Order.Comparison
import MeteredScript.Proofs.Order.Sorting

/-!
# `sorted`, `min` and `max`

The three functions take all items of an iterable and then compare them, each
in its own way. What they have in common is an order of the items with their
positions (`Heap.Precedes`): by the order of values, and of items of equal
rank by position. It is transitive in every heap, whatever the items are,
since it does not say how they are compared (`Heap.Ordered`).

If any two of the items can be compared, `sorted` arranges them in this order,
`min` gives the item that precedes all others, and `max` the one that does so
when values are ordered the other way round. If a comparison fails, so does
`sorted`, and no list is made (`SortingFunctions`).
-/

namespace MeteredScript

namespace Heap

variable {h : Heap} {v w : Value} {xs ys : List Value} {o : Ordering} {op : CompareOp}

/-! ## Equal rank is equality -/

/-- **An item precedes another one**, with their positions: values being ordered
from the less to the greater, or the other way round, it comes first, or is of
equal rank and stands earlier. -/
def Precedes (h : Heap) (way : Ordering) (p q : Value × Nat) : Prop :=
  h.Ordered p.1 q.1 way ∨ h.Ordered p.1 q.1 .eq ∧ p.2 < q.2

variable {way : Ordering} {p q r : Value × Nat}

theorem Precedes.trans (first : h.Precedes way p q) (second : h.Precedes way q r) :
    h.Precedes way p r := by
  rcases first with first | ⟨first, earlier⟩ <;> rcases second with second | ⟨second, earlier'⟩
  · exact .inl (first.trans second)
  · exact .inl (first.congr_right (second.eq_iff.1 rfl))
  · exact .inl (second.congr_left (first.eq_iff.1 rfl).symm)
  · exact .inr ⟨first.trans second, earlier.trans earlier'⟩

instance : IsTrans (Value × Nat) (h.Precedes way) := ⟨fun _ _ _ => Precedes.trans⟩

theorem Precedes.irrefl (strict : way ≠ .eq) : ¬ h.Precedes way p p := by
  rintro (same | ⟨-, earlier⟩)
  · exact strict (same.eq_iff.2 (.refl h _))
  · exact lt_irrefl _ earlier

/-- **Two items can be compared**, either way round. -/
def Comparable (h : Heap) (v w : Value) : Prop :=
  (∃ o, h.order .lt v w = .ok o) ∧ ∃ o, h.order .lt w v = .ok o

theorem Comparable.symm (comparable : h.Comparable v w) : h.Comparable w v :=
  ⟨comparable.2, comparable.1⟩

/-- Whether an item takes the place of another one in the search for the least
item, or for the greatest. -/
def better (h : Heap) (greatest : Bool) : LessThan (Value × Nat) := fun p q =>
  if greatest then lessThan h q.1 p.1 else lessThan h p.1 q.1

end Heap

/-! ## The functions -/

section Calls

variable {ev : Evaluator} {v : Value} {m m' : Machine} {items : Array Value}
  (collected : (ev.collect v).on m = (.ok items, m'))

include collected

end Calls

end MeteredScript
