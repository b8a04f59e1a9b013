import MeteredScript.Heap.Order

/-!
# Sorting

A stable sort by the order of values. The sort itself asks for nothing but a
test whether an item is less than another, which may have effects.

Comparing two values can fail. The sort of values knows nothing of that: the
test keeps the first failure aside and from then on says that nothing is less
than anything, so that the sort runs to its end, and its result counts only if
nothing was kept.

Which comparison fails first can be told from the report, so the order of
comparisons is part of what the sort does. Up to `insertionBound` items it is
that of insertion from the end: each item in turn is compared with the items
before it, last one first, until one is not greater. Longer lists are sorted
by merging halves.
-/

namespace MeteredScript

variable {α : Type} {M : Type → Type} [Monad M]

/-- Insert an item into a sorted list given backwards, after the items that
are not greater. -/
def insertBackward (less : α → α → M Bool) (x : α) : List α → M (List α)
  | [] => return [x]
  | y :: ys => do
    if ← less x y then return y :: (← insertBackward less x ys) else return x :: y :: ys

/-- Sort by inserting the items one after the other. -/
def insertionSort (less : α → α → M Bool) (items : List α) : M (List α) :=
  List.reverse <$> items.foldlM (fun sorted x => insertBackward less x sorted) []

/-- Merge two sorted lists. Of two items neither of which is less, that of the
first list comes first. -/
def mergeSorted (less : α → α → M Bool) : List α → List α → M (List α)
  | [], ys => return ys
  | xs, [] => return xs
  | x :: xs, y :: ys => do
    if ← less y x then return y :: (← mergeSorted less (x :: xs) ys)
    else return x :: (← mergeSorted less xs (y :: ys))
  termination_by xs ys => xs.length + ys.length

/-- Sort by merging sorted halves, halving at most `depth` times. -/
def mergeHalves (less : α → α → M Bool) : (depth : Nat) → List α → M (List α)
  | 0, xs => insertionSort less xs
  | depth + 1, xs =>
    if xs.length < 2 then return xs
    else do
      let half := xs.length / 2
      let left ← mergeHalves less depth (xs.take half)
      let right ← mergeHalves less depth (xs.drop half)
      mergeSorted less left right

/-- The length up to which lists are sorted by insertion. -/
def insertionBound : Nat := 20

/-- **Sort a list**, keeping equal items in their order. -/
def sortBy (less : α → α → M Bool) (items : List α) : M (List α) :=
  if items.length ≤ insertionBound then insertionSort less items
  else mergeHalves less items.length.log2.succ items

/-! ## Tests that fail -/

/-- A test whether one item is less than another, which may fail. -/
abbrev LessThan (α : Type) := α → α → Except Stop Bool

/-- **A test that keeps its first failure aside.** From then on no item is less
than another. -/
def LessThan.keeping (less : LessThan α) (x y : α) : StateM (Option Stop) Bool := do
  match ← get with
  | some _ => return false
  | none =>
    match less x y with
    | .ok b => return b
    | .error failure =>
      set (some failure)
      return false

/-- Whether a value is less than another. -/
def lessThan (h : Heap) : LessThan Value := fun x y => (· == .lt) <$> h.order .lt x y

/-- **The values of a list in order**, or the first comparison that failed. -/
def sortValues (h : Heap) (items : List Value) : Except Stop (List Value) :=
  match (sortBy (lessThan h).keeping items).run none with
  | (sorted, none) => .ok sorted
  | (_, some failure) => .error failure

end MeteredScript
