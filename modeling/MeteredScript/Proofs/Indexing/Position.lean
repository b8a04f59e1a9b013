import MeteredScript.Evaluation.Assignment
import MeteredScript.Evaluation.Method
import MeteredScript.Proofs.Augmented.Combination

/-!
# Positions in lists

An item of a list is read, stored to and popped by its index. All three ways
address the same item: they split the list at one place (`IndexHits`), or none
of them finds any and each raises an `IndexError` and changes nothing
(`IndexMisses`). `list_indices_agree` says which of the two it is, for every
list and every index.

Positions are computed with unbounded numbers. `checkedPosition` does the same
with 64-bit numbers and fails where one does not fit. It never does
(`checkedPosition_eq`), since a length is added only to a negative index.
-/

namespace MeteredScript

open Eval

variable {ev : Evaluator} {m : Machine} {id : ListId} {index item : Value} {i : Int64}
  {before after : List Value}

/-! ## Machine numbers -/

/-- An index counted from the start of a sequence, where the sum has to fit into
64 bits. -/
def checkedStart (length index : Int64) : Except Fault Int64 :=
  if index < 0 then Integer.add index length else .ok index

/-- **The place that an index means**, computed with numbers each of which has to
fit into 64 bits. -/
def checkedPosition (length : Nat) (index : Int64) : Except Fault (Option Nat) := do
  let n ← Integer.fit length
  let i ← checkedStart n index
  return if 0 ≤ i ∧ i < n then some i.toInt.toNat else none

/-- A number in range is one of 64 bits. -/
theorem Integer.exists_fit {n : Int} (range : InRange n) : ∃ r, fit n = .ok r ∧ r.toInt = n :=
  have fits : fit n = .ok (Int64.ofInt n) := if_pos range
  ⟨_, fits, fit_eq_ok_iff.1 fits⟩

theorem exists_checkedStart (length index : Int64) (nonneg : 0 ≤ length.toInt) :
    ∃ i, checkedStart length index = .ok i ∧
      i.toInt = if index.toInt < 0 then index.toInt + length.toInt else index.toInt := by
  obtain ⟨least, -⟩ := Integer.inRange_toInt index
  obtain ⟨-, greatest⟩ := Integer.inRange_toInt length
  have below : index < 0 ↔ index.toInt < 0 := Int64.lt_iff_toInt_lt
  by_cases negative : index < 0
  · -- the sum lies between the index and the length
    have less := below.1 negative
    rw [checkedStart, if_pos negative, if_pos less]
    exact Integer.exists_fit ⟨by omega, by omega⟩
  · rw [checkedStart, if_neg negative, if_neg (mt below.2 negative)]
    exact ⟨index, rfl, rfl⟩

/-- **No number on the way to a place is too large**, and the place is the same. -/
theorem checkedPosition_eq {length : Nat} (fits : Integer.InRange length) (index : Int64) :
    checkedPosition length index = .ok (resolvePosition length index.toInt) := by
  obtain ⟨n, counted, size⟩ := Integer.exists_fit fits
  obtain ⟨i, started, place⟩ := exists_checkedStart n index (by omega)
  rw [size] at place
  have bounds : (0 ≤ i ∧ i < n) ↔ 0 ≤ i.toInt ∧ i.toInt < length := by
    rw [Int64.le_iff_toInt_le, Int64.lt_iff_toInt_lt, size, Int64.toInt_zero]
  simp only [checkedPosition, counted, started, bind, Except.bind, pure, Except.pure, bounds]
  rw [resolvePosition, ← place]

/-! ## One place -/

/-- **A list that was changed**: it has new items, and every other object has
what it had. -/
def Heap.ListBecomes (h : Heap) (id : ListId) (items : List Value) (h' : Heap) : Prop :=
  h'.list id = items.toArray ∧ h.Refilled (.list id) (.list items.toArray) h'

theorem Heap.listBecomes_modifyList {h : Heap} (has : h.Has (.list id))
    {f : Array Value → Array Value} {items : List Value}
    (changed : f (h.list id) = items.toArray) : h.ListBecomes id items (h.modifyList id f) := by
  refine ⟨?_, ?_⟩
  · rw [list_modifyList has, if_pos rfl, changed]
  · rw [modifyList_eq_refill, changed]
    exact refilled_refill trivial

/-- **An index that addresses an item**, the one between two parts of a list, in
each of the three ways. -/
structure IndexHits (ev : Evaluator) (m : Machine) (id : ListId) (index : Value)
    (before : List Value) (item : Value) (after : List Value) : Prop where
  items : (m.heap.list id).toList = before ++ item :: after
  /-- Reading gives the item. -/
  read : itemAt m.heap (.list id) index = .ok item
  /-- Storing replaces it and nothing else. -/
  stored : ∀ v, ∃ heap, (storeItem (.list id) index v).on m = (.ok (), { m with heap }) ∧
    m.heap.ListBecomes id (before ++ v :: after) heap
  /-- Popping gives it and takes it out. -/
  popped : ∃ heap, (callMethod ev (.list id) "pop" [index]).on m = (.ok item, { m with heap }) ∧
    m.heap.ListBecomes id (before ++ after) heap

/-- **An index that addresses nothing**, which is said in each of the three ways
and changes nothing. -/
structure IndexMisses (ev : Evaluator) (m : Machine) (id : ListId) (index : Value) : Prop where
  read : ∃ f, itemAt m.heap (.list id) index = .error (.fault f) ∧ f.exceptionKind = .indexError
  stored : ∀ v, ∃ f, (storeItem (.list id) index v).on m = (.error (.fault f), m) ∧
    f.exceptionKind = .indexError
  popped : ∃ f, (callMethod ev (.list id) "pop" [index]).on m = (.error (.fault f), m) ∧
    f.exceptionKind = .indexError

/-- The place that an index means is the same for all who ask. -/
theorem positionOf_eq (container : Value) (number : index.asInt? = some i) (length : Nat)
    (what : String) :
    positionOf container index length what =
      match resolvePosition length i.toInt with
      | some k => .ok k
      | none => .error (.indexOutOfRange what) := by
  cases place : resolvePosition length i.toInt <;> simp only [positionOf, number, place]

/-- What storing to a list does. -/
theorem on_storeItem (m : Machine) (id : ListId) (index v : Value) :
    (storeItem (.list id) index v).on m =
      match positionOf (.list id) index (m.heap.list id).size "list assignment" with
      | .error f => (.error (.fault f), m)
      | .ok k => (.ok (), { m with heap := m.heap.modifyList id (·.setIfInBounds k v) }) := by
  rw [storeItem, on_bind_ok (on_heap m), storePlace]
  cases positionOf (.list id) index (m.heap.list id).size "list assignment" with
  | error f => exact on_bind_error (on_ofFault_error m f) _
  | ok k => exact on_bind_ok (on_ofFault_ok m _) _

/-- What popping does, given the number that its index is. -/
theorem on_pop (ev : Evaluator) (id : ListId) (arguments : List Value)
    (few : arguments.length ≤ 1) {n : Int}
    (known : (popIndex arguments.head?).on m = (.ok n, m)) :
    (callMethod ev (.list id) "pop" arguments).on m =
      if (m.heap.list id).size = 0 then (.error (.fault .popFromEmpty), m)
      else match resolvePosition (m.heap.list id).size n with
        | none => (.error (.fault .popOutOfRange), m)
        | some k => (.ok ((m.heap.list id).getD k .none),
            { m with heap := m.heap.modifyList id (·.eraseIdxIfInBounds k) }) := by
  have counted : (checkCount "pop" arguments 0 1).on m = (.ok (), m) := by
    rw [checkCount, if_pos ⟨Nat.zero_le _, few⟩, on_pure]
  refine (on_bind_ok counted _).trans ?_
  show (popItem id arguments.head?).on m = _
  rw [popItem, on_bind_ok (on_heap m)]
  by_cases empty : (m.heap.list id).size = 0
  · have refused : (require ((m.heap.list id).size ≠ 0) .popFromEmpty).on m =
        (.error (.fault .popFromEmpty), m) := by
      rw [require.eq_def, if_neg (not_not_intro empty), on_fail]
    rw [if_pos empty, on_bind_error refused]
  · have allowed : (require ((m.heap.list id).size ≠ 0) .popFromEmpty).on m = (.ok (), m) := by
      rw [require.eq_def, if_pos empty, on_pure]
    rw [if_neg empty, on_bind_ok allowed, on_bind_ok known]
    cases resolvePosition (m.heap.list id).size n <;> rfl

theorem on_popIndex (number : index.asInt? = some i) (m : Machine) :
    (popIndex (some index)).on m = (.ok i.toInt, m) := by
  rw [popIndex, integerArgument, number]
  rfl

theorem indexHits (number : index.asInt? = some i)
    (items : (m.heap.list id).toList = before ++ item :: after)
    (place : resolvePosition (m.heap.list id).size i.toInt = some before.length) :
    IndexHits ev m id index before item after := by
  have whole : m.heap.list id = (before ++ item :: after).toArray := by rw [← items]
  have here : (m.heap.list id).getD before.length .none = item := by
    simp [whole, Array.getD_eq_getD_getElem?]
  have has : m.heap.Has (.list id) := by
    refine Nat.lt_of_not_le fun astray => ?_
    have none : m.heap.lists[id.index]? = none := Array.getElem?_eq_none astray
    simp [Heap.list, Array.getD_eq_getD_getElem?, none] at whole
  have full : (m.heap.list id).size ≠ 0 := by simp [whole]
  refine ⟨items, ?_, fun v => ?_, ?_⟩
  · rw [itemAt, positionOf_eq _ number, place]
    exact congrArg Except.ok here
  · rw [on_storeItem, positionOf_eq _ number, place]
    exact ⟨_, rfl, Heap.listBecomes_modifyList has (by simp [whole])⟩
  · have popped := on_pop ev id [index] (by simp) (on_popIndex number m)
    rw [popped, if_neg full, place]
    dsimp only
    rw [here]
    refine ⟨_, rfl, Heap.listBecomes_modifyList has ?_⟩
    rw [whole]
    simp [Array.eraseIdxIfInBounds, List.eraseIdx_append_of_length_le]

theorem indexMisses (number : index.asInt? = some i)
    (nowhere : resolvePosition (m.heap.list id).size i.toInt = none) :
    IndexMisses ev m id index where
  read := by
    rw [itemAt, positionOf_eq _ number, nowhere]
    exact ⟨_, rfl, rfl⟩
  stored v := by
    rw [on_storeItem, positionOf_eq _ number, nowhere]
    exact ⟨_, rfl, rfl⟩
  popped := by
    have popped := on_pop ev id [index] (by simp) (on_popIndex number m)
    rw [popped, nowhere]
    split
    · exact ⟨_, rfl, rfl⟩
    · exact ⟨_, rfl, rfl⟩

/-! ## The whole -/

/-- **The indices of a list**: which of them address an item, and which item. -/
structure ListIndexing (ev : Evaluator) (m : Machine) (id : ListId) : Prop where
  /-- An index counts from the start, or from the end if it is negative. -/
  inside : ∀ (index : Value) (i : Int64), index.asInt? = some i →
    -(m.heap.list id).size ≤ i.toInt → i.toInt < (m.heap.list id).size →
    ∃ before item after, IndexHits ev m id index before item after ∧
      (before.length : Int) = if i.toInt < 0 then (m.heap.list id).size + i.toInt else i.toInt
  /-- Every other index is out of range. -/
  outside : ∀ (index : Value) (i : Int64), index.asInt? = some i →
    (i.toInt < -(m.heap.list id).size ∨ (m.heap.list id).size ≤ i.toInt) →
    IndexMisses ev m id index
  /-- Without an index the last item is popped. -/
  last : (callMethod ev (.list id) "pop" []).on m = (callMethod ev (.list id) "pop" [.int (-1)]).on m
  /-- No number on the way to a place needs more than 64 bits. -/
  machine : Integer.InRange (m.heap.list id).size → ∀ i : Int64,
    checkedPosition (m.heap.list id).size i = .ok (resolvePosition (m.heap.list id).size i.toInt)

/-- **Reading, storing and popping address the same items**, in every list and
for every index. -/
theorem list_indices_agree (ev : Evaluator) (m : Machine) (id : ListId) : ListIndexing ev m id where
  inside index i number least most := by
    obtain ⟨k, here⟩ : ∃ k : Nat,
        (k : Int) = if i.toInt < 0 then (m.heap.list id).size + i.toInt else i.toInt := by
      refine ⟨_, Int.toNat_of_nonneg ?_⟩
      split <;> omega
    have bound : k < (m.heap.list id).toList.length := by
      rw [Array.length_toList]
      split at here <;> omega
    have length : ((m.heap.list id).toList.take k).length = k := by
      rw [List.length_take, Nat.min_eq_left (Nat.le_of_lt bound)]
    have place : resolvePosition (m.heap.list id).size i.toInt = some k :=
      resolvePosition_eq_some (Array.length_toList ▸ bound) (by split at here <;> omega)
    refine ⟨(m.heap.list id).toList.take k, (m.heap.list id).toList[k],
      (m.heap.list id).toList.drop (k + 1), indexHits number ?_ (length.symm ▸ place),
      by rw [length, here]⟩
    rw [List.getElem_cons_drop, List.take_append_drop]
  outside index i number out := indexMisses number (resolvePosition_eq_none out)
  last := by
    have popped := on_pop ev id [.int (-1)] (by simp) (on_popIndex rfl m)
    rw [on_pop ev id [] (by simp) rfl, popped]
    rfl
  machine fits i := checkedPosition_eq fits i

end MeteredScript
