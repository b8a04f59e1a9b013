import MeteredScript.Operation.Binary

/-!
# Containers as objects

A list, dict or set is a pointer, and the heap says what the object behind it
contains. `Heap.contents?` reads all three sorts alike, `Heap.refill` gives an
object other contents, and `Heap.place` makes a new object. For both ways to
write there are equations on what is read afterwards: the object written to
has its new contents, and every other object keeps its own.
-/

namespace MeteredScript

/-- Whether contents are of the sort of object that a value points to. -/
def Fresh.Fits : Fresh → Value → Prop
  | .list _, .list _ | .dict _, .dict _ | .set _, .set _ => True
  | _, _ => False

namespace Heap

variable {h : Heap} {v w : Value} {c : Fresh}

/-- **The contents of the object that a value points to**, if it points to
one. -/
def contents? (h : Heap) : Value → Option Fresh
  | .list id => some (.list (h.list id))
  | .dict id => some (.dict (h.dict id))
  | .set id => some (.set (h.set id))
  | _ => none

/-- Whether a value points to an object of the heap. -/
def Has (h : Heap) : Value → Prop
  | .list id => id.index < h.lists.size
  | .dict id => id.index < h.dicts.size
  | .set id => id.index < h.sets.size
  | _ => False

instance (h : Heap) : (v : Value) → Decidable (h.Has v)
  | .list id => inferInstanceAs (Decidable (id.index < h.lists.size))
  | .dict id => inferInstanceAs (Decidable (id.index < h.dicts.size))
  | .set id => inferInstanceAs (Decidable (id.index < h.sets.size))
  | .none | .bool _ | .int _ | .str _ | .tuple _ | .function .. | .builtin _ | .method ..
  | .generator .. | .classObject .. | .exceptionClass _ | .exception .. =>
    inferInstanceAs (Decidable False)

/-- Whether a value is no pointer astray: if it is a container, the object is
there. -/
def Knows (h : Heap) (v : Value) : Prop := (h.contents? v).isSome → h.Has v

/-- Give the object that a value points to other contents of its sort. -/
def refill (h : Heap) : Value → Fresh → Heap
  | .list id, .list items => h.modifyList id fun _ => items
  | .dict id, .dict entries => h.modifyDict id fun _ => entries
  | .set id, .set items => h.modifySet id fun _ => items
  | _, _ => h

/-! ## Refilled objects -/

theorem modifyList_eq_refill (h : Heap) (id : ListId) (f : Array Value → Array Value) :
    h.modifyList id f = h.refill (.list id) (.list (f (h.list id))) := by
  simp only [refill, modifyList, list, Heap.mk.injEq, and_true]
  refine Array.ext_getElem? fun i => ?_
  rw [Array.getElem?_modify, Array.getElem?_modify, Array.getD_eq_getD_getElem?]
  split
  · subst i
    cases h.lists[id.index]? <;> rfl
  · rfl

theorem modifyDict_eq_refill (h : Heap) (id : DictId) (f : EntryTable → EntryTable) :
    h.modifyDict id f = h.refill (.dict id) (.dict (f (h.dict id))) := by
  simp only [refill, modifyDict, dict, Heap.mk.injEq, and_true, true_and]
  refine Array.ext_getElem? fun i => ?_
  rw [Array.getElem?_modify, Array.getElem?_modify, Array.getD_eq_getD_getElem?]
  split
  · subst i
    cases h.dicts[id.index]? <;> rfl
  · rfl

/-- An object that was refilled has its new contents. -/
theorem contents?_refill_self (has : h.Has v) (fits : c.Fits v) :
    (h.refill v c).contents? v = some c := by
  match v, c, fits with
  | .list id, .list items, _ => rw [refill, contents?, list_modifyList has, if_pos rfl]
  | .dict id, .dict entries, _ => rw [refill, contents?, dict_modifyDict has, if_pos rfl]
  | .set id, .set items, _ => rw [refill, contents?, set_modifySet has, if_pos rfl]

/-- Every other object keeps its contents. -/
theorem contents?_refill_of_ne (ne : w ≠ v) : (h.refill v c).contents? w = h.contents? w := by
  unfold refill
  split
  · rename_i id items
    cases w with
    | list id' =>
      have apart : id.index ≠ id'.index :=
        fun same => ne (congrArg (fun i => Value.list ⟨i⟩) same.symm)
      simp only [contents?, modifyList, list, Array.getD_eq_getD_getElem?,
        Array.getElem?_modify, if_neg apart]
    | _ => rfl
  · rename_i id entries
    cases w with
    | dict id' =>
      have apart : id.index ≠ id'.index :=
        fun same => ne (congrArg (fun i => Value.dict ⟨i⟩) same.symm)
      simp only [contents?, modifyDict, dict, Array.getD_eq_getD_getElem?,
        Array.getElem?_modify, if_neg apart]
    | _ => rfl
  · rename_i id items
    cases w with
    | set id' =>
      have apart : id.index ≠ id'.index :=
        fun same => ne (congrArg (fun i => Value.set ⟨i⟩) same.symm)
      simp only [contents?, modifySet, set, Array.getD_eq_getD_getElem?,
        Array.getElem?_modify, if_neg apart]
    | _ => rfl
  · rfl

/-- No object comes or goes. -/
theorem has_refill_iff : (h.refill v c).Has w ↔ h.Has w := by
  unfold refill
  split
  · cases w <;> simp [Has, modifyList]
  · cases w <;> simp [Has, modifyDict]
  · cases w <;> simp [Has, modifySet]
  · rfl

/-- **Refilling an object** as others see it: who points to it reads its new
contents, and who points to another one what was there. -/
structure Refilled (h : Heap) (v : Value) (c : Fresh) (h' : Heap) : Prop where
  /-- The object has the new contents. -/
  self : h.Has v → h'.contents? v = some c
  /-- Every other one has its own. -/
  others (w : Value) : w ≠ v → h'.contents? w = h.contents? w
  /-- No object comes or goes. -/
  has (w : Value) : h'.Has w ↔ h.Has w

theorem refilled_refill (fits : c.Fits v) : h.Refilled v c (h.refill v c) :=
  ⟨(contents?_refill_self · fits), fun _ => contents?_refill_of_ne, fun _ => has_refill_iff⟩

/-! ## New objects -/

/-- What is placed as an object can be read there. -/
theorem contents?_place_self (fits : c.Fits v) (h : Heap) :
    (h.place c).2.contents? (h.place c).1 = some c := by
  match v, c, fits with
  | .list _, .list items, _ => exact congrArg (some ∘ Fresh.list) (list_newList_self h items)
  | .dict _, .dict entries, _ => exact congrArg (some ∘ Fresh.dict) (dict_newDict_self h entries)
  | .set _, .set items, _ => exact congrArg (some ∘ Fresh.set) (set_newSet_self h items)

/-- The object was not there before. -/
theorem not_has_place (fits : c.Fits v) (h : Heap) : ¬ h.Has (h.place c).1 := by
  match v, c, fits with
  | .list _, .list _, _ | .dict _, .dict _, _ | .set _, .set _, _ => exact Nat.lt_irrefl _

/-- The objects that were there are still there, -/
theorem has_place (has : h.Has w) (c : Fresh) : (h.place c).2.Has w := by
  cases c with
  | value v => exact has
  | list items =>
    cases w with
    | list id => exact Nat.lt_of_lt_of_eq (Nat.lt_succ_of_lt has) (Array.size_push _).symm
    | _ => exact has
  | dict entries =>
    cases w with
    | dict id => exact Nat.lt_of_lt_of_eq (Nat.lt_succ_of_lt has) (Array.size_push _).symm
    | _ => exact has
  | set items =>
    cases w with
    | set id => exact Nat.lt_of_lt_of_eq (Nat.lt_succ_of_lt has) (Array.size_push _).symm
    | _ => exact has

/-- and keep their contents. -/
theorem contents?_place (has : h.Has w) (c : Fresh) :
    (h.place c).2.contents? w = h.contents? w := by
  cases c with
  | value v => rfl
  | list items =>
    cases w with
    | list id =>
      simp only [contents?, place, newList, list, Array.getD_eq_getD_getElem?]
      rw [Array.getElem?_push, if_neg (Nat.ne_of_lt has)]
    | _ => rfl
  | dict entries =>
    cases w with
    | dict id =>
      simp only [contents?, place, newDict, dict, Array.getD_eq_getD_getElem?]
      rw [Array.getElem?_push, if_neg (Nat.ne_of_lt has)]
    | _ => rfl
  | set items =>
    cases w with
    | set id =>
      simp only [contents?, place, newSet, set, Array.getD_eq_getD_getElem?]
      rw [Array.getElem?_push, if_neg (Nat.ne_of_lt has)]
    | _ => rfl

/-- The same of any value that is no pointer astray. -/
theorem contents?_place_of_knows (knows : h.Knows w) (c : Fresh) :
    (h.place c).2.contents? w = h.contents? w := by
  match w, knows with
  | .list _, knows | .dict _, knows | .set _, knows => exact contents?_place (knows rfl) c
  | .none, _ | .bool _, _ | .int _, _ | .str _, _ | .tuple _, _ | .function .., _ | .builtin _, _
  | .method .., _ | .generator .., _ | .classObject .., _ | .exceptionClass _, _
  | .exception .., _ => rfl

end Heap

end MeteredScript
