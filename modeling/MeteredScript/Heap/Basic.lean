import MeteredScript.Heap.Table

/-!
# The heap

Lists, dicts and sets can be changed in place and are shared by everyone who
holds a pointer to them. The heap says what each of them contains at the
moment. Objects are only ever added, so a pointer once given out keeps
leading to the same object.

The other objects of a running script (functions, generators, scopes) are not
part of the heap: nothing that compares, orders or prints a value looks into
them.
-/

namespace MeteredScript

/-- **The contents of all containers.** -/
structure Heap where
  /-- Contents of the lists. -/
  lists : Array (Array Value)
  /-- Contents of the dicts. -/
  dicts : Array EntryTable
  /-- Contents of the sets. -/
  sets : Array ItemTable
  deriving Repr

namespace Heap

/-- The heap without objects. -/
def empty : Heap := ⟨#[], #[], #[]⟩

instance : Inhabited Heap := ⟨empty⟩

/-- The items of a list. -/
def list (h : Heap) (id : ListId) : Array Value := h.lists.getD id.index #[]

/-- The entries of a dict. -/
def dict (h : Heap) (id : DictId) : EntryTable := h.dicts.getD id.index .empty

/-- The items of a set. -/
def set (h : Heap) (id : SetId) : ItemTable := h.sets.getD id.index .empty

/-- Change the items of a list. -/
def modifyList (h : Heap) (id : ListId) (f : Array Value → Array Value) : Heap :=
  { h with lists := h.lists.modify id.index f }

/-- Change the entries of a dict. -/
def modifyDict (h : Heap) (id : DictId) (f : EntryTable → EntryTable) : Heap :=
  { h with dicts := h.dicts.modify id.index f }

/-- Change the items of a set. -/
def modifySet (h : Heap) (id : SetId) (f : ItemTable → ItemTable) : Heap :=
  { h with sets := h.sets.modify id.index f }

/-- Add a list. -/
def newList (h : Heap) (items : Array Value) : ListId × Heap :=
  (⟨h.lists.size⟩, { h with lists := h.lists.push items })

/-- Add a dict. -/
def newDict (h : Heap) (entries : EntryTable) : DictId × Heap :=
  (⟨h.dicts.size⟩, { h with dicts := h.dicts.push entries })

/-- Add a set. -/
def newSet (h : Heap) (items : ItemTable) : SetId × Heap :=
  (⟨h.sets.size⟩, { h with sets := h.sets.push items })

/-! ## What writing does to reading -/

theorem list_modifyList {h : Heap} {id : ListId} (hid : id.index < h.lists.size)
    (f : Array Value → Array Value) (id' : ListId) :
    (h.modifyList id f).list id' = if id' = id then f (h.list id) else h.list id' := by
  obtain ⟨i⟩ := id
  obtain ⟨j⟩ := id'
  simp only [list, modifyList, Array.getD_eq_getD_getElem?, Array.getElem?_modify,
    ListId.mk.injEq]
  by_cases hij : j = i
  · subst hij; simp [Array.getElem?_eq_getElem hid]
  · simp [hij, Ne.symm hij]

theorem dict_modifyDict {h : Heap} {id : DictId} (hid : id.index < h.dicts.size)
    (f : EntryTable → EntryTable) (id' : DictId) :
    (h.modifyDict id f).dict id' = if id' = id then f (h.dict id) else h.dict id' := by
  obtain ⟨i⟩ := id
  obtain ⟨j⟩ := id'
  simp only [dict, modifyDict, Array.getD_eq_getD_getElem?, Array.getElem?_modify,
    DictId.mk.injEq]
  by_cases hij : j = i
  · subst hij; simp [Array.getElem?_eq_getElem hid]
  · simp [hij, Ne.symm hij]

theorem set_modifySet {h : Heap} {id : SetId} (hid : id.index < h.sets.size)
    (f : ItemTable → ItemTable) (id' : SetId) :
    (h.modifySet id f).set id' = if id' = id then f (h.set id) else h.set id' := by
  obtain ⟨i⟩ := id
  obtain ⟨j⟩ := id'
  simp only [set, modifySet, Array.getD_eq_getD_getElem?, Array.getElem?_modify,
    SetId.mk.injEq]
  by_cases hij : j = i
  · subst hij; simp [Array.getElem?_eq_getElem hid]
  · simp [hij, Ne.symm hij]

@[simp] theorem list_newList_self (h : Heap) (items : Array Value) :
    (h.newList items).2.list (h.newList items).1 = items := by
  simp [newList, list]

@[simp] theorem dict_newDict_self (h : Heap) (entries : EntryTable) :
    (h.newDict entries).2.dict (h.newDict entries).1 = entries := by
  simp [newDict, dict]

@[simp] theorem set_newSet_self (h : Heap) (items : ItemTable) :
    (h.newSet items).2.set (h.newSet items).1 = items := by
  simp [newSet, set]

end Heap

namespace Value

/-- **Whether the value counts as true** in a condition: numbers that are not
zero, texts and containers that are not empty, and everything else but
`None`. -/
def isTruthy (h : Heap) : Value → Bool
  | none => false
  | bool b => b
  | int n => n != 0
  | str s => !s.isEmpty
  | list id => !(h.list id).isEmpty
  | tuple items => !items.isEmpty
  | dict id => !(h.dict id).isEmpty
  | set id => !(h.set id).isEmpty
  | _ => true

end Value

end MeteredScript
