import MeteredScript.Evaluation.Method
import MeteredScript.Proofs.Regime.Held
import MeteredScript.Proofs.Representation.Table

/-!
# Sound heaps

A heap is *sound* if all of its dicts and sets are: lookups find what they
should in every one of them. `Heap.Upheld` adds that the class objects in
containers have their namespaces among given scopes, which is the other thing
that writing to containers has to respect.

There is one lemma for each way in which evaluation changes the heap. A list
may be given any items and a dict or set any sound table, so the work is in
what operations make of tables: `EntryTable.Sound.put`,
`EntryTable.Sound.update` and `ItemTable.Sound.onSets?`.
-/

namespace MeteredScript

/-! ## Combined tables -/

/-- The set operators keep the order of tables. -/
theorem ItemTable.Sound.onSets? {op : BinaryOp} {a b t : ItemTable} (left : a.Sound)
    (right : b.Sound) (h : op.onSets? a b = some t) : t.Sound := by
  cases op <;> simp only [BinaryOp.onSets?, Option.some.injEq, reduceCtorEq] at h <;> subst h
  · exact left.diff b
  · exact left.union right
  · exact left.inter b
  · exact left.symmDiff right

/-- What the set operators build has its items from the operands. -/
theorem ItemTable.mem_onSets? {op : BinaryOp} {a b t : ItemTable} (h : op.onSets? a b = some t)
    {e : HashKey × Value} (member : e ∈ t.entries) : e ∈ a.entries ∨ e ∈ b.entries := by
  cases op <;> simp only [BinaryOp.onSets?, Option.some.injEq, reduceCtorEq] at h <;> subst h
  · exact .inl (Table.mem_diff member)
  · exact Table.mem_union member
  · exact .inl (Table.mem_inter member)
  · exact Table.mem_symmDiff member

/-- Writing all entries of one dict to another. -/
theorem EntryTable.Sound.update {t other : EntryTable} (sound : t.Sound) (sound' : other.Sound) :
    (t.update other).Sound :=
  List.foldlRecOn other.entries _ sound fun _ h e member => h.put (sound'.keyed e member) e.2.2

/-- The dict written to then has keys and values of both. -/
theorem EntryTable.mem_update {p : Value → Prop} {t other : EntryTable} (sound : t.Sound)
    (sound' : other.Sound) (old : ∀ e ∈ t.entries, p e.2.1 ∧ p e.2.2)
    (new : ∀ e ∈ other.entries, p e.2.1 ∧ p e.2.2) :
    ∀ e ∈ (t.update other).entries, p e.2.1 ∧ p e.2.2 := by
  refine (List.foldlRecOn (motive := fun t : EntryTable => t.Sound ∧
    ∀ e ∈ t.entries, p e.2.1 ∧ p e.2.2) other.entries _ ⟨sound, old⟩ ?_).2
  rintro t ⟨sound, old⟩ e member
  refine ⟨sound.put (sound'.keyed e member) e.2.2, fun e' h => ?_⟩
  obtain before | rfl | ⟨first, before, rfl⟩ := EntryTable.mem_put h
  · exact old e' before
  · exact new e member
  · have stored := (Table.find?_eq_some_iff sound.nodup).1 before
    exact ⟨(old _ stored).1, (new e member).2⟩

/-! ## Heaps -/

/-- **A heap in which every lookup finds what it should.** -/
structure Heap.Sound (h : Heap) : Prop where
  /-- Every dict is sound. -/
  dict (id : DictId) : (h.dict id).Sound
  /-- Every set is sound. -/
  set (id : SetId) : (h.set id).Sound

instance : Holder Heap where
  Names h t := (∃ id, Holder.Names (h.list id) t) ∨ (∃ id, Holder.Names (h.dict id) t) ∨
    ∃ id, Holder.Names (h.set id) t

theorem within_heap {S : ScopeId → Prop} {h : Heap} :
    Within S h ↔ (∀ id, Within S (h.list id)) ∧ (∀ id, Within S (h.dict id)) ∧
      ∀ id, Within S (h.set id) := by
  constructor
  · intro within
    exact ⟨fun id t names => within t (.inl ⟨id, names⟩),
      fun id t names => within t (.inr (.inl ⟨id, names⟩)),
      fun id t names => within t (.inr (.inr ⟨id, names⟩))⟩
  · rintro ⟨lists, dicts, sets⟩ t (⟨id, names⟩ | ⟨id, names⟩ | ⟨id, names⟩)
    · exact lists id t names
    · exact dicts id t names
    · exact sets id t names

/-- A new dict or set is sound. -/
def Fresh.Sound : Fresh → Prop
  | .dict entries => entries.Sound
  | .set items => items.Sound
  | .value _ | .list _ => True

/-- A place of a dict comes with the key's key. -/
def Place.Keyed : Place → Prop
  | .dictEntry _ hashKey key => key.hashKey = .ok hashKey
  | .listItem _ _ => True

theorem storePlace_keyed {h : Heap} {container key : Value} {place : Place}
    (found : storePlace h container key = .ok place) :
    place.Keyed ∧ ∀ {S : ScopeId → Prop}, Within S key → Within S place := by
  cases container with
  | list id =>
    simp only [storePlace] at found
    cases position : positionOf (.list id) key (h.list id).size "list assignment" with
    | error f => simp [position] at found
    | ok i =>
      rw [position] at found
      cases found
      exact ⟨trivial, fun _ => by simp⟩
  | dict id =>
    simp only [storePlace] at found
    cases hashed : key.hashKey with
    | error why => simp [hashed] at found
    | ok hashKey =>
      simp only [hashed, Except.ok.injEq] at found
      subst found
      exact ⟨hashed, within_dictEntry.2⟩
  | _ => simp [storePlace] at found

/-- What reading an array gives after one of its items was changed. -/
theorem getD_modify {α : Type} (xs : Array α) (i j : Nat) (f : α → α) (d : α) :
    (xs.modify i f).getD j d = xs.getD j d ∨
      j = i ∧ (xs.modify i f).getD j d = f (xs.getD i d) := by
  simp only [Array.getD_eq_getD_getElem?, Array.getElem?_modify]
  by_cases same : i = j
  · subst same
    cases xs[i]? <;> simp
  · simp [same]

/-- What reading an array gives after an item was added. -/
theorem getD_push {α : Type} (xs : Array α) (x : α) (i : Nat) (d : α) :
    (xs.push x).getD i d = xs.getD i d ∨ (xs.push x).getD i d = x := by
  simp only [Array.getD_eq_getD_getElem?, Array.getElem?_push]
  split
  · exact .inr rfl
  · exact .inl rfl

namespace Heap

/-- **What evaluation upholds of the heap.** -/
structure Upheld (S : ScopeId → Prop) (h : Heap) : Prop where
  /-- Dicts and sets are sound. -/
  sound : h.Sound
  /-- Class objects have their namespaces among some scopes. -/
  within : Within S h

variable {S : ScopeId → Prop} {h : Heap}

namespace Upheld

variable (upheld : h.Upheld S)

include upheld

theorem list (id : ListId) : Within S (h.list id) := (within_heap.1 upheld.within).1 id

theorem dict (id : DictId) : Within S (h.dict id) := (within_heap.1 upheld.within).2.1 id

theorem set (id : SetId) : Within S (h.set id) := (within_heap.1 upheld.within).2.2 id

/-! ### Writing -/

theorem modifyList {id : ListId} {f : Array Value → Array Value}
    (hf : Within S (f (h.list id))) : (h.modifyList id f).Upheld S where
  sound := ⟨upheld.sound.dict, upheld.sound.set⟩
  within := by
    refine within_heap.2 ⟨fun id' => ?_, upheld.dict, upheld.set⟩
    obtain same | ⟨-, changed⟩ := getD_modify h.lists id.index id'.index f #[]
    · exact (congrArg (Within S) same).mpr (upheld.list id')
    · exact (congrArg (Within S) changed).mpr hf

theorem modifyDict {id : DictId} {f : EntryTable → EntryTable} (sound : (f (h.dict id)).Sound)
    (within : Within S (f (h.dict id))) : (h.modifyDict id f).Upheld S where
  sound := by
    refine ⟨fun id' => ?_, upheld.sound.set⟩
    obtain same | ⟨-, changed⟩ := getD_modify h.dicts id.index id'.index f .empty
    · exact (congrArg EntryTable.Sound same).mpr (upheld.sound.dict id')
    · exact (congrArg EntryTable.Sound changed).mpr sound
  within := by
    refine within_heap.2 ⟨upheld.list, fun id' => ?_, upheld.set⟩
    obtain same | ⟨-, changed⟩ := getD_modify h.dicts id.index id'.index f .empty
    · exact (congrArg (Within S) same).mpr (upheld.dict id')
    · exact (congrArg (Within S) changed).mpr within

theorem modifySet {id : SetId} {f : ItemTable → ItemTable} (sound : (f (h.set id)).Sound)
    (within : Within S (f (h.set id))) : (h.modifySet id f).Upheld S where
  sound := by
    refine ⟨upheld.sound.dict, fun id' => ?_⟩
    obtain same | ⟨-, changed⟩ := getD_modify h.sets id.index id'.index f .empty
    · exact (congrArg ItemTable.Sound same).mpr (upheld.sound.set id')
    · exact (congrArg ItemTable.Sound changed).mpr sound
  within := by
    refine within_heap.2 ⟨upheld.list, upheld.dict, fun id' => ?_⟩
    obtain same | ⟨-, changed⟩ := getD_modify h.sets id.index id'.index f .empty
    · exact (congrArg (Within S) same).mpr (upheld.set id')
    · exact (congrArg (Within S) changed).mpr within

/-- **Storing to a place.** -/
theorem store {place : Place} {v : Value} (keyed : place.Keyed) (hplace : Within S place)
    (hv : Within S v) : (h.store place v).Upheld S := by
  cases place with
  | listItem id position =>
    refine upheld.modifyList (within_array.2 (within_list.2 fun x member => ?_))
    have source := Array.mem_or_eq_of_mem_setIfInBounds (Array.mem_toList_iff.1 member)
    obtain old | rfl := source
    · exact within_list.1 (within_array.1 (upheld.list id)) x (Array.mem_toList_iff.2 old)
    · exact hv
  | dictEntry id hashKey key =>
    refine upheld.modifyDict ((upheld.sound.dict id).put keyed v) (within_table.2 fun e member => ?_)
    have stored := within_table.1 (upheld.dict id)
    obtain old | rfl | ⟨first, old, rfl⟩ := EntryTable.mem_put member
    · exact stored e old
    · exact within_pair.2 ⟨within_dictEntry.1 hplace, hv⟩
    · have found := (Table.find?_eq_some_iff (upheld.sound.dict id).nodup).1 old
      exact within_pair.2 ⟨(stored _ found).fst, hv⟩

/-- **Adding a new object.** -/
theorem place {r : Fresh} (sound : r.Sound) (within : Within S r) :
    Within S (h.place r).1 ∧ (h.place r).2.Upheld S := by
  match r with
  | .value v => exact ⟨within, upheld⟩
  | .list items =>
    refine ⟨within_listId _, ⟨upheld.sound.dict, upheld.sound.set⟩,
      within_heap.2 ⟨fun id => ?_, upheld.dict, upheld.set⟩⟩
    obtain old | new := getD_push h.lists items id.index #[]
    · exact (congrArg (Within S) old).mpr (upheld.list id)
    · exact (congrArg (Within S) new).mpr within
  | .dict entries =>
    have read (id : DictId) := getD_push h.dicts entries id.index .empty
    refine ⟨within_dictId _, ⟨fun id => ?_, upheld.sound.set⟩,
      within_heap.2 ⟨upheld.list, fun id => ?_, upheld.set⟩⟩
    · obtain old | new := read id
      · exact (congrArg EntryTable.Sound old).mpr (upheld.sound.dict id)
      · exact (congrArg EntryTable.Sound new).mpr sound
    · obtain old | new := read id
      · exact (congrArg (Within S) old).mpr (upheld.dict id)
      · exact (congrArg (Within S) new).mpr within
  | .set items =>
    have read (id : SetId) := getD_push h.sets items id.index .empty
    refine ⟨within_setId _, ⟨upheld.sound.dict, fun id => ?_⟩,
      within_heap.2 ⟨upheld.list, upheld.dict, fun id => ?_⟩⟩
    · obtain old | new := read id
      · exact (congrArg ItemTable.Sound old).mpr (upheld.sound.set id)
      · exact (congrArg ItemTable.Sound new).mpr sound
    · obtain old | new := read id
      · exact (congrArg (Within S) old).mpr (upheld.set id)
      · exact (congrArg (Within S) new).mpr within

end Upheld

end Heap

end MeteredScript
