import MeteredScript.Proofs.Printing.Built

/-!
# Data are told apart by their printed forms

The printed form of a value that is built from data is the text of a datum, and
from the text the datum can be read back. So two such values, in one heap or in
two, are printed alike only if they are the same as trees.

Values of one heap that are the same as trees are equal if the heap is sound: the
items of a set and the keys of a dict are then found under the keys that their
values have, and these are the same for one datum. `printed_alike` puts it
together.
-/

namespace MeteredScript

/-! ## Equality of what is one datum -/

namespace Datum

variable {h h' : Heap} {v w : Value} {d : Datum}

/-- What is one datum has one key, or none for one reason. -/
theorem hashKey_eq (described : d.Describes h v) (described' : d.Describes h' w) :
    v.hashKey = w.hashKey := by
  induction d using Datum.induct generalizing v w with
  | none | bool b | int n | str s =>
    obtain rfl := described
    obtain rfl := described'
    rfl
  | list | dict | set =>
    obtain ⟨id, rfl, -⟩ := described
    obtain ⟨id', rfl, -⟩ := described'
    rfl
  | tuple ds ih =>
    obtain ⟨xs, rfl, all⟩ := described
    obtain ⟨ys, rfl, all'⟩ := described'
    have keys : Value.hashKeys xs = Value.hashKeys ys := by
      rw [describesAll_iff] at all all'
      induction all generalizing ys with
      | nil => cases all'; rfl
      | cons first _ rest =>
        cases all' with
        | cons first' all' =>
          rw [Value.hashKeys_cons, Value.hashKeys_cons, ih _ List.mem_cons_self first first',
            rest (fun d member => ih d (List.mem_cons_of_mem _ member)) _ all']
    rw [Value.hashKey, Value.hashKey, keys]

/-- Values at the same places of two lists that are the same data. -/
theorem forall₂_of_common {α β γ : Type} {R : α → β → Prop} {R' : α → γ → Prop}
    {T : β → γ → Prop} {as : List α} {bs : List β} {cs : List γ}
    (each : ∀ a ∈ as, ∀ b ∈ bs, ∀ c, R a b → R' a c → T b c) (all : List.Forall₂ R as bs)
    (all' : List.Forall₂ R' as cs) : List.Forall₂ T bs cs := by
  induction all generalizing cs with
  | nil => cases all'; exact .nil
  | cons first _ ih =>
    cases all' with
    | cons first' all' =>
      exact .cons (each _ List.mem_cons_self _ List.mem_cons_self _ first first')
        (ih (fun a ha b hb => each a (List.mem_cons_of_mem _ ha) b (List.mem_cons_of_mem _ hb))
          all')

theorem exists_mem_of_forall₂ {α β : Type} {R : α → β → Prop} {as : List α} {bs : List β}
    (all : List.Forall₂ R as bs) {a : α} (member : a ∈ as) : ∃ b ∈ bs, R a b := by
  obtain ⟨i, bound, rfl⟩ := List.getElem_of_mem member
  exact ⟨_, List.getElem_mem (all.length_eq ▸ bound), all.get bound (all.length_eq ▸ bound)⟩

/-- The values of a sound table have its keys, in its order. -/
theorem map_hashKey {α : Type} {value : α → Value} {t : Table α} (sound : t.Sound value) :
    t.values.map (fun a => (value a).hashKey) = t.keys.map .ok := by
  rw [Table.values, Table.keys, List.map_map, List.map_map]
  exact List.map_congr_left fun e member => sound.keyed e member

/-- Two sound tables whose values have the same keys have the same keys. -/
theorem keys_eq {α : Type} {value : α → Value} {t t' : Table α} (sound : t.Sound value)
    (sound' : t'.Sound value)
    (same : List.Forall₂ (fun a b => (value a).hashKey = (value b).hashKey) t.values t'.values) :
    t.keys = t'.keys := by
  have maps : t.keys.map (.ok : _ → Except TypeFault HashKey) = t'.keys.map .ok := by
    rw [← map_hashKey sound, ← map_hashKey sound', ← List.forall₂_eq_eq_eq,
      List.forall₂_map_left_iff, List.forall₂_map_right_iff]
    exact same
  exact List.map_injective_iff.2 (fun _ _ => Except.ok.inj) maps

/-- What holds at the same places of two sound tables that have the same keys holds of
what is found in them under one key. -/
theorem of_find? {α : Type} {value : α → Value} {R : α → α → Prop} {t t' : Table α}
    (sound : t.Sound value) (sound' : t'.Sound value)
    (pairs : List.Forall₂ (fun a b => (value a).hashKey = (value b).hashKey ∧ R a b)
      t.values t'.values)
    {k : HashKey} {a b : α} (left : t.find? k = some a) (right : t'.find? k = some b) : R a b := by
  rw [Table.values, Table.values, List.forall₂_map_left_iff, List.forall₂_map_right_iff] at pairs
  have stored := (Table.find?_eq_some_iff sound.nodup).1 left
  obtain ⟨⟨k', b'⟩, stored', key, related⟩ := exists_mem_of_forall₂ pairs stored
  have keyed := (sound.keyed _ stored).symm.trans (key.trans (sound'.keyed _ stored'))
  obtain rfl := Except.ok.inj keyed
  have found := (Table.find?_eq_some_iff sound'.nodup).2 stored'
  rw [Option.some.inj (right.symm.trans found)]
  exact related

/-- **What is one datum is equal**, in a sound heap. -/
theorem equal (sound : h.Sound) (regular : h.Regular v) (described : d.Describes h v)
    (described' : d.Describes h w) : h.Equal v w := by
  induction d using Datum.induct generalizing v w with
  | none | bool b | int n | str s =>
    obtain rfl := described
    obtain rfl := described'
    exact Heap.equal_refl h _
  | tuple ds ih =>
    obtain ⟨xs, rfl, all⟩ := described
    obtain ⟨ys, rfl, all'⟩ := described'
    exact Heap.equal_tuple_iff.2 (forall₂_of_common
      (fun d hd x hx y described described' => ih d hd (regular.of_inside hx) described described')
      (describesAll_iff.1 all) (describesAll_iff.1 all'))
  | list ds ih =>
    obtain ⟨a, rfl, all⟩ := described
    obtain ⟨b, rfl, all'⟩ := described'
    exact regular.equal_list_iff.2 (forall₂_of_common
      (fun d hd x hx y described described' => ih d hd (regular.of_inside hx) described described')
      (describesAll_iff.1 all) (describesAll_iff.1 all'))
  | set ds ih =>
    obtain ⟨a, rfl, all⟩ := described
    obtain ⟨b, rfl, all'⟩ := described'
    -- Sets are compared by their keys, and one datum has one key.
    refine regular.equal_set_iff.2 (.of_eq (keys_eq (sound.set a) (sound.set b) ?_))
    rw [describesAll_iff] at all all'
    exact forall₂_of_common (fun d _ x _ y (first : d.Describes h x) (second : d.Describes h y) =>
      hashKey_eq first second) all all'
  | dict es ih =>
    obtain ⟨a, rfl, all⟩ := described
    obtain ⟨b, rfl, all'⟩ := described'
    rw [describesEntries_iff] at all all'
    refine regular.equal_dict_iff.2 ⟨.of_eq (keys_eq (sound.dict a) (sound.dict b) ?_), ?_⟩
    · exact forall₂_of_common (fun e _ x _ y first second => hashKey_eq first.1 second.1) all all'
    · intro k x y left right
      have pairs : List.Forall₂ (fun x y => x.1.hashKey = y.1.hashKey ∧ h.Equal x.2 y.2)
          (h.dict a).values (h.dict b).values := by
        refine forall₂_of_common (fun e he x hx y first second => ?_) all all'
        have inside : h.Inside x.2 (.dict a) := List.mem_flatMap.2 ⟨x, hx, by simp⟩
        exact ⟨hashKey_eq first.1 second.1,
          (ih e he).2 (regular.of_inside inside) first.2 second.2⟩
      exact of_find? (sound.dict a) (sound.dict b) pairs left right

end Datum

/-! ## The whole -/

namespace Heap

variable {h h' : Heap} {v w x : Value}

theorem Inside.shownIn (inside : h.Inside x v) : h.ShownIn x v := by
  cases v with
  | exception => cases inside
  | _ => exact inside

/-- Equality can be decided on a value that is built. -/
theorem Built.regular (built : h.Built v) (sound : h.Sound) : h.Regular v where
  acyclic _ reached circle :=
    not_transGen_self (acc_of_reached built.acc (.mono (fun _ _ => Inside.shownIn) _ _ reached))
      (.mono (fun _ _ => Inside.shownIn) _ _ circle)
  dict id _ := sound.dict id
  set id _ := sound.set id

/-- **Data are printed alike only if they are alike.** Each of two values that are
built from data has a printed form. If these are the same, then the values are
the same tree: of the same sort, with the same leaves, and with the same items
and entries in the same order. If moreover they live in one heap and this is
sound, they are equal. -/
theorem printed_alike (built : h.Built v) (built' : h'.Built w) :
    (h.repr? v).isSome ∧ (h'.repr? w).isSome ∧
      (h.repr? v = h'.repr? w ↔ ∃ d : Datum, d.Describes h v ∧ d.Describes h' w) ∧
      (h' = h → h.Sound → h.repr? v = h'.repr? w → h.Equal v w) := by
  have tree : h.repr? v = h'.repr? w ↔ ∃ d : Datum, d.Describes h v ∧ d.Describes h' w := by
    constructor
    · intro same
      obtain ⟨d, described⟩ := Datum.exists_describes built
      obtain ⟨e, described'⟩ := Datum.exists_describes built'
      rw [built.repr?_eq described, built'.repr?_eq described', Option.some.injEq,
        String.ofList_inj] at same
      obtain rfl := Datum.chars_inj same
      exact ⟨d, described, described'⟩
    · rintro ⟨d, described, described'⟩
      rw [built.repr?_eq described, built'.repr?_eq described']
  refine ⟨built.repr?_isSome, built'.repr?_isSome, tree, ?_⟩
  rintro rfl sound same
  obtain ⟨d, described, described'⟩ := tree.1 same
  exact Datum.equal sound (built.regular sound) described described'

/-- A heap with two lists of a string with both sorts of quotes, a tuple of one
item and an empty set. -/
def twins : Heap :=
  let items := #[.str "it's \"one\", not two", .tuple [.int 1], .set ⟨0⟩]
  ⟨#[items, items], #[], #[.empty]⟩

theorem twins_built {i : Nat} (bound : i < 2) : twins.Built (.list ⟨i⟩) := by
  have items : (twins.list ⟨i⟩).toList =
      [.str "it's \"one\", not two", .tuple [.int 1], .set ⟨0⟩] := by
    obtain rfl | rfl : i = 0 ∨ i = 1 := by omega
    · rfl
    · rfl
  refine .list _ fun x member => ?_
  rw [items] at member
  simp only [List.mem_cons, List.not_mem_nil, or_false] at member
  obtain rfl | rfl | rfl := member
  · exact .str _
  · exact .tuple _ (by simpa using .int 1)
  · exact .set _ (by simp [twins, set, Table.empty, Table.values])

theorem twins_sound : twins.Sound where
  dict id := .empty
  set id := by
    obtain ⟨i⟩ := id
    cases i with
    | zero => exact .empty
    | succ i => exact .empty

/-- Two lists with the same items are printed alike, and they are equal. -/
theorem twins_printed_alike : twins.Equal (.list ⟨0⟩) (.list ⟨1⟩) :=
  (printed_alike (twins_built (by decide)) (twins_built (by decide))).2.2.2 rfl twins_sound
    (by decide)

end Heap

end MeteredScript
