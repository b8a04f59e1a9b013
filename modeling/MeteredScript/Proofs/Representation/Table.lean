import Mathlib.Data.List.Perm.Subperm
import MeteredScript.Heap.Table

/-!
# Sound tables

A lookup by key finds what it should only if the table is in order: no key
stands twice, and each entry stands under the key that its value has now. A
table in that state is *sound*. What counts as the value of an entry differs:
in a set it is the item, in a dict the first half of the entry, so soundness
is stated for any projection from entries to values.

The two facts that make a sound table a mapping are `find?_eq_some_iff`, by
which the view of a table is the list of its entries, and
`Sound.find?_of_hashKey`, by which any value with the same key leads to the
entry.
-/

namespace MeteredScript

namespace Table

variable {α : Type} {t : Table α} {k : HashKey} {a : α}

theorem mem_keys_of_mem (h : (k, a) ∈ t.entries) : k ∈ t.keys :=
  List.mem_map_of_mem h

theorem mem_keys_iff : k ∈ t.keys ↔ ∃ a, (k, a) ∈ t.entries := by
  simp [keys]

@[simp] theorem length_keys (t : Table α) : t.keys.length = t.size := by
  simp [keys, size]

/-- **Where no key stands twice, a lookup reads the list of entries.** -/
theorem find?_eq_some_iff (nodup : t.keys.Nodup) :
    t.find? k = some a ↔ (k, a) ∈ t.entries := by
  obtain ⟨entries⟩ := t
  unfold find? keys at *
  induction entries with
  | nil => simp
  | cons e rest ih =>
    obtain ⟨key, b⟩ := e
    rw [List.map_cons, List.nodup_cons] at nodup
    by_cases same : k = key
    · subst same
      have absent : (k, a) ∉ rest := fun h => nodup.1 (List.mem_map.2 ⟨_, h, rfl⟩)
      simp only [List.lookup_cons, beq_self_eq_true, List.mem_cons, absent, or_false]
      simp [eq_comm]
    · have differ : (k == key) = false := by simpa using same
      simp only [List.lookup_cons, differ, List.mem_cons, Prod.mk.injEq, same, false_and,
        false_or]
      exact ih nodup.2

/-- Without the key, a lookup finds nothing. -/
theorem find?_eq_none_iff : t.find? k = none ↔ k ∉ t.keys := by
  rw [find?, List.lookup_eq_none_iff, mem_keys_iff]
  constructor
  · rintro none_of ⟨a, member⟩
    simpa using none_of _ member
  · intro absent e member
    have differ : k ≠ e.1 := fun same => absent ⟨e.2, same ▸ member⟩
    simpa using differ

theorem contains_iff : t.contains k = true ↔ k ∈ t.keys := by
  rw [contains, Option.isSome_iff_ne_none, Ne, find?_eq_none_iff, Classical.not_not]

/-- **Counting keys**: two tables have the same keys in some order if they are
of one size and the keys of the first, all different, are keys of the
second. -/
theorem keys_perm_iff {a b : Table α} (nodup : a.keys.Nodup) :
    a.keys.Perm b.keys ↔ a.size = b.size ∧ ∀ k ∈ a.keys, b.contains k = true := by
  simp only [contains_iff]
  constructor
  · intro perm
    exact ⟨by simpa using perm.length_eq, fun k => perm.mem_iff.1⟩
  · rintro ⟨size, subset⟩
    refine (List.subperm_of_subset nodup subset).perm_of_length_le (Nat.le_of_eq ?_)
    rw [length_keys, length_keys, size]

/-! ## Where entries come from

Each operation says of an entry of its result which table it was in before. -/

section Entries

variable {e : HashKey × α}

theorem mem_insert (h : e ∈ (t.insert k a).entries) : e ∈ t.entries ∨ e = (k, a) := by
  unfold insert at h
  split at h
  · obtain ⟨old, stored, rfl⟩ := List.mem_map.1 h
    by_cases same : old.1 = k
    · exact .inr (if_pos same)
    · exact .inl (by rwa [if_neg same])
  · simpa using h

theorem mem_insertNew (h : e ∈ (t.insertNew k a).entries) : e ∈ t.entries ∨ e = (k, a) := by
  unfold insertNew at h
  split at h
  · exact .inl h
  · simpa using h

theorem mem_filterKeys {keep : HashKey → Bool} (h : e ∈ (t.filterKeys keep).entries) :
    e ∈ t.entries :=
  List.mem_of_mem_filter h

theorem mem_erase (h : e ∈ (t.erase k).entries) : e ∈ t.entries := List.mem_of_mem_filter h

/-- A table that entries are added to one by one has them from one of the
two. -/
theorem mem_foldl {β : Type} {step : Table α → β → Table α} {p : β → HashKey × α → Prop}
    (hstep : ∀ t b e, e ∈ (step t b).entries → e ∈ t.entries ∨ p b e) {bs : List β}
    (h : e ∈ (bs.foldl step t).entries) : e ∈ t.entries ∨ ∃ b ∈ bs, p b e := by
  induction bs generalizing t with
  | nil => exact .inl h
  | cons b bs ih =>
    obtain before | ⟨b', member, source⟩ := ih h
    · obtain before | source := hstep t b e before
      · exact .inl before
      · exact .inr ⟨b, List.mem_cons_self, source⟩
    · exact .inr ⟨b', List.mem_cons_of_mem _ member, source⟩

variable {t' : Table α}

theorem mem_union (h : e ∈ (t.union t').entries) : e ∈ t.entries ∨ e ∈ t'.entries := by
  have source := mem_foldl (p := fun b e => e = b) (fun t b e h => mem_insertNew h) h
  simpa using source

theorem mem_merge (h : e ∈ (t.merge t').entries) : e ∈ t.entries ∨ e ∈ t'.entries := by
  have source := mem_foldl (p := fun b e => e = b) (fun t b e h => mem_insert h) h
  simpa using source

theorem mem_inter (h : e ∈ (t.inter t').entries) : e ∈ t.entries := mem_filterKeys h

theorem mem_diff (h : e ∈ (t.diff t').entries) : e ∈ t.entries := mem_filterKeys h

theorem mem_symmDiff (h : e ∈ (t.symmDiff t').entries) : e ∈ t.entries ∨ e ∈ t'.entries :=
  (mem_union h).imp mem_diff mem_diff

end Entries

/-! ## Distinct keys -/

theorem keys_insert_of_contains (h : t.contains k = true) : (t.insert k a).keys = t.keys := by
  rw [insert, if_pos h, keys, List.map_map, keys]
  refine List.map_congr_left fun e _ => ?_
  by_cases same : e.1 = k <;> simp [same]

theorem nodup_append_of_not_contains (nodup : t.keys.Nodup) (h : ¬ t.contains k = true) :
    (Table.mk (t.entries ++ [(k, a)])).keys.Nodup := by
  have absent : k ∉ t.keys := fun member => h (contains_iff.2 member)
  rw [keys, List.map_append, List.nodup_append]
  refine ⟨nodup, by simp, fun k' member _ single => ?_⟩
  rw [List.map_cons, List.map_nil, List.mem_singleton] at single
  rintro rfl
  subst single
  exact absent member

theorem nodup_insert (nodup : t.keys.Nodup) : (t.insert k a).keys.Nodup := by
  by_cases h : t.contains k = true
  · rw [keys_insert_of_contains h]
    exact nodup
  · rw [insert, if_neg h]
    exact nodup_append_of_not_contains nodup h

theorem nodup_insertNew (nodup : t.keys.Nodup) : (t.insertNew k a).keys.Nodup := by
  rw [insertNew]
  split
  · exact nodup
  · exact nodup_append_of_not_contains nodup ‹_›

theorem nodup_filterKeys (nodup : t.keys.Nodup) (keep : HashKey → Bool) :
    (t.filterKeys keep).keys.Nodup :=
  nodup.sublist (List.filter_sublist.map Prod.fst)

theorem nodup_erase (nodup : t.keys.Nodup) : (t.erase k).keys.Nodup :=
  nodup.sublist (List.filter_sublist.map Prod.fst)

theorem nodup_foldl {β : Type} {step : Table α → β → Table α}
    (hstep : ∀ t b, t.keys.Nodup → (step t b).keys.Nodup) (bs : List β) (nodup : t.keys.Nodup) :
    (bs.foldl step t).keys.Nodup :=
  List.foldlRecOn bs step nodup fun t h b _ => hstep t b h

theorem nodup_union (nodup : t.keys.Nodup) (t' : Table α) : (t.union t').keys.Nodup :=
  nodup_foldl (fun _ _ => nodup_insertNew) t'.entries nodup

theorem nodup_merge (nodup : t.keys.Nodup) (t' : Table α) : (t.merge t').keys.Nodup :=
  nodup_foldl (fun _ _ => nodup_insert) t'.entries nodup

/-! ## Soundness -/

/-- **A table in order**: no key stands twice, and each entry stands under the
key of the value it is found by. -/
structure Sound (value : α → Value) (t : Table α) : Prop where
  /-- No key stands twice. -/
  nodup : t.keys.Nodup
  /-- Each entry stands under its value's key. -/
  keyed : ∀ e ∈ t.entries, (value e.2).hashKey = .ok e.1

namespace Sound

variable {value : α → Value} {t' : Table α}

theorem empty : (Table.empty : Table α).Sound value :=
  ⟨List.nodup_nil, fun _ h => absurd h List.not_mem_nil⟩

/-- **Every value with an entry's key leads to that entry.** -/
theorem find?_of_hashKey (sound : t.Sound value) {a : α} (stored : a ∈ t.values) {v : Value}
    (same : v.hashKey = (value a).hashKey) : ∃ k, v.hashKey = .ok k ∧ t.find? k = some a := by
  obtain ⟨⟨k, b⟩, member, rfl⟩ := List.mem_map.1 stored
  exact ⟨k, same.trans (sound.keyed _ member), (find?_eq_some_iff sound.nodup).2 member⟩

theorem insert (sound : t.Sound value) (key : (value a).hashKey = .ok k) :
    (t.insert k a).Sound value where
  nodup := nodup_insert sound.nodup
  keyed e h := by
    obtain old | rfl := mem_insert h
    · exact sound.keyed e old
    · exact key

theorem insertNew (sound : t.Sound value) (key : (value a).hashKey = .ok k) :
    (t.insertNew k a).Sound value where
  nodup := nodup_insertNew sound.nodup
  keyed e h := by
    obtain old | rfl := mem_insertNew h
    · exact sound.keyed e old
    · exact key

theorem erase (sound : t.Sound value) : (t.erase k).Sound value :=
  ⟨nodup_erase sound.nodup, fun e h => sound.keyed e (mem_erase h)⟩

theorem filterKeys (sound : t.Sound value) (keep : HashKey → Bool) :
    (t.filterKeys keep).Sound value :=
  ⟨nodup_filterKeys sound.nodup keep, fun e h => sound.keyed e (mem_filterKeys h)⟩

theorem union (sound : t.Sound value) (sound' : t'.Sound value) : (t.union t').Sound value :=
  ⟨nodup_union sound.nodup t', fun e h => (mem_union h).elim (sound.keyed e) (sound'.keyed e)⟩

theorem merge (sound : t.Sound value) (sound' : t'.Sound value) : (t.merge t').Sound value :=
  ⟨nodup_merge sound.nodup t', fun e h => (mem_merge h).elim (sound.keyed e) (sound'.keyed e)⟩

theorem inter (sound : t.Sound value) (t' : Table α) : (t.inter t').Sound value :=
  sound.filterKeys _

theorem diff (sound : t.Sound value) (t' : Table α) : (t.diff t').Sound value :=
  sound.filterKeys _

theorem symmDiff (sound : t.Sound value) (sound' : t'.Sound value) :
    (t.symmDiff t').Sound value :=
  (sound.diff t').union (sound'.diff t)

end Sound

end Table

/-! ## Contents of dicts and sets -/

/-- A dict with each entry under the key of its first half. -/
abbrev EntryTable.Sound (t : EntryTable) : Prop := Table.Sound Prod.fst t

/-- A set with each item under its key. -/
abbrev ItemTable.Sound (t : ItemTable) : Prop := Table.Sound (fun item => item) t

/-- An entry of a dict that was written to is an old one, a new one, or an old
one with a new second half. -/
theorem EntryTable.mem_put {t : EntryTable} {k : HashKey} {key value : Value}
    {e : HashKey × Value × Value} (h : e ∈ (EntryTable.put t k key value).entries) :
    e ∈ t.entries ∨ e = (k, key, value) ∨
      ∃ old, t.find? k = some old ∧ e = (k, old.1, value) := by
  unfold EntryTable.put at h
  cases found : t.find? k with
  | some old =>
    rw [found] at h
    exact (Table.mem_insert h).imp id fun new => .inr ⟨old, rfl, new⟩
  | none =>
    rw [found] at h
    exact (Table.mem_insert h).imp id .inl

theorem EntryTable.Sound.put {t : EntryTable} (sound : t.Sound) {k : HashKey} {key : Value}
    (hkey : key.hashKey = .ok k) (value : Value) : (EntryTable.put t k key value).Sound := by
  unfold EntryTable.put
  split
  · rename_i first second found
    exact Table.Sound.insert sound
      (sound.keyed (k, first, second) ((Table.find?_eq_some_iff sound.nodup).1 found))
  · exact Table.Sound.insert sound hkey

/-- What holds of a table and of each table made from it by one item holds of
the table made from all items. -/
theorem foldlM_induction {α β ε : Type} {step : β → α → Except ε β} {motive : β → Prop}
    {items : List α}
    (hstep : ∀ t, motive t → ∀ x ∈ items, ∀ t', step t x = .ok t' → motive t')
    {t t' : β} (start : motive t) (h : items.foldlM step t = .ok t') : motive t' := by
  induction items generalizing t with
  | nil =>
    rw [List.foldlM_nil] at h
    cases h
    exact start
  | cons x items ih =>
    rw [List.foldlM_cons] at h
    cases first : step t x with
    | error why => simp [first, bind, Except.bind] at h
    | ok t₁ =>
      rw [first] at h
      exact ih (fun t ht y member => hstep t ht y (List.mem_cons_of_mem _ member))
        (hstep t start x List.mem_cons_self t₁ first) h

/-- **Displays of sets** are sound, and hold some of the items they were
given. -/
theorem ItemTable.sound_ofItems {items : List Value} {t : ItemTable}
    (h : ItemTable.ofItems items = .ok t) : t.Sound ∧ ∀ e ∈ t.entries, e.2 ∈ items := by
  refine foldlM_induction
    (motive := fun t : ItemTable => t.Sound ∧ ∀ e ∈ t.entries, e.2 ∈ items) ?_
    ⟨Table.Sound.empty, nofun⟩ h
  rintro t ⟨sound, old⟩ x member t' made
  cases found : x.hashKey with
  | error why => simp [found, bind, Except.bind] at made
  | ok key =>
    simp only [found, bind, Except.bind, pure, Except.pure, Except.ok.injEq] at made
    subst made
    refine ⟨Table.Sound.insertNew sound found, fun e h => ?_⟩
    obtain before | rfl := Table.mem_insertNew h
    · exact old e before
    · exact member

/-- **Displays of dicts** are sound, and hold keys and values that they were
given. -/
theorem EntryTable.sound_ofEntries {entries : List (Value × Value)} {t : EntryTable}
    (h : EntryTable.ofEntries entries = .ok t) :
    t.Sound ∧ ∀ e ∈ t.entries, e.2.1 ∈ entries.map Prod.fst ∧ e.2.2 ∈ entries.map Prod.snd := by
  refine foldlM_induction
    (motive := fun t : EntryTable => t.Sound ∧ ∀ e ∈ t.entries,
      e.2.1 ∈ entries.map Prod.fst ∧ e.2.2 ∈ entries.map Prod.snd) ?_
    ⟨Table.Sound.empty, nofun⟩ h
  rintro t ⟨sound, old⟩ ⟨key, value⟩ member t' made
  cases found : key.hashKey with
  | error why => simp [found, bind, Except.bind] at made
  | ok hashKey =>
    simp only [found, bind, Except.bind, pure, Except.pure, Except.ok.injEq] at made
    subst made
    have given : value ∈ entries.map Prod.snd := List.mem_map_of_mem (f := Prod.snd) member
    refine ⟨sound.put found value, fun e h => ?_⟩
    obtain before | rfl | ⟨first, before, rfl⟩ := EntryTable.mem_put h
    · exact old e before
    · exact ⟨List.mem_map_of_mem (f := Prod.fst) member, given⟩
    · have stored := (Table.find?_eq_some_iff sound.nodup).1 before
      exact ⟨(old _ stored).1, given⟩

end MeteredScript
