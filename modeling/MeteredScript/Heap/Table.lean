import MeteredScript.Value.Key

/-!
# Tables

Dicts and sets remember the order in which their entries first came. A
*table* is that common structure: entries in order, each under a key. An
entry that is replaced keeps its place, and a new one goes to the end.

The view of a table is `find?`, and each operation has one equation on it.
-/

namespace MeteredScript

/-- **Entries under keys, in order of insertion.** -/
structure Table (α : Type) where
  /-- The entries with their keys. -/
  entries : List (HashKey × α)
  deriving Repr

namespace Table

variable {α : Type}

/-- The table without entries. -/
def empty : Table α := ⟨[]⟩

instance : Inhabited (Table α) := ⟨empty⟩

/-- The entry under a key. -/
def find? (t : Table α) (k : HashKey) : Option α := t.entries.lookup k

/-- Whether there is an entry under a key. -/
def contains (t : Table α) (k : HashKey) : Bool := (t.find? k).isSome

/-- The keys, in order. -/
def keys (t : Table α) : List HashKey := t.entries.map Prod.fst

/-- The entries without their keys, in order. -/
def values (t : Table α) : List α := t.entries.map Prod.snd

/-- How many entries there are. -/
def size (t : Table α) : Nat := t.entries.length

/-- Whether there are no entries. -/
def isEmpty (t : Table α) : Bool := t.entries.isEmpty

/-- Put an entry under a key: in the place of the one that is there, or at the
end. -/
def insert (t : Table α) (k : HashKey) (a : α) : Table α :=
  if t.contains k then ⟨t.entries.map fun e => if e.1 = k then (k, a) else e⟩
  else ⟨t.entries ++ [(k, a)]⟩

/-- Put an entry at the end unless there is one under its key. -/
def insertNew (t : Table α) (k : HashKey) (a : α) : Table α :=
  if t.contains k then t else ⟨t.entries ++ [(k, a)]⟩

/-- Take out the entry under a key; the others keep their order. -/
def erase (t : Table α) (k : HashKey) : Table α := ⟨t.entries.filter fun e => e.1 ≠ k⟩

/-- Keep the entries whose keys pass a test. -/
def filterKeys (t : Table α) (keep : HashKey → Bool) : Table α :=
  ⟨t.entries.filter fun e => keep e.1⟩

/-! ## Combinations of two tables

Entries of the first table come first, in its order, and an entry under a key
of both is the first table's. -/

/-- All entries of the first, then those of the second under new keys. -/
def union (a b : Table α) : Table α :=
  b.entries.foldl (fun t e => t.insertNew e.1 e.2) a

/-- The entries of the first under keys of both. -/
def inter (a b : Table α) : Table α := a.filterKeys b.contains

/-- The entries of the first under keys that the second lacks. -/
def diff (a b : Table α) : Table α := a.filterKeys fun k => !b.contains k

/-- The entries under keys of exactly one of the two. -/
def symmDiff (a b : Table α) : Table α := (a.diff b).union (b.diff a)

/-- All entries of the first, each replaced in its place by the entry of the
second under the same key, then the rest of the second. -/
def merge (a b : Table α) : Table α :=
  b.entries.foldl (fun t e => t.insert e.1 e.2) a

/-! ## Equations on the view -/

@[simp] theorem find?_empty (k : HashKey) : (empty : Table α).find? k = none := rfl

theorem lookup_append_of_none {l r : List (HashKey × α)} {k : HashKey}
    (h : l.lookup k = none) : (l ++ r).lookup k = r.lookup k := by
  induction l with
  | nil => rfl
  | cons e l ih =>
    obtain ⟨k', a⟩ := e
    by_cases hk : k = k'
    · simp [hk] at h
    · have hb : (k == k') = false := by simpa using hk
      simp only [List.lookup_cons, hb] at h
      simp only [List.cons_append, List.lookup_cons, hb]
      exact ih h

theorem lookup_append_of_some {l r : List (HashKey × α)} {k : HashKey} {a : α}
    (h : l.lookup k = some a) : (l ++ r).lookup k = some a := by
  induction l with
  | nil => simp at h
  | cons e l ih =>
    obtain ⟨k', a'⟩ := e
    by_cases hk : k = k'
    · simpa [List.lookup_cons, hk] using h
    · have hb : (k == k') = false := by simpa using hk
      simp only [List.lookup_cons, hb] at h
      simp only [List.cons_append, List.lookup_cons, hb]
      exact ih h

theorem lookup_map_replace (l : List (HashKey × α)) (k k' : HashKey) (a : α) :
    (l.map fun e => if e.1 = k then (k, a) else e).lookup k' =
      if k' = k then (l.lookup k).map fun _ => a else l.lookup k' := by
  induction l with
  | nil => simp
  | cons e l ih =>
    obtain ⟨x, b⟩ := e
    by_cases hx : x = k <;> by_cases hk : k' = x <;> by_cases hk' : k' = k <;>
      simp_all [List.lookup_cons] <;> grind

theorem find?_insert (t : Table α) (k k' : HashKey) (a : α) :
    (t.insert k a).find? k' = if k' = k then some a else t.find? k' := by
  unfold insert contains find?
  cases h : t.entries.lookup k with
  | some b => simp [lookup_map_replace, h]
  | none =>
    by_cases hk : k' = k
    · subst hk; simp [lookup_append_of_none h]
    · cases h' : t.entries.lookup k' with
      | none =>
        have hb : (k' == k) = false := by simpa using hk
        simp [lookup_append_of_none h', List.lookup_cons, hk, hb]
      | some b => simp [lookup_append_of_some h', hk]

theorem find?_insertNew (t : Table α) (k k' : HashKey) (a : α) :
    (t.insertNew k a).find? k' =
      if k' = k then some ((t.find? k).getD a) else t.find? k' := by
  unfold insertNew contains find?
  cases h : t.entries.lookup k with
  | some b => by_cases hk : k' = k <;> simp [hk, h]
  | none =>
    by_cases hk : k' = k
    · subst hk; simp [lookup_append_of_none h]
    · cases h' : t.entries.lookup k' with
      | none =>
        have hb : (k' == k) = false := by simpa using hk
        simp [lookup_append_of_none h', List.lookup_cons, hk, hb]
      | some b => simp [lookup_append_of_some h', hk]

end Table

/-- **The contents of a set**: its items, under their keys. -/
abbrev ItemTable := Table Value

/-- **The contents of a dict**: keys as they were first given and the values
they lead to. -/
abbrev EntryTable := Table (Value × Value)

/-- Put a value under a key. A key that is there already stays as it was
given first. -/
def EntryTable.put (t : EntryTable) (k : HashKey) (key value : Value) : EntryTable :=
  match t.find? k with
  | some (first, _) => t.insert k (first, value)
  | none => t.insert k (key, value)

/-- The table of a set display: of items with equal keys the first is
kept. -/
def ItemTable.ofItems (items : List Value) : Except TypeFault ItemTable :=
  items.foldlM (fun t item => return t.insertNew (← item.hashKey) item) Table.empty

/-- The table of a dict display: of entries with equal keys the first key and
the last value are kept. -/
def EntryTable.ofEntries (entries : List (Value × Value)) : Except TypeFault EntryTable :=
  entries.foldlM (fun t (key, value) => return EntryTable.put t (← key.hashKey) key value)
    Table.empty

end MeteredScript
