import MeteredScript.Proofs.Augmented.Combination
import MeteredScript.Proofs.Representation.Heap

/-!
# The set operators

The four operators on sets filter and merge tables, each in its own way. They
come to one description: which items of the left set are kept and which of the
right set are taken depends on nothing but whether the other set has them too
(`SetOperator.build`). The items that are kept come first, in their order, and
then those that are taken, in theirs. An item that both sets have is never
taken, so the object that stays is the one of the left set.

An item is in the result as the truth table of the operator says
(`SetOperator.contains_build`).
-/

namespace MeteredScript

variable {α : Type}

namespace Table

variable {t t' : Table α}

theorem contains_insertNew (t : Table α) (k k' : HashKey) (a : α) :
    (t.insertNew k a).contains k' = (k' == k || t.contains k') := by
  rw [contains, find?_insertNew]
  by_cases same : k' = k
  · simp [same]
  · simp [same, contains]

/-- Entries put behind a table under keys that it lacks. -/
theorem entries_foldl_insertNew {l : List (HashKey × α)} (nodup : (l.map Prod.fst).Nodup)
    (t : Table α) : (l.foldl (fun t e => t.insertNew e.1 e.2) t).entries =
      t.entries ++ l.filter fun e => !t.contains e.1 := by
  induction l generalizing t with
  | nil => simp
  | cons e l ih =>
    rw [List.map_cons, List.nodup_cons] at nodup
    rw [List.foldl_cons, ih nodup.2]
    -- no later entry has the key of the first, so the test of later ones stays the same
    have later : (l.filter fun e' => !(t.insertNew e.1 e.2).contains e'.1) =
        l.filter fun e' => !t.contains e'.1 := by
      refine List.filter_congr fun e' member => ?_
      have other : e'.1 ≠ e.1 := fun same => nodup.1 (same ▸ List.mem_map_of_mem member)
      simp [contains_insertNew, other]
    rw [later, insertNew]
    by_cases known : t.contains e.1 = true
    · simp [known]
    · simp [known]

theorem entries_union (nodup : t'.keys.Nodup) :
    (t.union t').entries = t.entries ++ t'.entries.filter fun e => !t.contains e.1 :=
  entries_foldl_insertNew nodup t

theorem entries_symmDiff (nodup : t'.keys.Nodup) :
    (t.symmDiff t').entries = (t.entries.filter fun e => !t'.contains e.1) ++
      t'.entries.filter fun e => !t.contains e.1 := by
  have distinct : (t'.diff t).keys.Nodup := nodup_filterKeys nodup _
  rw [symmDiff, entries_union distinct]
  refine congrArg (_ ++ ·) ?_
  show ((t'.entries.filter _).filter _) = _
  rw [List.filter_filter]
  refine List.filter_congr fun e _ => ?_
  -- what the first table lacks, its difference lacks as well
  cases known : t.contains e.1 with
  | true => simp [known]
  | false =>
    have absent : (t.diff t').contains e.1 = false := by
      rw [← Bool.not_eq_true, contains_iff] at known ⊢
      exact fun member => known ((List.filter_sublist.map Prod.fst).subset member)
    simp [known, absent]

/-- The keys of filtered entries. -/
theorem mem_keys_filter (keep : HashKey → Bool) {k : HashKey} :
    k ∈ (t.entries.filter fun e => keep e.1).map Prod.fst ↔ k ∈ t.keys ∧ keep k = true := by
  simp only [keys, List.mem_map, List.mem_filter]
  constructor
  · rintro ⟨e, ⟨member, kept⟩, rfl⟩
    exact ⟨⟨e, member, rfl⟩, kept⟩
  · rintro ⟨⟨e, member, rfl⟩, kept⟩
    exact ⟨e, ⟨member, kept⟩, rfl⟩

end Table

/-- **The operators on sets.** -/
inductive SetOperator where
  | union
  | inter
  | diff
  | symmDiff
  deriving DecidableEq, Repr

namespace SetOperator

/-- How the operator is written. -/
def operator : SetOperator → BinaryOp
  | union => .bitOr
  | inter => .bitAnd
  | diff => .sub
  | symmDiff => .bitXor

/-- **Whether an item is in the result**, given whether it is in the left and in
the right set: in either, in both, in the left only, in exactly one. -/
def admits : SetOperator → (left right : Bool) → Bool
  | union, left, right => left || right
  | inter, left, right => left && right
  | diff, left, right => left && !right
  | symmDiff, left, right => left != right

/-- Whether an item of the left set is kept, given whether the right set has it
too. -/
def keeps (op : SetOperator) (right : Bool) : Bool := op.admits true right

/-- Whether an item of the right set is taken, given whether the left set has it
too. -/
def takes (op : SetOperator) (left : Bool) : Bool := !left && op.admits false true

/-- **What the operator builds**: the items of the left set that are kept, then
those of the right set that are taken. -/
def build (op : SetOperator) (a b : Table α) : Table α :=
  ⟨(a.entries.filter fun e => op.keeps (b.contains e.1)) ++
    b.entries.filter fun e => op.takes (a.contains e.1)⟩

/-- **The four ways to combine tables come to one.** -/
theorem onSets?_operator (op : SetOperator) {a b : ItemTable} (nodup : b.keys.Nodup) :
    op.operator.onSets? a b = some (op.build a b) := by
  have built {t : ItemTable} (entries : t.entries = (op.build a b).entries) :
      some t = some (op.build a b) := congrArg (fun l => some (Table.mk l)) entries
  cases op with
  | union => exact built (by simp [Table.entries_union nodup, build, keeps, takes, admits])
  | inter => exact built (by simp [Table.inter, Table.filterKeys, build, keeps, takes, admits])
  | diff => exact built (by simp [Table.diff, Table.filterKeys, build, keeps, takes, admits])
  | symmDiff => exact built (by simp [Table.entries_symmDiff nodup, build, keeps, takes, admits])

theorem contains_build (op : SetOperator) (a b : Table α) (k : HashKey) :
    (op.build a b).contains k = op.admits (a.contains k) (b.contains k) := by
  have listed : (op.build a b).contains k = true ↔
      (a.contains k = true ∧ op.keeps (b.contains k) = true) ∨
        b.contains k = true ∧ op.takes (a.contains k) = true := by
    simp only [Table.contains_iff, build, Table.keys, List.map_append, List.mem_append]
    exact or_congr (Table.mem_keys_filter fun k => op.keeps (b.contains k))
      (Table.mem_keys_filter fun k => op.takes (a.contains k))
  rw [Bool.eq_iff_iff, listed]
  generalize a.contains k = left
  generalize b.contains k = right
  cases op <;> cases left <;> cases right <;> decide

end SetOperator

end MeteredScript
