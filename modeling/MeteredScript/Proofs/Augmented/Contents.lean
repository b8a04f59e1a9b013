import MeteredScript.Evaluation.Bounded
import MeteredScript.Proofs.Augmented.Combination
import MeteredScript.Proofs.Representation.Heap

/-!
# In place and afresh

`a op= b` and `a op b` go different ways to what should be the same contents.
For lists and sets they are the same. For dicts they are the same hash keys in
the same order with the same values, but where both dicts have an entry the
combination in place keeps the key object of the left one (`find?_update`),
and the fresh dict has the one of the right (`find?_merge`). Keys that are
equal without being the same, such as `1` and `True`, show the difference. So
the two ways build the same contents exactly if the dicts agree on the keys
they share (`combined_contents_eq_iff`).
-/

namespace MeteredScript

/-! ## Tables -/

namespace Table

variable {α : Type} {t t' : Table α} {k : HashKey} {a : α}

theorem keys_insert (t : Table α) (k : HashKey) (a : α) :
    (t.insert k a).keys = if t.contains k then t.keys else t.keys ++ [k] := by
  split
  · exact keys_insert_of_contains ‹_›
  · rw [insert, if_neg ‹_›, keys, List.map_append, keys]
    rfl

/-- **A table is known by its keys in order and by what they lead to.** -/
theorem eq_of_find? (nodup : t.keys.Nodup) (keys : t.keys = t'.keys)
    (found : ∀ k, t.find? k = t'.find? k) : t = t' := by
  have listed {t : Table α} (nodup : t.keys.Nodup) :
      t.entries = t.keys.filterMap fun k => (t.find? k).map (k, ·) := by
    rw [Table.keys, List.filterMap_map]
    refine (Eq.trans (List.filterMap_congr fun e member => ?_) (List.filterMap_some)).symm
    have stored : t.find? e.1 = some e.2 := (find?_eq_some_iff nodup).2 member
    rw [Function.comp_apply, stored]
    rfl
  have entries : t.entries = t'.entries := by
    rw [listed nodup, listed (keys ▸ nodup), keys]
    simp only [found]
  obtain ⟨l⟩ := t
  obtain ⟨l'⟩ := t'
  exact congrArg mk entries

theorem find?_cons (e : HashKey × α) (l : List (HashKey × α)) (k : HashKey) :
    (mk (e :: l)).find? k = if k = e.1 then some e.2 else (mk l).find? k := by
  rw [find?, List.lookup_cons]
  by_cases same : k = e.1
  · rw [if_pos same, same, beq_self_eq_true]
  · have differ : (k == e.1) = false := by simpa using same
    rw [if_neg same, differ]
    rfl

/-- In a merged table the entries of the second are found first. -/
theorem find?_merge (nodup : t'.keys.Nodup) :
    (t.merge t').find? k = (t'.find? k).or (t.find? k) := by
  obtain ⟨l⟩ := t'
  unfold merge
  induction l generalizing t with
  | nil => rfl
  | cons e l ih =>
    rw [keys, List.map_cons, List.nodup_cons] at nodup
    rw [List.foldl_cons, ih nodup.2, find?_insert]
    by_cases same : k = e.1
    · have absent : (mk l).find? k = none := find?_eq_none_iff.2 (same ▸ nodup.1)
      rw [absent, find?_cons, if_pos same, if_pos same]
      rfl
    · rw [find?_cons, if_neg same, if_neg same]

end Table

namespace EntryTable

variable {t other : EntryTable} {k : HashKey}

theorem keys_put (t : EntryTable) (k : HashKey) (key value : Value) :
    (t.put k key value).keys = if t.contains k then t.keys else t.keys ++ [k] := by
  rw [put]
  split <;> exact Table.keys_insert ..

theorem find?_put (t : EntryTable) (k : HashKey) (key value : Value) (k' : HashKey) :
    (t.put k key value).find? k' =
      if k' = k then some (((t.find? k).map Prod.fst).getD key, value) else t.find? k' := by
  rw [put]
  split <;> rename_i found <;> rw [Table.find?_insert, found] <;> rfl

/-- **Both ways give a dict the same hash keys in the same order.** -/
theorem keys_update (t other : EntryTable) : (t.update other).keys = (t.merge other).keys := by
  -- the two tables grow together, so the keys are compared from any two tables that agree
  have grown (l : List (HashKey × Value × Value)) : ∀ t t' : EntryTable, t.keys = t'.keys →
      (l.foldl (fun t e => t.put e.1 e.2.1 e.2.2) t).keys =
        (l.foldl (fun t e => t.insert e.1 e.2) t').keys := by
    induction l with
    | nil => exact fun _ _ same => same
    | cons e l ih =>
      intro t t' same
      refine ih _ _ ?_
      have contains : t.contains e.1 = t'.contains e.1 := by
        rw [Bool.eq_iff_iff, Table.contains_iff, Table.contains_iff, same]
      rw [keys_put, Table.keys_insert, contains, same]
  exact grown other.entries t t rfl

/-- **A dict that is updated keeps its key objects** and takes the other's
values. -/
theorem find?_update (nodup : other.keys.Nodup) :
    (t.update other).find? k =
      ((other.find? k).map fun e => (((t.find? k).map Prod.fst).getD e.1, e.2)).or (t.find? k) := by
  obtain ⟨l⟩ := other
  unfold update
  induction l generalizing t with
  | nil => rfl
  | cons e l ih =>
    rw [Table.keys, List.map_cons, List.nodup_cons] at nodup
    rw [List.foldl_cons, ih nodup.2, find?_put]
    by_cases same : k = e.1
    · have absent : (Table.mk l).find? k = none := Table.find?_eq_none_iff.2 (same ▸ nodup.1)
      rw [absent, Table.find?_cons, if_pos same, if_pos same, same]
      rfl
    · rw [Table.find?_cons, if_neg same, if_neg same]

/-- Whether two dicts have the same key objects where they share keys. -/
def SameKeys (t other : EntryTable) : Prop :=
  ∀ k e e', t.find? k = some e → other.find? k = some e' → e.1 = e'.1

/-- **Both ways build the same dict exactly if the operands have the same key
objects where they share keys.** -/
theorem update_eq_merge_iff (nodup : t.keys.Nodup) (nodup' : other.keys.Nodup) :
    t.update other = t.merge other ↔ t.SameKeys other := by
  constructor
  · intro same k e e' mine yours
    have found := congrArg (Table.find? · k) same
    simp only [find?_update nodup', Table.find?_merge nodup', mine, yours] at found
    simpa using congrArg (Option.map Prod.fst) found
  · intro same
    have nodup_update : (t.update other).keys.Nodup :=
      keys_update t other ▸ Table.nodup_merge nodup other
    refine Table.eq_of_find? nodup_update (keys_update t other) fun k => ?_
    rw [find?_update nodup', Table.find?_merge nodup']
    cases mine : t.find? k with
    | none => cases other.find? k <;> rfl
    | some e =>
      cases yours : other.find? k with
      | none => rfl
      | some e' =>
        have key : e.1 = e'.1 := same k e e' mine yours
        simp [key]

/-- A dict has its own keys. -/
theorem sameKeys_self (t : EntryTable) : t.SameKeys t := by
  intro k e e' mine yours
  rw [mine] at yours
  cases yours
  rfl

end EntryTable

/-! ## Values -/

/-- Whether two values have the same key objects where they share keys. Only
dicts have keys. -/
def Heap.SameKeys (h : Heap) : Value → Value → Prop
  | .dict id, .dict other => (h.dict id).SameKeys (h.dict other)
  | _, _ => True

variable {ev : Evaluator} {op : BinaryOp} {a b v : Value} {h : Heap} {c d : Fresh}
  {items : Array Value} {m n n' : Machine}

/-- A value has its own keys, so both ways agree on a container that is combined
with itself. -/
theorem Heap.sameKeys_self (h : Heap) (a : Value) : h.SameKeys a a := by
  cases a with
  | dict id => exact EntryTable.sameKeys_self _
  | _ => trivial

/-- A container is no number, so what it combines to is built. -/
theorem combine?_of_binaryResult (inPlace : a.combinesInPlace op = true)
    (result : binaryResult h op a b = .ok c) : combine? h op a b = some c := by
  have number : a.asInt? = none := by
    cases a <;> first | rfl | cases inPlace
  rw [binaryResult, number] at result
  cases length : repeatLength h op a b with
  | error f => simp [length, bind, Except.bind] at result
  | ok length' =>
    rw [length] at result
    cases built : combine? h op a b with
    | none => simp [built, bind, Except.bind, throw, throwThe, MonadExceptOf.throw] at result
    | some d =>
      simp only [built, bind, Except.bind, pure, Except.pure, Except.ok.injEq] at result
      rw [result]

/-- A list is repeated alike in both ways, -/
theorem combine?_list_mul (h : Heap) (id : ListId) (b : Value) (items : Array Value) :
    combine? h .mul (.list id) b = combined? h .mul (.list id) b items := by
  rw [combine?, product?, combined?]
  cases b.asInt? <;> rfl

/-- and so are two sets combined. -/
theorem combine?_set (h : Heap) (op : BinaryOp) (id other : SetId) (items : Array Value) :
    combine? h op (.set id) (.set other) = combined? h op (.set id) (.set other) items := by
  cases op <;> rfl

/-- What an operator builds of a container is of the same sort. -/
theorem fits_of_combine? (inPlace : a.combinesInPlace op = true)
    (fresh : combine? h op a b = some c) : c.Fits a := by
  match a, op, inPlace with
  | .list id, .add, _ =>
    cases b with
    | list other =>
      cases fresh
      trivial
    | _ => cases fresh
  | .list id, .mul, _ => exact fits_combined (combine?_list_mul h id b #[] ▸ fresh)
  | .dict id, .bitOr, _ =>
    cases b with
    | dict other =>
      cases fresh
      trivial
    | _ => cases fresh
  | .set id, op, _ =>
    cases b with
    | set other => exact fits_combined (combine?_set h op id other #[] ▸ fresh)
    | _ => cases op <;> cases fresh

/-- **The two ways, case by case.** Only for dicts is there anything to
compare. -/
theorem combined?_eq_combine?_iff (sound : h.Sound) (inPlace : a.combinesInPlace op = true)
    (drained : op = .add → ∀ id, b = .list id → items = h.list id)
    (fresh : combine? h op a b = some c) (combined : combined? h op a b items = some d) :
    d = c ↔ h.SameKeys a b := by
  match a, op, inPlace with
  | .list id, .add, _ =>
    cases b with
    | list other =>
      cases fresh
      cases combined
      simp [drained rfl other rfl, Heap.SameKeys]
    | _ => cases fresh
  | .list id, .mul, _ =>
    rw [combine?_list_mul h id b items, combined] at fresh
    cases fresh
    exact iff_of_true rfl trivial
  | .dict id, .bitOr, _ =>
    cases b with
    | dict other =>
      cases fresh
      cases combined
      rw [Fresh.dict.injEq]
      exact EntryTable.update_eq_merge_iff (sound.dict id).nodup (sound.dict other).nodup
    | _ => cases fresh
  | .set id, op, _ =>
    cases b with
    | set other =>
      rw [combine?_set h op id other items, combined] at fresh
      cases fresh
      exact iff_of_true rfl trivial
    | _ => cases combined

/-- What a combination gives depends on the contents of the operands alone. -/
theorem combined?_congr {h' : Heap} (left : h'.contents? a = h.contents? a)
    (right : h'.contents? b = h.contents? b) :
    combined? h' op a b items = combined? h op a b items := by
  unfold combined?
  split
  · rw [Fresh.list.inj (Option.some.inj left)]
  · rw [Fresh.list.inj (Option.some.inj left)]
  · rw [Fresh.set.inj (Option.some.inj left), Fresh.set.inj (Option.some.inj right)]
  · rw [Fresh.dict.inj (Option.some.inj left), Fresh.dict.inj (Option.some.inj right)]
  · rfl

/-- Draining an operand that an operator combines with runs no code: it reads
the items of a list. -/
theorem drained_of_combine? (inPlace : a.combinesInPlace op = true)
    (fresh : combine? h op a b = some c)
    (drained : (drainOperand ev op a b).on m = (.ok items, n)) :
    n = m ∧ (op = .add → ∀ id, b = .list id → items = m.heap.list id) := by
  unfold drainOperand at drained
  split at drained
  · cases b with
    | list other =>
      cases drained
      exact ⟨rfl, fun _ id same => by cases same; rfl⟩
    | _ => cases fresh
  · rename_i other
    obtain ⟨-, rfl⟩ := Prod.mk.inj drained
    refine ⟨rfl, fun added => ?_⟩
    subst added
    cases a with
    | list id => exact (other id rfl rfl).elim
    | _ => cases inPlace

/-- A fresh value was put into the heap. -/
theorem heap_of_binaryValue (computed : (binaryValue op a b).on m = (.ok v, n)) :
    ∃ c, binaryResult m.heap op a b = .ok c ∧ v = (m.heap.place c).1 ∧
      n.heap = (m.heap.place c).2 := by
  have course := binaryValue_computes op a b m
  rw [computed] at course
  cases course with
  | computed result gas => exact ⟨_, result, rfl, rfl⟩

/-- The target of a combination in place was refilled. -/
theorem heap_of_combineInPlace (combined : (combineInPlace ev op a b).on m = (.ok (), n)) :
    ∃ items m₁ c, (drainOperand ev op a b).on m = (.ok items, m₁) ∧
      combined? m₁.heap op a b items = some c ∧ n.heap = m₁.heap.refill a c := by
  generalize drained : (drainOperand ev op a b).on m = outcome
  obtain ⟨result | items, m₁⟩ := outcome
  · rw [combineInPlace_of_drain_error drained] at combined
    cases combined
  · have course := combineInPlace_combines drained
    rw [combined] at course
    cases course with
    | combined result gas => exact ⟨items, m₁, _, rfl, result, rfl⟩

/-- **In place and afresh.** The fresh value is an object that was not there
before, and every object that was there keeps its contents. A combination in
place of the same operands then gives the left one the contents of the fresh
value, entry by entry and in order, exactly if dicts have the same key objects
where they share keys. -/
theorem combined_contents_eq_iff (sound : m.heap.Sound) (inPlace : a.combinesInPlace op = true)
    (left : m.heap.Has a) (right : m.heap.Knows b) (fresh : (binaryValue op a b).on m = (.ok v, n))
    (combined : (combineInPlace ev op a b).on n = (.ok (), n')) :
    ¬ m.heap.Has v ∧ (∀ w, m.heap.Has w → n.heap.contents? w = m.heap.contents? w) ∧
      (n'.heap.contents? a = n'.heap.contents? v ↔ m.heap.SameKeys a b) := by
  obtain ⟨c, result, rfl, afresh⟩ := heap_of_binaryValue fresh
  have built := combine?_of_binaryResult inPlace result
  have kept (w : Value) (has : m.heap.Has w) : n.heap.contents? w = m.heap.contents? w :=
    afresh ▸ Heap.contents?_place has c
  obtain ⟨items, _, d, drained, combined, refilled⟩ := heap_of_combineInPlace combined
  obtain ⟨still, read⟩ := drained_of_combine? inPlace built drained
  rw [still] at combined refilled
  have fits := fits_of_combine? inPlace built
  have alike : combined? n.heap op a b items = combined? m.heap op a b items :=
    combined?_congr (kept a left) (afresh ▸ Heap.contents?_place_of_knows right c)
  have new : n.heap.contents? (m.heap.place c).1 = some c :=
    afresh ▸ Heap.contents?_place_self fits m.heap
  have has : n.heap.Has a := afresh ▸ Heap.has_place left c
  have apart : (m.heap.place c).1 ≠ a := fun same => Heap.not_has_place fits m.heap (same ▸ left)
  refine ⟨Heap.not_has_place fits m.heap, kept, ?_⟩
  rw [refilled, Heap.contents?_refill_self has (fits_combined combined),
    Heap.contents?_refill_of_ne apart, new, Option.some.injEq]
  refine combined?_eq_combine?_iff sound inPlace (fun added id same => ?_) built (alike ▸ combined)
  rw [read added id same]
  subst same
  exact Fresh.list.inj (Option.some.inj (afresh ▸ Heap.contents?_place_of_knows right c))

/-- A machine with the dicts `{1: 'x'}` and `{True: 'y'}`. -/
def Machine.oneAndTrue : Machine :=
  { Machine.initial .standard with
    heap := ⟨#[], #[⟨[(.int 1, .int 1, .str "x")]⟩, ⟨[(.int 1, .bool true, .str "y")]⟩], #[]⟩ }

theorem Machine.sound_oneAndTrue : oneAndTrue.heap.Sound where
  dict := by
    rintro ⟨_ | _ | i⟩
    · exact ⟨by decide, by simp [oneAndTrue, Heap.dict, Value.hashKey]⟩
    · exact ⟨by decide, by simp [oneAndTrue, Heap.dict, Value.hashKey]⟩
    · exact Table.Sound.empty
  set _ := Table.Sound.empty

/-- The keys `1` and `True` are equal without being the same. -/
theorem one_and_true_combine_differently : ∃ v n n',
    (binaryValue .bitOr (.dict ⟨0⟩) (.dict ⟨1⟩)).on Machine.oneAndTrue = (.ok v, n) ∧
      (combineInPlace .idle .bitOr (.dict ⟨0⟩) (.dict ⟨1⟩)).on n = (.ok (), n') ∧
      n'.heap.contents? (.dict ⟨0⟩) ≠ n'.heap.contents? v := by
  have differ {v : Value} {n n' : Machine}
      (fresh : (binaryValue .bitOr (.dict ⟨0⟩) (.dict ⟨1⟩)).on Machine.oneAndTrue = (.ok v, n))
      (combined : (combineInPlace .idle .bitOr (.dict ⟨0⟩) (.dict ⟨1⟩)).on n = (.ok (), n')) :
      n'.heap.contents? (.dict ⟨0⟩) ≠ n'.heap.contents? v := by
    intro alike
    have same := (combined_contents_eq_iff Machine.sound_oneAndTrue rfl (by decide)
      (fun _ => by decide) fresh combined).2.2.1 alike
    exact absurd (same (.int 1) _ _ rfl rfl) (by simp)
  exact ⟨_, _, _, rfl, rfl, differ rfl rfl⟩

end MeteredScript
