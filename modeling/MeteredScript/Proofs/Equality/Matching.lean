import MeteredScript.Proofs.Equality.Coherence
import MeteredScript.Proofs.Representation.Heap

/-!
# What equality is about

The `==` test need not end, since containers can contain themselves. What it
is about does not depend on that: two values *match* if they have the same
structure as far as anyone may look, which is to say if they are related by
some relation that respects the layers of equality. `Heap.Matches` is the
greatest such relation. It is an equivalence on all values of all heaps, with
nothing assumed about circles, and each of its laws is proved by showing a
relation.

The test decides it wherever it ends (`Tidy.equalWith_eq_some`). An answer
`true` is enough to build a relation from, and an answer `false` has come to a
difference. Only the tables of dicts and sets have to be in order, which is
what `Heap.Tidy` asks of all that can be reached.
-/

namespace MeteredScript

open Relation (ReflTransGen)

namespace Heap

variable {h : Heap} {v w u x : Value} {related related' : Value → Value → Prop}

/-! ## Layers -/

/-- Members of two lists that go together, related otherwise. -/
theorem forall₂_imp_of_mem {xs ys : List Value} (pairs : List.Forall₂ related xs ys)
    (imp : ∀ x ∈ xs, ∀ y, related x y → related' x y) : List.Forall₂ related' xs ys := by
  induction pairs with
  | nil => exact .nil
  | cons head _ ih =>
    exact .cons (imp _ List.mem_cons_self _ head)
      (ih fun x member => imp x (List.mem_cons_of_mem _ member))

theorem forall₂_comp {xs ys zs : List Value} (first : List.Forall₂ related xs ys)
    (second : List.Forall₂ related' ys zs) :
    List.Forall₂ (Relation.Comp related related') xs zs := by
  induction first generalizing zs with
  | nil => exact List.forall₂_nil_left_iff.2 (List.forall₂_nil_left_iff.1 second)
  | cons head _ ih =>
    cases second with
    | cons head' tail' => exact .cons ⟨_, head, head'⟩ (ih tail')

theorem Layer.mono (layer : h.Layer related v w) (imp : ∀ x y, related x y → related' x y) :
    h.Layer related' v w := by
  cases layer with
  | tuple items => exact .tuple (items.imp imp)
  | list items => exact .list (items.imp imp)
  | dict keys values => exact .dict keys fun k x y left right => imp _ _ (values k x y left right)
  | set keys => exact .set keys
  | atom left right key => exact .atom left right key

/-- Every value has the same layer as itself. -/
theorem Layer.refl (h : Heap) (v : Value) : h.Layer Eq v v := by
  match v with
  | .tuple items => exact .tuple (List.forall₂_same.2 fun _ _ => rfl)
  | .list id => exact .list (List.forall₂_same.2 fun _ _ => rfl)
  | .dict id =>
    exact .dict (.refl _) fun k x y left right => by rw [Option.some.inj (left.symm.trans right)]
  | .set id => exact .set (.refl _)
  | .none | .bool _ | .int _ | .str _ | .generator .. | .function .. | .builtin _
  | .method .. | .exceptionClass _ | .classObject .. | .exception .. => exact .atom rfl rfl rfl

theorem Layer.symm (layer : h.Layer related v w) : h.Layer (flip related) w v := by
  cases layer with
  | tuple items => exact .tuple items.flip
  | list items => exact .list items.flip
  | dict keys values => exact .dict keys.symm fun k x y left right => values k y x right left
  | set keys => exact .set keys.symm
  | atom left right key => exact .atom right left key.symm

theorem Layer.trans (first : h.Layer related v w) (second : h.Layer related' w u) :
    h.Layer (Relation.Comp related related') v u := by
  cases first with
  | tuple items =>
    cases second with
    | tuple items' => exact .tuple (forall₂_comp items items')
    | atom left => cases left
  | list items =>
    cases second with
    | list items' => exact .list (forall₂_comp items items')
    | atom left => cases left
  | @dict a b keys values =>
    cases second with
    | @dict b c keys' values' =>
      refine .dict (keys.trans keys') fun k x z left right => ?_
      -- The key leads to an entry of the dict between the two.
      have stored : k ∈ (h.dict b).keys := by
        rw [← keys.mem_iff, ← Table.contains_iff, Table.contains, left, Option.isSome_some]
      obtain ⟨y, between⟩ := Option.isSome_iff_exists.1 (Table.contains_iff.2 stored)
      exact ⟨y.2, values k x y left between, values' k y z between right⟩
    | atom left => cases left
  | set keys =>
    cases second with
    | set keys' => exact .set (keys.trans keys')
    | atom left => cases left
  | atom left right key =>
    cases second with
    | atom _ right' key' => exact .atom left right' (key.trans key')
    | tuple | list | dict | set => cases right

/-! ## Matching -/

/-- **Two values match**: some relation that respects the layers of equality
holds between them. -/
def Matches (h : Heap) (v w : Value) : Prop :=
  ∃ related : Value → Value → Prop, (∀ x y, related x y → h.Layer related x y) ∧ related v w

/-- **Matching, unfolded by one layer.** -/
theorem matches_iff : h.Matches v w ↔ h.Layer h.Matches v w := by
  constructor
  · rintro ⟨related, respects, holds⟩
    exact (respects v w holds).mono fun x y holds => ⟨related, respects, holds⟩
  · intro layer
    refine ⟨h.Layer h.Matches, fun x y layer => layer.mono ?_, layer⟩
    rintro x y ⟨related, respects, holds⟩
    exact (respects x y holds).mono fun x y holds => ⟨related, respects, holds⟩

theorem Matches.refl (h : Heap) (v : Value) : h.Matches v v :=
  ⟨Eq, fun x _ same => same ▸ Layer.refl h x, rfl⟩

theorem Matches.symm : h.Matches v w → h.Matches w v := by
  rintro ⟨related, respects, holds⟩
  exact ⟨flip related, fun x y holds => (respects y x holds).symm, holds⟩

theorem Matches.trans : h.Matches v w → h.Matches w u → h.Matches v u := by
  rintro ⟨related, respects, holds⟩ ⟨related', respects', holds'⟩
  refine ⟨Relation.Comp related related', ?_, _, holds, holds'⟩
  rintro x z ⟨y, first, second⟩
  exact (respects x y first).trans (respects' y z second)

/-! ## Tables in order -/

variable (h) in
/-- **A value of which all dicts and sets are sound** that can be reached. -/
structure Tidy (v : Value) : Prop where
  /-- The dicts that can be reached are sound. -/
  dict : ∀ id, h.Reached (.dict id) v → (h.dict id).Sound
  /-- The sets that can be reached are sound. -/
  set : ∀ id, h.Reached (.set id) v → (h.set id).Sound

theorem Tidy.of_inside (tidy : h.Tidy v) (inside : h.Inside x v) : h.Tidy x where
  dict id reached := tidy.dict id (reached.tail inside)
  set id reached := tidy.set id (reached.tail inside)

theorem Regular.tidy (regular : h.Regular v) : h.Tidy v := ⟨regular.dict, regular.set⟩

theorem Sound.tidy (sound : h.Sound) (v : Value) : h.Tidy v :=
  ⟨fun id _ => sound.dict id, fun id _ => sound.set id⟩

/-! ## Where the test ends -/

/-- Two values are the same or the test, to some depth, says that they are
equal. -/
def ComparesEqual (h : Heap) (x y : Value) : Prop :=
  x = y ∨ h.Tidy x ∧ ∃ depth, x.equalWith h (h.contentsEqual? depth) y = some true

/-- Values at the same positions of two lists that compare equal do so. -/
theorem forall₂_comparesEqual {depth : Nat} {xs ys : List Value} (tidy : ∀ x ∈ xs, h.Tidy x)
    (equal : (if xs.length = ys.length then
      Value.allEqualWith h (h.contentsEqual? depth) xs ys else some false) = some true) :
    List.Forall₂ h.ComparesEqual xs ys :=
  forall₂_imp_of_mem (Value.allEqualWith_eq_true_iff.1 equal) fun x member _ equal =>
    .inr ⟨tidy x member, depth, equal⟩

theorem Tidy.layer_of_lists {depth : Nat} {a b : ListId} (tidy : h.Tidy (.list a))
    (equal : (Value.list a).equalWith h (h.contentsEqual? depth) (.list b) = some true) :
    h.Layer h.ComparesEqual (.list a) (.list b) := by
  rw [Value.equalWith] at equal
  by_cases same : a = b
  · subst same
    exact (Layer.refl h (.list a)).mono fun _ _ => .inl
  · rw [if_neg same] at equal
    cases depth with
    | zero => cases equal
    | succ depth =>
      exact .list (forall₂_comparesEqual (fun x member => tidy.of_inside member) equal)

theorem Tidy.layer_of_dicts {depth : Nat} {a b : DictId} (tidy : h.Tidy (.dict a))
    (equal : (Value.dict a).equalWith h (h.contentsEqual? depth) (.dict b) = some true) :
    h.Layer h.ComparesEqual (.dict a) (.dict b) := by
  rw [Value.equalWith] at equal
  by_cases same : a = b
  · subst same
    exact (Layer.refl h (.dict a)).mono fun _ _ => .inl
  · rw [if_neg same] at equal
    cases depth with
    | zero => cases equal
    | succ depth =>
      simp only [contentsEqual?, ite_eq_iff, Option.some.injEq, Bool.false_eq_true, and_false,
        or_false, Value.entriesEqualWith_eq_true_iff] at equal
      obtain ⟨size, matched⟩ := equal
      have nodup := (tidy.dict a .refl).nodup
      refine .dict ((Table.keys_perm_iff nodup).2 ⟨size, fun k member => ?_⟩) ?_
      · obtain ⟨x, stored⟩ := Table.mem_keys_iff.1 member
        obtain ⟨y, found, -⟩ := matched _ stored
        rw [Table.contains, found, Option.isSome_some]
      · intro k x y left right
        have stored := (Table.find?_eq_some_iff nodup).1 left
        obtain ⟨y', found, equal⟩ := matched _ stored
        obtain rfl : y = y' := Option.some.inj (right.symm.trans found)
        exact .inr ⟨tidy.of_inside (inside_dict stored), depth, equal⟩

theorem Tidy.layer_of_sets {depth : Nat} {a b : SetId} (tidy : h.Tidy (.set a))
    (equal : (Value.set a).equalWith h (h.contentsEqual? depth) (.set b) = some true) :
    h.Layer h.ComparesEqual (.set a) (.set b) := by
  rw [Value.equalWith] at equal
  by_cases same : a = b
  · subst same
    exact (Layer.refl h (.set a)).mono fun _ _ => .inl
  · refine .set ((Table.keys_perm_iff (tidy.set a .refl).nodup).2 ?_)
    simpa [same] using equal

/-- **An answer that two values are equal** comes from answers for what they
hold. -/
theorem Tidy.layer_of_equalWith {depth : Nat} (tidy : h.Tidy v)
    (equal : v.equalWith h (h.contentsEqual? depth) w = some true) :
    h.Layer h.ComparesEqual v w := by
  match hv : v.isCompound with
  | false =>
    obtain ⟨other, key⟩ := (Value.equalWith_of_not_compound hv).1 equal
    exact .atom hv other key
  | true =>
    -- A compound value is equal to none of another kind.
    cases v <;> simp only [Value.isCompound, Bool.false_eq_true] at hv <;> cases w <;>
      try (simp [Value.equalWith, Value.asInt?, Value.isSame] at equal; done)
    case tuple.tuple =>
      rw [Value.equalWith] at equal
      exact .tuple (forall₂_comparesEqual (fun x member => tidy.of_inside member) equal)
    case list.list => exact tidy.layer_of_lists equal
    case dict.dict => exact tidy.layer_of_dicts equal
    case set.set => exact tidy.layer_of_sets equal

theorem Tidy.matches_of_equalWith {depth : Nat} (tidy : h.Tidy v)
    (equal : v.equalWith h (h.contentsEqual? depth) w = some true) : h.Matches v w := by
  refine ⟨h.ComparesEqual, fun x y compares => ?_, .inr ⟨tidy, depth, equal⟩⟩
  rcases compares with rfl | ⟨tidy, depth, equal⟩
  · exact (Layer.refl h x).mono fun _ _ => .inl
  · exact tidy.layer_of_equalWith equal

/-! An answer that two values are not equal has come to a difference, so the
comparison of matching values never gives one. -/

theorem allEqualWith_ne_false {contents : ContainerPair → Option Bool} {xs ys : List Value}
    (pairs : List.Forall₂ related xs ys)
    (equal : ∀ x ∈ xs, ∀ y, related x y → x.equalWith h contents y ≠ some false) :
    Value.allEqualWith h contents xs ys ≠ some false := by
  induction pairs with
  | nil => simp [Value.allEqualWith]
  | @cons x y _ _ head _ ih =>
    have first := equal x List.mem_cons_self y head
    rw [Value.allEqualWith]
    split
    · exact ih fun x member => equal x (List.mem_cons_of_mem _ member)
    · exact first

theorem entriesEqualWith_ne_false {contents : ContainerPair → Option Bool} {other : EntryTable}
    {es : List (HashKey × Value × Value)}
    (equal : ∀ e ∈ es, ∃ e', other.find? e.1 = some e' ∧
      e.2.2.equalWith h contents e'.2 ≠ some false) :
    Value.entriesEqualWith h contents other es ≠ some false := by
  induction es with
  | nil => simp [Value.entriesEqualWith]
  | cons e es ih =>
    obtain ⟨key, first, value⟩ := e
    obtain ⟨e', found, same⟩ := equal _ List.mem_cons_self
    rw [Value.entriesEqualWith, found]
    simp only
    split
    · exact ih fun e member => equal e (List.mem_cons_of_mem _ member)
    · exact same

variable (h) in
/-- Containers that match are not found unequal. -/
structure Trusts (contents : ContainerPair → Option Bool) : Prop where
  lists : ∀ a b, h.Tidy (.list a) → h.Matches (.list a) (.list b) →
    contents (.lists a b) ≠ some false
  dicts : ∀ a b, h.Tidy (.dict a) → h.Matches (.dict a) (.dict b) →
    contents (.dicts a b) ≠ some false

/-- Then no matching values are. -/
theorem Trusts.equalWith_ne_false {contents : ContainerPair → Option Bool}
    (trusts : h.Trusts contents) (tidy : h.Tidy v) (same : h.Matches v w) :
    v.equalWith h contents w ≠ some false := by
  induction v using Value.tupleInduction generalizing w with
  | tuple xs ih =>
    cases matches_iff.1 same with
    | tuple items =>
      rw [Value.equalWith, if_pos items.length_eq]
      exact allEqualWith_ne_false items fun x member y same =>
        ih x member (tidy.of_inside member) same
    | atom left => cases left
  | other v notTuple =>
    cases matches_iff.1 same with
    | tuple => exact absurd rfl (notTuple _)
    | @list a b =>
      rw [Value.equalWith]
      split
      · simp
      · exact trusts.lists a b tidy same
    | @dict a b =>
      rw [Value.equalWith]
      split
      · simp
      · exact trusts.dicts a b tidy same
    | @set a b keys =>
      have counted := (Table.keys_perm_iff (tidy.set a .refl).nodup).1 keys
      have all : (h.set a).keys.all (h.set b).contains = true := List.all_eq_true.2 counted.2
      simp [Value.equalWith, counted.1, all]
    | atom left right key =>
      rw [(Value.equalWith_of_not_compound left).2 ⟨right, key⟩]
      simp

/-- **Matching values are never found unequal**, to whatever depth. -/
theorem trusts_contentsEqual? (depth : Nat) : h.Trusts (h.contentsEqual? depth) := by
  induction depth with
  | zero => exact ⟨fun _ _ _ _ => by simp [contentsEqual?], fun _ _ _ _ => by simp [contentsEqual?]⟩
  | succ depth trusts =>
    refine ⟨fun a b tidy same => ?_, fun a b tidy same => ?_⟩
    · cases matches_iff.1 same with
      | list items =>
        rw [contentsEqual?]
        simp only [← Array.length_toList, items.length_eq, if_true]
        exact allEqualWith_ne_false items fun x member y same =>
          trusts.equalWith_ne_false (tidy.of_inside member) same
      | atom left => cases left
    · cases matches_iff.1 same with
      | dict keys values =>
        have nodup := (tidy.dict a .refl).nodup
        rw [contentsEqual?, if_pos ((Table.keys_perm_iff nodup).1 keys).1]
        refine entriesEqualWith_ne_false fun e member => ?_
        -- The key stands in the other dict too, over a matching value.
        have stored := keys.mem_iff.1 (Table.mem_keys_of_mem member)
        obtain ⟨e', found⟩ := Option.isSome_iff_exists.1 (Table.contains_iff.2 stored)
        have left := (Table.find?_eq_some_iff nodup).2 member
        exact ⟨e', found, trusts.equalWith_ne_false (tidy.of_inside (inside_dict member))
          (values e.1 e.2 e' left found)⟩
      | atom left => cases left

/-- **Where the test ends it decides matching.** -/
theorem Tidy.equalWith_eq_some {depth : Nat} {answer : Bool} (tidy : h.Tidy v)
    (ends : v.equalWith h (h.contentsEqual? depth) w = some answer) :
    answer = true ↔ h.Matches v w := by
  constructor
  · rintro rfl
    exact tidy.matches_of_equalWith ends
  · intro same
    have notFalse := (trusts_contentsEqual? depth).equalWith_ne_false tidy same
    cases answer with
    | true => rfl
    | false => exact absurd ends notFalse

/-- On regular values the test is matching. -/
theorem Regular.equal_iff_matches (regular : h.Regular v) : h.Equal v w ↔ h.Matches v w := by
  obtain ⟨answer, ends⟩ := Option.isSome_iff_exists.1 (regular.equal?_isSome w)
  rw [← regular.tidy.equalWith_eq_some ends, Equal, ends, Option.some.injEq]

end Heap

end MeteredScript
