import MeteredScript.Proofs.Equality.Inside

/-!
# Equality, one layer at a time

`Heap.equal?` opens containers as deep as its bound allows and asks for the
answers of what it finds from the left. On a regular value neither the bound
nor the order can be noticed:

* the answer is the same with any bound above the value's rank
  (`Heap.Regular.equalWith_stable`), so that a container's contents are
  compared by equality itself;
* there always is an answer (`Heap.Regular.equal?_isSome`), so that it does
  not matter which of several comparisons comes first.

What is left is `Heap.Layer`: two values are equal if they are of one kind and
what they hold is equal, where dicts and sets are compared through the
permutation of their keys (`Heap.Regular.equal_iff`). The laws of equality are
inductions over layers.
-/

namespace MeteredScript

namespace Value

variable {h : Heap} {contents contents' : ContainerPair → Option Bool}

/-! ## Comparing several values -/

theorem allEqualWith_congr {xs : List Value}
    (agree : ∀ x ∈ xs, ∀ y, x.equalWith h contents y = x.equalWith h contents' y)
    (ys : List Value) : allEqualWith h contents xs ys = allEqualWith h contents' xs ys := by
  induction xs generalizing ys with
  | nil => cases ys <;> simp only [allEqualWith]
  | cons x xs ih =>
    cases ys with
    | nil => simp only [allEqualWith]
    | cons y ys =>
      rw [allEqualWith, allEqualWith, agree x List.mem_cons_self,
        ih fun x member => agree x (List.mem_cons_of_mem _ member)]

theorem entriesEqualWith_congr {other : EntryTable} {es : List (HashKey × Value × Value)}
    (agree : ∀ e ∈ es, ∀ y, e.2.2.equalWith h contents y = e.2.2.equalWith h contents' y) :
    entriesEqualWith h contents other es = entriesEqualWith h contents' other es := by
  induction es with
  | nil => rfl
  | cons e es ih =>
    obtain ⟨key, first, value⟩ := e
    simp only [entriesEqualWith, agree _ List.mem_cons_self,
      ih fun e member => agree e (List.mem_cons_of_mem _ member)]

theorem allEqualWith_isSome {xs : List Value}
    (total : ∀ x ∈ xs, ∀ y, (x.equalWith h contents y).isSome) (ys : List Value) :
    (allEqualWith h contents xs ys).isSome := by
  induction xs generalizing ys with
  | nil => cases ys <;> simp [allEqualWith]
  | cons x xs ih =>
    cases ys with
    | nil => simp [allEqualWith]
    | cons y ys =>
      have head := total x List.mem_cons_self y
      have tail := ih (fun x member => total x (List.mem_cons_of_mem _ member)) ys
      rw [allEqualWith]
      split <;> assumption

theorem entriesEqualWith_isSome {other : EntryTable} {es : List (HashKey × Value × Value)}
    (total : ∀ e ∈ es, ∀ y, (e.2.2.equalWith h contents y).isSome) :
    (entriesEqualWith h contents other es).isSome := by
  induction es with
  | nil => rfl
  | cons e es ih =>
    obtain ⟨key, first, value⟩ := e
    have tail := ih fun e member => total e (List.mem_cons_of_mem _ member)
    rw [entriesEqualWith]
    split
    · rfl
    · have head := total _ List.mem_cons_self
      split <;> [exact tail; exact head _]

/-- Lists of one length are equal if their items are, pair by pair. -/
theorem allEqualWith_eq_true_iff {xs ys : List Value} :
    (if xs.length = ys.length then allEqualWith h contents xs ys else some false) = some true ↔
      List.Forall₂ (fun x y => x.equalWith h contents y = some true) xs ys := by
  induction xs generalizing ys with
  | nil => cases ys <;> simp [allEqualWith]
  | cons x xs ih =>
    cases ys with
    | nil => simp
    | cons y ys =>
      rw [List.forall₂_cons, ← ih, allEqualWith]
      cases answer : x.equalWith h contents y with
      | none => simp
      | some b => cases b <;> simp

theorem entriesEqualWith_eq_true_iff {other : EntryTable}
    {es : List (HashKey × Value × Value)} :
    entriesEqualWith h contents other es = some true ↔
      ∀ e ∈ es, ∃ e', other.find? e.1 = some e' ∧
        e.2.2.equalWith h contents e'.2 = some true := by
  induction es with
  | nil => simp [entriesEqualWith]
  | cons e es ih =>
    obtain ⟨key, first, value⟩ := e
    rw [List.forall_mem_cons, ← ih, entriesEqualWith]
    cases found : other.find? key with
    | none => simp
    | some e' =>
      cases answer : value.equalWith h contents e'.2 with
      | none => simp [answer]
      | some b => cases b <;> simp [answer]

/-! ## Values without parts -/

/-- A value that equality does not look into is equal to those with its key. -/
theorem equalWith_of_not_compound {v w : Value} (atom : v.isCompound = false) :
    v.equalWith h contents w = some true ↔ w.isCompound = false ∧ v.hashKey = w.hashKey := by
  cases v <;> simp only [isCompound, Bool.true_eq_false] at atom <;> cases w <;>
    simp [equalWith, asInt?, isSame, hashKey, isCompound]

theorem equalWith_isSome_of_not_compound {v w : Value} (atom : v.isCompound = false) :
    (v.equalWith h contents w).isSome := by
  cases v <;> simp only [isCompound, Bool.true_eq_false] at atom <;> cases w <;>
    simp [equalWith, asInt?]

end Value

namespace Heap

variable {h : Heap} {v w : Value}

/-! ## The bound and the order do not matter -/

/-- **Any bound above the rank gives the same answer.** -/
theorem Regular.equalWith_stable (regular : h.Regular v) :
    ∀ {depth depth' : Nat}, h.rank v < depth → h.rank v < depth' → ∀ w,
      v.equalWith h (h.contentsEqual? depth) w = v.equalWith h (h.contentsEqual? depth') w := by
  induction regular using Regular.induct with
  | tuple items regular ih =>
    intro depth depth' enough enough' w
    have agree : ∀ x ∈ items, ∀ y, x.equalWith h (h.contentsEqual? depth) y
        = x.equalWith h (h.contentsEqual? depth') y := fun x member =>
      have less : h.rank x ≤ h.rank (.tuple items) := rank_le_of_inside member
      ih x member (less.trans_lt enough) (less.trans_lt enough')
    cases w <;> simp only [Value.equalWith, Value.allEqualWith_congr agree]
  | list a regular ih =>
    intro depth depth' enough enough' w
    obtain ⟨d, rfl⟩ := Nat.exists_eq_succ_of_ne_zero (Nat.ne_zero_of_lt enough)
    obtain ⟨d', rfl⟩ := Nat.exists_eq_succ_of_ne_zero (Nat.ne_zero_of_lt enough')
    have agree : ∀ x ∈ (h.list a).toList, ∀ y, x.equalWith h (h.contentsEqual? d) y
        = x.equalWith h (h.contentsEqual? d') y := fun x member =>
      have less := regular.rank_lt_list member
      ih x member (by omega) (by omega)
    cases w <;> simp only [Value.equalWith, contentsEqual?, Value.allEqualWith_congr agree]
  | dict a regular ih =>
    intro depth depth' enough enough' w
    obtain ⟨d, rfl⟩ := Nat.exists_eq_succ_of_ne_zero (Nat.ne_zero_of_lt enough)
    obtain ⟨d', rfl⟩ := Nat.exists_eq_succ_of_ne_zero (Nat.ne_zero_of_lt enough')
    have agree : ∀ e ∈ (h.dict a).entries, ∀ y, e.2.2.equalWith h (h.contentsEqual? d) y
        = e.2.2.equalWith h (h.contentsEqual? d') y := fun e member =>
      have less := regular.rank_lt_dict member
      ih e member (by omega) (by omega)
    cases w <;> simp only [Value.equalWith, contentsEqual?, Value.entriesEqualWith_congr agree]
  | set a regular =>
    intro _ _ _ _ w
    cases w <;> simp only [Value.equalWith]
  | atom v regular atom =>
    intro _ _ _ _ w
    cases v <;> simp only [Value.isCompound, Bool.true_eq_false] at atom <;>
      simp only [Value.equalWith]

/-- The contents of a list are compared by equality itself. -/
theorem Regular.equalWith_list {id : ListId} (regular : h.Regular (.list id)) {x : Value}
    (inside : x ∈ (h.list id).toList) (y : Value) :
    x.equalWith h (h.contentsEqual? (h.pairBound - 1)) y = h.equal? x y := by
  have less := regular.rank_lt_list inside
  have bound := rank_lt_pairBound (h := h) (v := .list id)
  exact (regular.of_inside inside).equalWith_stable (by omega) (by omega) y

/-- The values of a dict are compared by equality itself. -/
theorem Regular.equalWith_dict {id : DictId} (regular : h.Regular (.dict id))
    {e : HashKey × Value × Value} (member : e ∈ (h.dict id).entries) (y : Value) :
    e.2.2.equalWith h (h.contentsEqual? (h.pairBound - 1)) y = h.equal? e.2.2 y := by
  have less := regular.rank_lt_dict member
  have bound := rank_lt_pairBound (h := h) (v := .dict id)
  exact (regular.of_inside (inside_dict member)).equalWith_stable (by omega) (by omega) y

/-- **Comparing a regular value ends.** -/
theorem Regular.equal?_isSome (regular : h.Regular v) : ∀ w, (h.equal? v w).isSome := by
  induction regular using Regular.induct with
  | tuple items regular ih =>
    intro w
    cases w with
    | tuple ys =>
      rw [equal?, Value.equalWith]
      split
      · exact Value.allEqualWith_isSome ih ys
      · rfl
    | _ => simp [equal?, Value.equalWith, Value.asInt?]
  | list a regular ih =>
    intro w
    cases w with
    | list b =>
      have total : ∀ x ∈ (h.list a).toList, ∀ y,
          (x.equalWith h (h.contentsEqual? (h.pairBound - 1)) y).isSome := by
        intro x inside y
        rw [regular.equalWith_list inside]
        exact ih x inside y
      rw [equal?, Value.equalWith]
      split
      · rfl
      · rw [pairBound, contentsEqual?]
        split
        · exact Value.allEqualWith_isSome total _
        · rfl
    | _ => simp [equal?, Value.equalWith, Value.asInt?]
  | dict a regular ih =>
    intro w
    cases w with
    | dict b =>
      have total : ∀ e ∈ (h.dict a).entries, ∀ y,
          (e.2.2.equalWith h (h.contentsEqual? (h.pairBound - 1)) y).isSome := by
        intro e member y
        rw [regular.equalWith_dict member]
        exact ih e member y
      rw [equal?, Value.equalWith]
      split
      · rfl
      · rw [pairBound, contentsEqual?]
        split
        · exact Value.entriesEqualWith_isSome total
        · rfl
    | _ => simp [equal?, Value.equalWith, Value.asInt?]
  | set a regular =>
    intro w
    cases w <;> simp [equal?, Value.equalWith, Value.asInt?]
  | atom v regular atom => exact fun w => Value.equalWith_isSome_of_not_compound atom

/-! ## Layers -/

/-- **Two values are equal**, when that can be decided. -/
def Equal (h : Heap) (v w : Value) : Prop := h.equal? v w = some true

/-- **One layer of equality**: values of one kind, and what they hold is
related. Dicts and sets have the same keys in any order, and dicts related
values under each. Values that hold nothing are matched by their keys. -/
inductive Layer (h : Heap) (related : Value → Value → Prop) : Value → Value → Prop
  | tuple {xs ys : List Value} (items : List.Forall₂ related xs ys) :
    Layer h related (.tuple xs) (.tuple ys)
  | list {a b : ListId} (items : List.Forall₂ related (h.list a).toList (h.list b).toList) :
    Layer h related (.list a) (.list b)
  | dict {a b : DictId} (keys : (h.dict a).keys.Perm (h.dict b).keys)
    (values : ∀ k x y, (h.dict a).find? k = some x → (h.dict b).find? k = some y →
      related x.2 y.2) :
    Layer h related (.dict a) (.dict b)
  | set {a b : SetId} (keys : (h.set a).keys.Perm (h.set b).keys) :
    Layer h related (.set a) (.set b)
  | atom {v w : Value} (left : v.isCompound = false) (right : w.isCompound = false)
    (key : v.hashKey = w.hashKey) : Layer h related v w

/-- **Equality is reflexive**, on all values: a container is compared by its
pointer first. -/
theorem equal_refl (h : Heap) (v : Value) : h.Equal v v := by
  induction v using Value.tupleInduction with
  | tuple items ih =>
    rw [Equal, equal?, Value.equalWith, Value.allEqualWith_eq_true_iff]
    exact List.forall₂_same.2 ih
  | other v notTuple =>
    match v with
    | .tuple items => exact absurd rfl (notTuple items)
    | .list id | .dict id | .set id => simp [Equal, equal?, Value.equalWith]
    | .none | .bool _ | .int _ | .str _ | .generator .. | .function .. | .builtin _
    | .method .. | .exceptionClass _ | .classObject .. | .exception .. =>
      exact (Value.equalWith_of_not_compound rfl).2 ⟨rfl, rfl⟩

theorem equal_tuple_iff {xs ys : List Value} :
    h.Equal (.tuple xs) (.tuple ys) ↔ List.Forall₂ h.Equal xs ys := by
  rw [Equal, equal?, Value.equalWith, Value.allEqualWith_eq_true_iff]
  rfl

theorem Regular.equal_list_iff {a b : ListId} (regular : h.Regular (.list a)) :
    h.Equal (.list a) (.list b) ↔
      List.Forall₂ h.Equal (h.list a).toList (h.list b).toList := by
  by_cases same : a = b
  · subst same
    exact iff_of_true (equal_refl _ _) (List.forall₂_same.2 fun x _ => equal_refl _ x)
  · rw [Equal, equal?, Value.equalWith, if_neg same, pairBound, contentsEqual?]
    have opened : Value.allEqualWith h (h.contentsEqual? (h.pairBound - 1)) (h.list a).toList
          (h.list b).toList =
        Value.allEqualWith h (h.contentsEqual? h.pairBound) (h.list a).toList (h.list b).toList :=
      Value.allEqualWith_congr (fun x inside => regular.equalWith_list inside) _
    simp only [pairBound, Nat.add_sub_cancel] at opened
    rw [opened]
    exact Value.allEqualWith_eq_true_iff

theorem Regular.equal_dict_iff {a b : DictId} (regular : h.Regular (.dict a)) :
    h.Equal (.dict a) (.dict b) ↔ (h.dict a).keys.Perm (h.dict b).keys ∧
      ∀ k x y, (h.dict a).find? k = some x → (h.dict b).find? k = some y →
        h.Equal x.2 y.2 := by
  have nodup := (regular.dict a .refl).nodup
  by_cases same : a = b
  · subst same
    refine iff_of_true (equal_refl _ _) ⟨.refl _, fun k x y left right => ?_⟩
    rw [Option.some.inj (left.symm.trans right)]
    exact equal_refl _ _
  · have opened : Value.entriesEqualWith h (h.contentsEqual? (h.pairBound - 1)) (h.dict b)
          (h.dict a).entries =
        Value.entriesEqualWith h (h.contentsEqual? h.pairBound) (h.dict b) (h.dict a).entries :=
      Value.entriesEqualWith_congr fun e member => regular.equalWith_dict member
    simp only [pairBound, Nat.add_sub_cancel] at opened
    rw [Equal, equal?, Value.equalWith, if_neg same, pairBound, contentsEqual?, opened,
      Table.keys_perm_iff nodup, and_assoc]
    simp only [ite_eq_iff, Option.some.injEq, Bool.false_eq_true, and_false, or_false,
      Value.entriesEqualWith_eq_true_iff]
    refine and_congr_right fun _ => ⟨fun matched => ⟨fun k member => ?_, ?_⟩, ?_⟩
    · obtain ⟨x, stored⟩ := Table.mem_keys_iff.1 member
      obtain ⟨y, found, _⟩ := matched _ stored
      rw [Table.contains, found, Option.isSome_some]
    · intro k x y left right
      obtain ⟨y', found, equal⟩ := matched _ ((Table.find?_eq_some_iff nodup).1 left)
      rw [Option.some.inj (right.symm.trans found)]
      exact equal
    · rintro ⟨subset, values⟩ ⟨k, x⟩ member
      obtain ⟨y, found⟩ := Option.isSome_iff_exists.1 (subset k (Table.mem_keys_of_mem member))
      exact ⟨y, found, values k x y ((Table.find?_eq_some_iff nodup).2 member) found⟩

/-- Sets are equal if they have the same keys in some order. -/
theorem equal_set_iff {a b : SetId} (nodup : (h.set a).keys.Nodup) :
    h.Equal (.set a) (.set b) ↔ (h.set a).keys.Perm (h.set b).keys := by
  rw [Table.keys_perm_iff nodup, Equal, equal?, Value.equalWith]
  by_cases same : a = b
  · subst same
    simp [Table.contains_iff]
  · simp [same]

theorem Regular.equal_set_iff {a b : SetId} (regular : h.Regular (.set a)) :
    h.Equal (.set a) (.set b) ↔ (h.set a).keys.Perm (h.set b).keys :=
  Heap.equal_set_iff (regular.set a .refl).nodup

/-- **Equality of a regular value, unfolded by one layer.** -/
theorem Regular.equal_iff (regular : h.Regular v) : h.Equal v w ↔ h.Layer h.Equal v w := by
  constructor
  · intro equal
    match hv : v.isCompound with
    | false =>
      obtain ⟨other, key⟩ := (Value.equalWith_of_not_compound hv).1 equal
      exact .atom hv other key
    | true =>
      -- A compound value is equal to none of another kind.
      cases v <;> simp only [Value.isCompound, Bool.false_eq_true] at hv <;> cases w <;>
        first
        | exact .tuple (equal_tuple_iff.1 equal)
        | exact .list (regular.equal_list_iff.1 equal)
        | exact .dict (regular.equal_dict_iff.1 equal).1 (regular.equal_dict_iff.1 equal).2
        | exact .set (regular.equal_set_iff.1 equal)
        | simp [Equal, equal?, Value.equalWith, Value.asInt?, Value.isSame] at equal
  · intro layer
    cases layer with
    | tuple items => exact equal_tuple_iff.2 items
    | list items => exact regular.equal_list_iff.2 items
    | dict keys values => exact regular.equal_dict_iff.2 ⟨keys, values⟩
    | set keys => exact regular.equal_set_iff.2 keys
    | atom left right key => exact (Value.equalWith_of_not_compound left).2 ⟨right, key⟩

end Heap

end MeteredScript
