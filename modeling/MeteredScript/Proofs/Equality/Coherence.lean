import MeteredScript.Proofs.Equality.Layer

/-!
# Equality, identity and keys

Three definitions say when two values are the same: equality, identity and
the key under which a dict or set keeps a value. `Heap.Coherence` is what
makes them one notion. On regular values equality is decided and is an
equivalence; identical values are equal; and on the values that have keys,
equality is equality of keys.

Reflexivity, identity and keys need nothing of the heap, since a container is
equal to itself by its pointer and a value with a key holds no container that
equality would open. Symmetry and transitivity are inductions over layers
(`Heap.Layer`), where dicts and sets use that permutation of keys is an
equivalence.
-/

namespace MeteredScript

namespace Value

/-! ## Keys -/

/-- **Values without a key**: lists, dicts and sets, and tuples that hold one
of these at some depth. -/
inductive HoldsContainer : Value → Prop
  | list (id : ListId) : HoldsContainer (.list id)
  | dict (id : DictId) : HoldsContainer (.dict id)
  | set (id : SetId) : HoldsContainer (.set id)
  | tuple {items : List Value} {x : Value} (member : x ∈ items) (holds : HoldsContainer x) :
    HoldsContainer (.tuple items)

theorem hashKeys_cons (x : Value) (xs : List Value) :
    hashKeys (x :: xs) = x.hashKey.bind fun key => (hashKeys xs).map (key :: ·) := by
  rw [hashKeys]
  cases x.hashKey <;> [rfl; (cases hashKeys xs <;> rfl)]

/-- Several values have keys if each has one, and these are the keys. -/
theorem hashKeys_eq_ok_iff {xs : List Value} {keys : List HashKey} :
    hashKeys xs = .ok keys ↔ List.Forall₂ (fun x key => x.hashKey = .ok key) xs keys := by
  induction xs generalizing keys with
  | nil => cases keys <;> simp [hashKeys]
  | cons x xs ih =>
    rw [hashKeys_cons, List.forall₂_cons_left_iff]
    simp only [← ih]
    cases x.hashKey with
    | error why => simp [Except.bind]
    | ok key => cases hashKeys xs <;> simp [Except.bind, Except.map, eq_comm]

/-- The key of a tuple is made of the keys of its items. -/
theorem hashKey_tuple_eq_ok_iff {items : List Value} {key : HashKey} :
    (Value.tuple items).hashKey = .ok key ↔
      ∃ keys, key = .tuple keys ∧
        List.Forall₂ (fun x key => x.hashKey = .ok key) items keys := by
  rw [hashKey]
  simp only [← hashKeys_eq_ok_iff]
  cases hashKeys items <;> simp [bind, Except.bind, pure, Except.pure, eq_comm]

/-- **Where a key comes from**: from a value that holds nothing, or from a
tuple, item by item. -/
theorem hashKey_cases {v : Value} {key : HashKey} (found : v.hashKey = .ok key) :
    (v.isCompound = false ∧ ∀ keys, key ≠ .tuple keys) ∨
      ∃ items keys, v = .tuple items ∧ key = .tuple keys ∧
        List.Forall₂ (fun x key => x.hashKey = .ok key) items keys := by
  cases v with
  | tuple items =>
    obtain ⟨keys, rfl, all⟩ := hashKey_tuple_eq_ok_iff.1 found
    exact .inr ⟨items, keys, rfl, rfl, all⟩
  | list | dict | set => simp [hashKey] at found
  | _ =>
    refine .inl ⟨rfl, fun keys same => ?_⟩
    simp [hashKey, same] at found

/-- Several values have no keys if one of them has none. -/
theorem exists_hashKeys_error_iff {xs : List Value} :
    (∃ why, hashKeys xs = .error why) ↔ ∃ x ∈ xs, ∃ why, x.hashKey = .error why := by
  induction xs with
  | nil => simp [hashKeys]
  | cons x xs ih =>
    simp only [hashKeys_cons, List.mem_cons, exists_eq_or_imp, ← ih]
    cases x.hashKey with
    | error why => simp [Except.bind]
    | ok key => cases hashKeys xs <;> simp [Except.bind, Except.map]

/-- **A value has no key exactly if it is or holds a container.** -/
theorem exists_hashKey_error_iff (v : Value) :
    (∃ why, v.hashKey = .error why) ↔ v.HoldsContainer := by
  induction v using tupleInduction with
  | tuple items ih =>
    have items_fail : (∃ why, (Value.tuple items).hashKey = .error why) ↔
        ∃ why, hashKeys items = .error why := by
      rw [hashKey]
      cases hashKeys items <;> simp [bind, Except.bind, pure, Except.pure]
    rw [items_fail, exists_hashKeys_error_iff]
    constructor
    · rintro ⟨x, member, fails⟩
      exact .tuple member ((ih x member).1 fails)
    · intro holds
      cases holds with
      | tuple member holds => exact ⟨_, member, (ih _ member).2 holds⟩
  | other v notTuple =>
    cases v with
    | tuple items => exact absurd rfl (notTuple items)
    | list id => exact iff_of_true ⟨_, rfl⟩ (.list id)
    | dict id => exact iff_of_true ⟨_, rfl⟩ (.dict id)
    | set id => exact iff_of_true ⟨_, rfl⟩ (.set id)
    | none | bool | int | str | generator | function | builtin | method | exceptionClass
    | classObject | exception =>
      exact iff_of_false (by simp [hashKey]) fun holds => by cases holds

end Value

namespace Heap

variable {h : Heap} {v w u : Value}

/-! ## Equality beside identity and keys -/

/-- A tuple is equal to tuples only. -/
theorem Equal.tuple_left {items : List Value} (equal : h.Equal (.tuple items) w) :
    ∃ ys, w = .tuple ys := by
  cases w with
  | tuple ys => exact ⟨ys, rfl⟩
  | _ => simp [Equal, equal?, Value.equalWith, Value.asInt?, Value.isSame] at equal

/-- **Identical values are equal.** -/
theorem equal_of_isSame (same : v.isSame w = true) : h.Equal v w := by
  induction v using Value.tupleInduction generalizing w with
  | tuple xs ih =>
    cases w with
    | tuple ys =>
      rw [Value.isSame] at same
      rw [equal_tuple_iff]
      induction xs generalizing ys with
      | nil => cases ys <;> simp_all [Value.allSame]
      | cons x xs rest =>
        cases ys with
        | nil => simp [Value.allSame] at same
        | cons y ys =>
          rw [Value.allSame, Bool.and_eq_true] at same
          exact .cons (ih x List.mem_cons_self same.1)
            (rest (fun x member => ih x (List.mem_cons_of_mem _ member)) ys same.2)
    | _ => simp [Value.isSame] at same
  | other v notTuple =>
    cases v <;> cases w <;>
      simp_all [Value.isSame, Equal, equal?, Value.equalWith, Value.asInt?]

/-- **Among values with keys, equality is equality of keys.** -/
theorem equal_iff_hashKey {k l : HashKey} (left : v.hashKey = .ok k) (right : w.hashKey = .ok l) :
    h.Equal v w ↔ k = l := by
  induction v using Value.tupleInduction generalizing w k l with
  | tuple xs ih =>
    obtain ⟨ks, rfl, xks⟩ := Value.hashKey_tuple_eq_ok_iff.1 left
    obtain ⟨atom, notTuple⟩ | ⟨ys, ls, rfl, rfl, yls⟩ := Value.hashKey_cases right
    · refine iff_of_false (fun equal => ?_) (Ne.symm (notTuple ks))
      obtain ⟨ys, rfl⟩ := equal.tuple_left
      cases atom
    · rw [equal_tuple_iff, HashKey.tuple.injEq]
      clear left right
      induction xks generalizing ys ls with
      | nil => cases yls <;> simp
      | @cons x key xs ks head _ rest =>
        cases yls with
        | nil => simp
        | cons head' tail' =>
          rw [List.forall₂_cons, ih x List.mem_cons_self head head', List.cons.injEq,
            rest (fun x member => ih x (List.mem_cons_of_mem _ member)) _ _ tail']
  | other v notTuple =>
    obtain ⟨atom, keyNotTuple⟩ | ⟨xs, _, rfl, _⟩ := Value.hashKey_cases left
    · rw [Equal, equal?, Value.equalWith_of_not_compound atom, left, right, Except.ok.injEq]
      refine ⟨And.right, fun same => ⟨?_, same⟩⟩
      obtain ⟨atom', _⟩ | ⟨_, ls, _, rfl, _⟩ := Value.hashKey_cases right
      · exact atom'
      · exact absurd same (keyNotTuple ls)
    · exact absurd rfl (notTuple xs)

/-- Numbers are equal if they count the same, bools among them. -/
theorem equal_iff_asInt? {m n : Int64} (left : v.asInt? = some m) (right : w.asInt? = some n) :
    h.Equal v w ↔ m = n := by
  cases v <;> simp only [Value.asInt?, reduceCtorEq] at left <;> cases w <;>
    simp only [Value.asInt?, reduceCtorEq] at right <;>
    simp_all [Equal, equal?, Value.equalWith, Value.asInt?]

/-- Whatever has no structure and is no number is equal to what it is
identical with. -/
theorem equal_iff_isSame (atom : v.isCompound = false) (notNumber : v.asInt? = none) :
    h.Equal v w ↔ v.isSame w = true := by
  cases v <;> simp only [Value.isCompound, Value.asInt?, reduceCtorEq] at atom notNumber <;>
    cases w <;> simp [Equal, equal?, Value.equalWith, Value.asInt?]

/-! ## Equality of regular values is an equivalence -/

theorem forall₂_flip_of_mem {related : Value → Value → Prop} {xs ys : List Value}
    (pairs : List.Forall₂ related xs ys)
    (flip : ∀ x ∈ xs, ∀ y ∈ ys, related x y → related y x) : List.Forall₂ related ys xs := by
  induction pairs with
  | nil => exact .nil
  | cons head _ ih =>
    exact .cons (flip _ List.mem_cons_self _ List.mem_cons_self head) (ih fun x hx y hy =>
      flip x (List.mem_cons_of_mem _ hx) y (List.mem_cons_of_mem _ hy))

theorem forall₂_trans_of_mem {related : Value → Value → Prop} {xs ys zs : List Value}
    (first : List.Forall₂ related xs ys) (second : List.Forall₂ related ys zs)
    (join : ∀ x ∈ xs, ∀ y ∈ ys, ∀ z ∈ zs, related x y → related y z → related x z) :
    List.Forall₂ related xs zs := by
  induction first generalizing zs with
  | nil => exact second
  | cons head _ ih =>
    cases second with
    | cons head' tail' =>
      refine .cons (join _ List.mem_cons_self _ List.mem_cons_self _ List.mem_cons_self head head')
        (ih tail' fun x hx y hy z hz => ?_)
      exact join x (List.mem_cons_of_mem _ hx) y (List.mem_cons_of_mem _ hy) z
        (List.mem_cons_of_mem _ hz)

/-- The value found in a dict stands inside it. -/
theorem inside_of_find? {id : DictId} {k : HashKey} {x : Value × Value}
    (regular : h.Regular (.dict id)) (found : (h.dict id).find? k = some x) :
    (k, x) ∈ (h.dict id).entries :=
  (Table.find?_eq_some_iff (regular.dict id .refl).nodup).1 found

theorem Regular.equal_symm (regular : h.Regular v) :
    ∀ w, h.Regular w → h.Equal v w → h.Equal w v := by
  induction regular using Regular.induct with
  | tuple items regular ih =>
    intro w other equal
    cases regular.equal_iff.1 equal with
    | atom left => cases left
    | tuple pairs =>
      exact equal_tuple_iff.2 (forall₂_flip_of_mem pairs fun x hx y hy =>
        ih x hx y (other.of_inside hy))
  | list a regular ih =>
    intro w other equal
    cases regular.equal_iff.1 equal with
    | atom left => cases left
    | list pairs =>
      exact other.equal_list_iff.2 (forall₂_flip_of_mem pairs fun x hx y hy =>
        ih x hx y (other.of_inside hy))
  | dict a regular ih =>
    intro w other equal
    cases regular.equal_iff.1 equal with
    | atom left => cases left
    | dict keys values =>
      refine other.equal_dict_iff.2 ⟨keys.symm, fun k y x right left => ?_⟩
      have stored := inside_of_find? regular left
      have stored' := inside_of_find? other right
      exact ih _ stored _ (other.of_inside (inside_dict stored')) (values k x y left right)
  | set a regular =>
    intro w other equal
    cases regular.equal_iff.1 equal with
    | atom left => cases left
    | set keys => exact other.equal_set_iff.2 keys.symm
  | atom v regular atom =>
    intro w other equal
    obtain ⟨atom', key⟩ := (Value.equalWith_of_not_compound atom).1 equal
    exact (Value.equalWith_of_not_compound atom').2 ⟨atom, key.symm⟩

theorem Regular.equal_trans (regular : h.Regular v) : ∀ w u, h.Regular w → h.Regular u →
    h.Equal v w → h.Equal w u → h.Equal v u := by
  induction regular using Regular.induct with
  | tuple items regular ih =>
    intro w u middle last first second
    cases regular.equal_iff.1 first with
    | atom left => cases left
    | tuple pairs =>
      cases middle.equal_iff.1 second with
      | atom left => cases left
      | tuple pairs' =>
        exact equal_tuple_iff.2 (forall₂_trans_of_mem pairs pairs' fun x hx y hy z hz =>
          ih x hx y z (middle.of_inside hy) (last.of_inside hz))
  | list a regular ih =>
    intro w u middle last first second
    cases regular.equal_iff.1 first with
    | atom left => cases left
    | list pairs =>
      cases middle.equal_iff.1 second with
      | atom left => cases left
      | list pairs' =>
        exact regular.equal_list_iff.2 (forall₂_trans_of_mem pairs pairs' fun x hx y hy z hz =>
          ih x hx y z (middle.of_inside hy) (last.of_inside hz))
  | dict a regular ih =>
    intro w u middle last first second
    cases regular.equal_iff.1 first with
    | atom left => cases left
    | @dict a b keys values =>
      cases middle.equal_iff.1 second with
      | atom left => cases left
      | @dict b c keys' values' =>
        refine regular.equal_dict_iff.2 ⟨keys.trans keys', fun k x z left right => ?_⟩
        have stored := inside_of_find? regular left
        -- The key leads to an entry of the dict between the two.
        obtain ⟨y, stored'⟩ := Table.mem_keys_iff.1
          (keys.mem_iff.1 (Table.mem_keys_of_mem stored))
        have found := (Table.find?_eq_some_iff (middle.dict b .refl).nodup).2 stored'
        exact ih _ stored _ _ (middle.of_inside (inside_dict stored'))
          (last.of_inside (inside_dict (inside_of_find? last right)))
          (values k x y left found) (values' k y z found right)
  | set a regular =>
    intro w u middle last first second
    cases regular.equal_iff.1 first with
    | atom left => cases left
    | set keys =>
      cases middle.equal_iff.1 second with
      | atom left => cases left
      | set keys' => exact regular.equal_set_iff.2 (keys.trans keys')
  | atom v regular atom =>
    intro w u middle last first second
    obtain ⟨atom', key⟩ := (Value.equalWith_of_not_compound atom).1 first
    obtain ⟨atom'', key'⟩ := (Value.equalWith_of_not_compound atom').1 second
    exact (Value.equalWith_of_not_compound atom).2 ⟨atom'', key.trans key'⟩

/-- The test gives the same answer either way round. -/
theorem Regular.equal?_comm (regular : h.Regular v) (other : h.Regular w) :
    h.equal? v w = h.equal? w v := by
  obtain ⟨answer, forth⟩ := Option.isSome_iff_exists.1 (regular.equal?_isSome w)
  obtain ⟨answer', back⟩ := Option.isSome_iff_exists.1 (other.equal?_isSome v)
  have same : h.Equal v w ↔ h.Equal w v :=
    ⟨regular.equal_symm w other, other.equal_symm v regular⟩
  rw [Equal, Equal, forth, back] at same
  rw [forth, back]
  cases answer <;> cases answer' <;> simp_all

/-! ## The whole -/

/-- **Equality, identity and keys are coherent** in a heap. -/
structure Coherence (h : Heap) : Prop where
  /-- Comparing regular values ends. -/
  decided : ∀ v w, h.Regular v → h.Regular w → ∃ answer, h.equal? v w = some answer
  /-- A value is equal to itself. -/
  reflexive : ∀ v, h.Regular v → h.Equal v v
  /-- The order of the two values does not matter. -/
  symmetric : ∀ v w, h.Regular v → h.Regular w → h.equal? v w = h.equal? w v
  /-- Values equal to one value are equal. -/
  transitive : ∀ v w u, h.Regular v → h.Regular w → h.Regular u →
    h.Equal v w → h.Equal w u → h.Equal v u
  /-- Identical values are equal. -/
  identity : ∀ v w, v.isSame w = true → h.Equal v w
  /-- There is no key exactly for containers and tuples that hold one. -/
  keyless : ∀ v : Value, (∃ why, v.hashKey = .error why) ↔ v.HoldsContainer
  /-- Among values with keys, equality is equality of keys. -/
  keys : ∀ v w k l, v.hashKey = .ok k → w.hashKey = .ok l → (h.Equal v w ↔ k = l)
  /-- Ints and bools are compared as numbers. -/
  numbers : ∀ v w m n, v.asInt? = some m → w.asInt? = some n → (h.Equal v w ↔ m = n)
  /-- What has no structure is equal to itself only. -/
  objects : ∀ v w, v.isCompound = false → v.asInt? = none →
    (h.Equal v w ↔ v.isSame w = true)

/-- **Equality is an equivalence that identity refines and keys decide**, in
every heap. -/
theorem equality_coherent (h : Heap) : h.Coherence where
  decided _ w regular _ := Option.isSome_iff_exists.1 (regular.equal?_isSome w)
  reflexive v _ := equal_refl h v
  symmetric _ _ regular other := regular.equal?_comm other
  transitive _ _ _ regular middle last := regular.equal_trans _ _ middle last
  identity _ _ same := equal_of_isSame same
  keyless v := v.exists_hashKey_error_iff
  keys _ _ _ _ left right := equal_iff_hashKey left right
  numbers _ _ _ _ left right := equal_iff_asInt? left right
  objects _ _ atom notNumber := equal_iff_isSame atom notNumber

end Heap

end MeteredScript
