import MeteredScript.Operation.Relation
import MeteredScript.Proofs.Order.Ordered

/-!
# Comparing values

What a comparison of two values can come to (`Heap.Verdict`): their order, a
`TypeError` where there is none, or no end. On regular values it ends. The
laws of the order (`Heap.Ordered`) then are laws of the operators `<`, `<=`,
`>` and `>=`, beside `==`, and `Heap.Partial` puts them together.

Sequences are compared by a loop that asks for equality first. For the loop it
is enough to look at tuples: lists are compared as the tuples of their items.
-/

namespace MeteredScript

namespace Heap

variable {h : Heap} {op : CompareOp} {v w : Value} {xs ys : List Value} {x y : Value}
  {o : Ordering}

/-! ## Sequences from the left -/

theorem agree_succ_cons {n : Nat} :
    h.Agree (n + 1) (x :: xs) (y :: ys) ↔ h.Matches x y ∧ h.Agree n xs ys := by
  constructor
  · intro agree
    exact ⟨agree 0 n.succ_pos x y rfl rfl, fun i bound a b left right =>
      agree (i + 1) (Nat.succ_lt_succ bound) a b left right⟩
  · rintro ⟨same, agree⟩ i bound a b left right
    cases i with
    | zero =>
      obtain rfl := Option.some.inj left
      obtain rfl := Option.some.inj right
      exact same
    | succ i => exact agree i (Nat.lt_of_succ_lt_succ bound) a b left right

/-- First items that match do not matter. -/
theorem ordered_cons_of_matches (same : h.Matches x y) :
    h.Ordered (.tuple (x :: xs)) (.tuple (y :: ys)) o ↔ h.Ordered (.tuple xs) (.tuple ys) o := by
  have lengths : compare (x :: xs).length (y :: ys).length = compare xs.length ys.length := by
    simp [Nat.compare_eq_ite_lt]
  constructor
  · intro ordered
    cases ordered with
    | numbers left => cases left
    | @differ _ _ a b _ _ i _ sequences agree left right apart items =>
      cases sequences
      cases i with
      | zero =>
        obtain rfl := Option.some.inj left
        obtain rfl := Option.some.inj right
        exact absurd same apart
      | succ i => exact .differ (.tuples xs ys) (agree_succ_cons.1 agree).2 left right apart items
    | lengths sequences agree =>
      cases sequences
      exact lengths ▸ .lengths (.tuples xs ys) (agree_succ_cons.1 agree).2
  · intro ordered
    cases ordered with
    | numbers left => cases left
    | @differ _ _ a b _ _ i _ sequences agree left right apart items =>
      cases sequences
      exact .differ (i := i + 1) (.tuples _ _) (agree_succ_cons.2 ⟨same, agree⟩) left right apart
        items
    | lengths sequences agree =>
      cases sequences
      exact lengths ▸ .lengths (.tuples (x :: xs) (y :: ys)) (agree_succ_cons.2 ⟨same, agree⟩)

/-- First items that do not match decide. -/
theorem ordered_cons_of_not_matches (apart : ¬ h.Matches x y) :
    h.Ordered (.tuple (x :: xs)) (.tuple (y :: ys)) o ↔ h.Ordered x y o := by
  constructor
  · intro ordered
    cases ordered with
    | numbers left => cases left
    | @differ _ _ a b _ _ i _ sequences agree left right _ items =>
      cases sequences
      cases i with
      | zero =>
        obtain rfl := Option.some.inj left
        obtain rfl := Option.some.inj right
        exact items
      | succ i => exact absurd (agree_succ_cons.1 agree).1 apart
    | lengths sequences agree =>
      cases sequences
      exact absurd (agree_succ_cons.1 agree).1 apart
  · intro ordered
    exact .differ (i := 0) (.tuples _ _) (fun i bound => absurd bound (Nat.not_lt_zero i)) rfl rfl
      apart ordered

/-- Lists are ordered as the tuples of their items. -/
theorem ordered_lists_iff {a b : ListId} :
    h.Ordered (.list a) (.list b) o ↔
      h.Ordered (.tuple (h.list a).toList) (.tuple (h.list b).toList) o := by
  constructor
  · intro ordered
    cases ordered with
    | numbers left => cases left
    | differ sequences agree left right apart items =>
      cases sequences
      exact .differ (.tuples _ _) agree left right apart items
    | lengths sequences agree =>
      cases sequences
      exact .lengths (.tuples _ _) agree
  · intro ordered
    cases ordered with
    | numbers left => cases left
    | differ sequences agree left right apart items =>
      cases sequences
      exact .differ (.lists a b) agree left right apart items
    | lengths sequences agree =>
      cases sequences
      exact .lengths (.lists a b) agree

/-! ## What a comparison comes to -/

/-- **What comparing two values can come to.** -/
inductive Verdict (h : Heap) (op : CompareOp) (v w : Value) : Except Stop Ordering → Prop
  | ordered {o : Ordering} (ordered : h.Ordered v w o) : Verdict h op v w (.ok o)
  /-- There is no order, and the report names two types. -/
  | unordered {left right : String} (none : ∀ o, ¬ h.Ordered v w o) :
    Verdict h op v w (.error (.fault (.typeFault (.ordering op left right))))
  | endless : Verdict h op v w (.error .endless)

theorem Verdict.congr {v' w' : Value} {r : Except Stop Ordering} (verdict : h.Verdict op v w r)
    (same : ∀ o, h.Ordered v' w' o ↔ h.Ordered v w o) : h.Verdict op v' w' r := by
  cases verdict with
  | ordered ordered => exact .ordered ((same _).2 ordered)
  | unordered none => exact .unordered fun o ordered => none o ((same o).1 ordered)
  | endless => exact .endless

theorem verdict_orderItemsWith {contents : ListId → ListId → Except Stop Ordering}
    (tidy : ∀ x ∈ xs, h.Tidy x)
    (items : ∀ x ∈ xs, ∀ y, h.Verdict op x y (x.orderWith h.equal? contents op y))
    (ys : List Value) :
    h.Verdict op (.tuple xs) (.tuple ys) (Value.orderItemsWith h.equal? contents op xs ys) := by
  induction xs generalizing ys with
  | nil =>
    have lengths := Ordered.lengths (h := h) (.tuples [] ys) (by simp [Agree])
    cases ys <;> exact .ordered lengths
  | cons x xs ih =>
    cases ys with
    | nil => exact .ordered (.lengths (.tuples (x :: xs) []) (by simp [Agree]))
    | cons y ys =>
      have decided (b : Bool) (answer : h.equal? x y = some b) : b = true ↔ h.Matches x y :=
        (tidy x List.mem_cons_self).equalWith_eq_some answer
      rw [Value.orderItemsWith]
      -- The loop asks for equality first, and equality, where it answers, is matching.
      cases answer : h.equal? x y with
      | none => exact .endless
      | some b =>
        cases b with
        | true =>
          have same : h.Matches x y := (decided true answer).1 rfl
          exact (ih (fun x member => tidy x (List.mem_cons_of_mem _ member))
            (fun x member => items x (List.mem_cons_of_mem _ member)) ys).congr
              fun o => ordered_cons_of_matches same
        | false =>
          have apart : ¬ h.Matches x y := fun same =>
            Bool.false_ne_true ((decided false answer).2 same)
          exact (items x List.mem_cons_self y).congr fun o => ordered_cons_of_not_matches apart

/-- Values have no order that are not both numbers, both strings or sequences
of one kind. -/
theorem Verdict.of_kinds {left right : String} (numbers : v.asInt? = none ∨ w.asInt? = none)
    (strings : ∀ s t, v = .str s → w ≠ .str t) (sequences : ∀ xs ys, ¬ h.Sequences v w xs ys) :
    h.Verdict op v w (.error (.fault (.typeFault (.ordering op left right)))) := by
  refine .unordered fun o ordered => ?_
  cases ordered with
  | numbers left right => simp [left, right] at numbers
  | strings s t => exact strings s t rfl rfl
  | differ pair | lengths pair => exact sequences _ _ pair

theorem verdict_orderWith {contents : ListId → ListId → Except Stop Ordering}
    (lists : ∀ a b, h.Tidy (.list a) → h.Verdict op (.list a) (.list b) (contents a b))
    (tidy : h.Tidy v) (w : Value) : h.Verdict op v w (v.orderWith h.equal? contents op w) := by
  induction v using Value.tupleInduction generalizing w with
  | tuple xs ih =>
    -- Tuples are compared here; the contents of lists are left to `contents`.
    have items := verdict_orderItemsWith (fun x inside => tidy.of_inside inside)
      fun x inside => ih x inside (tidy.of_inside inside)
    cases w with
    | tuple ys => exact items ys
    | _ => exact .of_kinds (.inl rfl) (by simp) (by rintro _ _ ⟨⟩)
  | other v notTuple =>
    match v with
    | .tuple items => exact absurd rfl (notTuple items)
    | .list a =>
      cases w with
      | list b => exact lists a b tidy
      | _ => exact .of_kinds (.inl rfl) (by simp) (by rintro _ _ ⟨⟩)
    | .str s =>
      cases w with
      | str t => exact .ordered (.strings s t)
      | _ => exact .of_kinds (.inl rfl) (by simp) (by rintro _ _ ⟨⟩)
    | .int _ | .bool _ =>
      cases w with
      | int _ | bool _ => exact .ordered (.numbers rfl rfl)
      | _ => exact .of_kinds (.inr rfl) (by simp) (by rintro _ _ ⟨⟩)
    | .none | .dict _ | .set _ | .generator .. | .function .. | .builtin _ | .method ..
    | .exceptionClass _ | .classObject .. | .exception .. =>
      cases w <;> exact .of_kinds (.inl rfl) (by simp) (by rintro _ _ ⟨⟩)

theorem verdict_listOrder (op : CompareOp) (depth : Nat) (a b : ListId) (tidy : h.Tidy (.list a)) :
    h.Verdict op (.list a) (.list b) (h.listOrder op depth a b) := by
  induction depth generalizing a b with
  | zero => exact .endless
  | succ depth ih =>
    refine (verdict_orderItemsWith (fun x inside => tidy.of_inside inside)
      (fun x inside => verdict_orderWith ih (tidy.of_inside inside)) _).congr
        fun o => ordered_lists_iff

/-- **Comparing two values comes to their order**, if it ends and there is
one. -/
theorem Tidy.verdict (tidy : h.Tidy v) (op : CompareOp) (w : Value) :
    h.Verdict op v w (h.order op v w) :=
  verdict_orderWith (verdict_listOrder op h.pairBound) tidy w

/-! ## The comparison of regular values ends -/

theorem orderItemsWith_ne_endless {contents : ListId → ListId → Except Stop Ordering}
    (decided : ∀ x ∈ xs, ∀ y, (h.equal? x y).isSome)
    (items : ∀ x ∈ xs, ∀ y, x.orderWith h.equal? contents op y ≠ .error .endless)
    (ys : List Value) : Value.orderItemsWith h.equal? contents op xs ys ≠ .error .endless := by
  induction xs generalizing ys with
  | nil => cases ys <;> simp [Value.orderItemsWith]
  | cons x xs ih =>
    cases ys with
    | nil => simp [Value.orderItemsWith]
    | cons y ys =>
      obtain ⟨answer, ends⟩ := Option.isSome_iff_exists.1 (decided x List.mem_cons_self y)
      rw [Value.orderItemsWith, ends]
      cases answer with
      | true =>
        exact ih (fun x member => decided x (List.mem_cons_of_mem _ member))
          (fun x member => items x (List.mem_cons_of_mem _ member)) ys
      | false => exact items x List.mem_cons_self y

/-- As with equality, a depth beyond the rank is never used up. -/
theorem Regular.orderWith_ne_endless (regular : h.Regular v) :
    ∀ {depth : Nat}, h.rank v < depth → ∀ w,
      v.orderWith h.equal? (h.listOrder op depth) op w ≠ .error .endless := by
  induction regular using Regular.induct with
  | tuple xs regular ih =>
    intro depth enough w
    cases w with
    | tuple ys =>
      exact orderItemsWith_ne_endless (fun x member => (regular.of_inside member).equal?_isSome)
        (fun x member => ih x member ((rank_le_of_inside member).trans_lt enough)) ys
    | _ => simp [Value.orderWith, Value.asInt?]
  | list a regular ih =>
    intro depth enough w
    obtain ⟨depth, rfl⟩ := Nat.exists_eq_succ_of_ne_zero (Nat.ne_zero_of_lt enough)
    cases w with
    | list b =>
      refine orderItemsWith_ne_endless (fun x member => (regular.of_inside member).equal?_isSome)
        (fun x member => ih x member ?_) _
      have less := regular.rank_lt_list member
      omega
    | _ => simp [Value.orderWith, Value.asInt?]
  | dict a regular | set a regular =>
    intro _ _ w
    cases w <;> simp [Value.orderWith, Value.asInt?]
  | atom v regular atom =>
    intro _ _ w
    cases v <;> simp only [Value.isCompound, Bool.true_eq_false] at atom <;> cases w <;>
      simp [Value.orderWith, Value.asInt?]

/-- **The order of regular values is found, if there is one.** -/
theorem Regular.order_eq_ok_iff (regular : h.Regular v) (op : CompareOp) :
    h.order op v w = .ok o ↔ h.Ordered v w o := by
  have ends : h.order op v w ≠ .error .endless := regular.orderWith_ne_endless rank_lt_pairBound w
  have verdict := regular.tidy.verdict op w
  generalize h.order op v w = r at ends verdict
  cases verdict with
  | ordered ordered =>
    exact ⟨fun same => Except.ok.inj same ▸ ordered,
      fun ordered' => by rw [ordered.unique ordered']⟩
  | unordered none => exact iff_of_false nofun (none o)
  | endless => exact absurd rfl ends

/-- Where there is none, that is reported. -/
theorem Regular.order_eq_error (regular : h.Regular v) (none : ∀ o, ¬ h.Ordered v w o)
    (op : CompareOp) :
    ∃ left right, h.order op v w = .error (.fault (.typeFault (.ordering op left right))) := by
  have ends : h.order op v w ≠ .error .endless := regular.orderWith_ne_endless rank_lt_pairBound w
  have verdict := regular.tidy.verdict op w
  generalize h.order op v w = r at ends verdict ⊢
  cases verdict with
  | ordered ordered => exact absurd ordered (none _)
  | unordered => exact ⟨_, _, rfl⟩
  | endless => exact absurd rfl ends

/-- A comparison of regular values fails exactly if they have no order. -/
theorem Regular.order_fails_iff (regular : h.Regular v) (op : CompareOp) :
    (∃ s, h.order op v w = .error s) ↔ ∀ o, ¬ h.Ordered v w o := by
  constructor
  · rintro ⟨s, fails⟩ o ordered
    rw [(regular.order_eq_ok_iff op).2 ordered] at fails
    cases fails
  · intro none
    obtain ⟨left, right, fails⟩ := regular.order_eq_error none op
    exact ⟨_, fails⟩

/-! ## The operators -/

/-- The operators that ask for an order. -/
def orderings : List CompareOp := [.lt, .le, .gt, .ge]

/-- An ordering operator that answers has found an order. -/
theorem exists_order_of_related {b : Bool} (ordering : op ∈ orderings)
    (answered : related h op v w = .ok b) : ∃ o, h.order op v w = .ok o := by
  cases found : h.order op v w with
  | ok o => exact ⟨o, rfl⟩
  | error s =>
    simp only [orderings, List.mem_cons, List.not_mem_nil, or_false] at ordering
    rcases ordering with rfl | rfl | rfl | rfl <;> simp [related, found] at answered

variable (h v w) in
/-- **The answers of the operators on two values**: exactly one of `<`, `==`
and `>` holds, and `<=` and `>=` follow. -/
structure Trichotomy (lt eq gt : Bool) : Prop where
  less : related h .lt v w = .ok lt
  equal : related h .eq v w = .ok eq
  greater : related h .gt v w = .ok gt
  one : [lt, eq, gt].count true = 1
  lessOrEqual : related h .le v w = .ok (lt || eq)
  greaterOrEqual : related h .ge v w = .ok !lt

theorem Regular.trichotomy (regular : h.Regular v) (ordered : h.Ordered v w o) :
    h.Trichotomy v w (o == .lt) (o == .eq) (o == .gt) := by
  have found (op : CompareOp) : h.order op v w = .ok o := (regular.order_eq_ok_iff op).2 ordered
  have equal : h.equal? v w = some (o == .eq) := by
    obtain ⟨answer, ends⟩ := Option.isSome_iff_exists.1 (regular.equal?_isSome w)
    have decides := (regular.tidy.equalWith_eq_some ends).trans ordered.eq_iff.symm
    rw [ends]
    cases answer <;> cases o <;> simp_all
  constructor
  case equal => rw [related, equal, answered]
  case one => cases o <;> rfl
  all_goals
    rw [related, found]
    cases o <;> rfl

/-! ## The whole -/

/-- **The order is partial and agrees with equality**, in a heap. The
operators `op` and `op'` are what a report mentions and change nothing
else. -/
structure Partial (h : Heap) : Prop where
  /-- Comparing two values ends with their order or with a `TypeError`. -/
  ends : ∀ op v w, h.Regular v → h.Regular w → (∃ o, h.order op v w = .ok o) ∨
    ∃ left right, h.order op v w = .error (.fault (.typeFault (.ordering op left right)))
  /-- The other way round it fails too, or has the reverse for a result. -/
  fails_reversed : ∀ op op' v w, h.Regular v → h.Regular w →
    ((∃ s, h.order op v w = .error s) ↔ ∃ s, h.order op' w v = .error s)
  reversed : ∀ op op' v w o o', h.Regular v → h.Regular w →
    h.order op v w = .ok o → h.order op' w v = .ok o' → o' = o.swap
  /-- Of equal rank are equal values only. -/
  equal : ∀ op v w o, h.Regular v → h.Regular w → h.order op v w = .ok o →
    (o = .eq ↔ h.Equal v w)
  /-- Equal values can take one another's place on either side. -/
  fails_replaced : ∀ op op' v v' w w', h.Regular v → h.Regular v' → h.Regular w → h.Regular w' →
    h.Equal v v' → h.Equal w w' →
    ((∃ s, h.order op v w = .error s) ↔ ∃ s, h.order op' v' w' = .error s)
  replaced : ∀ op op' v v' w w' o, h.Regular v → h.Regular v' → h.Regular w → h.Regular w' →
    h.Equal v v' → h.Equal w w' → (h.order op v w = .ok o ↔ h.order op' v' w' = .ok o)
  /-- The order of two values and of the second and a third puts the first and
  the third in order. -/
  transitive : ∀ op op' op'' u v w, h.Regular u → h.Regular v → h.Regular w →
    h.order op u v = .ok .lt → h.order op' v w = .ok .lt → h.order op'' u w = .ok .lt
  /-- If one of the operators answers all do, as they should. -/
  operators : ∀ op v w b, h.Regular v → h.Regular w → op ∈ orderings →
    related h op v w = .ok b → ∃ lt eq gt, h.Trichotomy v w lt eq gt

/-- **Comparing values is a partial order up to equality**, in every heap. -/
theorem order_is_partial (h : Heap) : h.Partial where
  ends op v w regular _ := by
    by_cases ordered : ∃ o, h.Ordered v w o
    · obtain ⟨o, ordered⟩ := ordered
      exact .inl ⟨o, (regular.order_eq_ok_iff op).2 ordered⟩
    · exact .inr (regular.order_eq_error (not_exists.1 ordered) op)
  fails_reversed op op' v w regular other := by
    rw [regular.order_fails_iff op, other.order_fails_iff op']
    exact ⟨fun none o ordered => none _ ordered.swap, fun none o ordered => none _ ordered.swap⟩
  reversed op op' v w o o' regular other forth back :=
    ((other.order_eq_ok_iff op').1 back).unique ((regular.order_eq_ok_iff op).1 forth).swap
  equal op v w o regular _ found :=
    ((regular.order_eq_ok_iff op).1 found).eq_iff.trans regular.equal_iff_matches.symm
  fails_replaced op op' v v' w w' left left' right _ same same' := by
    have matched := left.equal_iff_matches.1 same
    have matched' := right.equal_iff_matches.1 same'
    rw [left.order_fails_iff op, left'.order_fails_iff op']
    exact ⟨fun none o ordered =>
        none o ((ordered.congr_left matched.symm).congr_right matched'.symm),
      fun none o ordered => none o ((ordered.congr_left matched).congr_right matched')⟩
  replaced op op' v v' w w' o left left' right _ same same' := by
    have matched := left.equal_iff_matches.1 same
    have matched' := right.equal_iff_matches.1 same'
    rw [left.order_eq_ok_iff op, left'.order_eq_ok_iff op']
    exact ⟨fun ordered => (ordered.congr_left matched).congr_right matched',
      fun ordered => (ordered.congr_left matched.symm).congr_right matched'.symm⟩
  transitive op op' op'' u v w first second _ before after :=
    (first.order_eq_ok_iff op'').2 (((first.order_eq_ok_iff op).1 before).trans_lt
      ((second.order_eq_ok_iff op').1 after) rfl rfl)
  operators op v w b regular _ ordering answers := by
    obtain ⟨o, found⟩ := exists_order_of_related ordering answers
    exact ⟨_, _, _, regular.trichotomy ((regular.order_eq_ok_iff op).1 found)⟩

end Heap

end MeteredScript
