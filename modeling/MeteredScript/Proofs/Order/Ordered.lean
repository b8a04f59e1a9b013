import Mathlib.Data.Ordering.Lemmas
import Mathlib.Data.String.Basic
import MeteredScript.Proofs.Equality.Matching

/-!
# What order is about

Like the equality test, the comparison that orders two values need not end,
and even where it ends there may be no order. `Heap.Ordered` says what the
order of two values is, without saying how it is found: numbers and strings
are ordered as such, sequences by the first items that do not match, and by
their lengths if there are none.

On all values of all heaps that is a strict order up to matching, as far as it
goes: there is at most one order of two values (`Ordered.unique`), the other
way round it is the reverse (`Ordered.swap`), matching values are ordered
alike (`Ordered.congr_left`), nothing but matching values is of equal rank
(`Ordered.eq_iff`), and of three values the order of the outer two follows
from that of the neighbours (`Ordered.trans_lt`). The last needs that they
have an order at all. For sequences it goes by where the first differences
are: the earlier one decides, and if they are at one position the items there
do.
-/

namespace MeteredScript

namespace Heap

variable {h : Heap} {v w u v' : Value} {o o' : Ordering}

/-! ## Matching values of each kind -/

theorem matches_iff_of_not_compound (atom : v.isCompound = false) :
    h.Matches v w ↔ w.isCompound = false ∧ v.hashKey = w.hashKey := by
  rw [matches_iff]
  constructor
  · intro layer
    cases layer with
    | atom _ right key => exact ⟨right, key⟩
    | tuple | list | dict | set => cases atom
  · rintro ⟨right, key⟩
    exact .atom atom right key

theorem hashKey_of_asInt? {n : Int64} (number : v.asInt? = some n) :
    v.isCompound = false ∧ v.hashKey = .ok (.int n) := by
  cases v <;> simp_all [Value.asInt?, Value.isCompound, Value.hashKey]

/-- What matches a number is the same number. -/
theorem Matches.asInt?_eq {n : Int64} (same : h.Matches v w) (number : v.asInt? = some n) :
    w.asInt? = some n := by
  obtain ⟨atom, key⟩ := hashKey_of_asInt? number
  obtain ⟨atom', key'⟩ := (matches_iff_of_not_compound atom).1 same
  rw [key] at key'
  cases w <;> simp_all [Value.isCompound, Value.asInt?, Value.hashKey]

theorem matches_iff_asInt? {m n : Int64} (left : v.asInt? = some m) (right : w.asInt? = some n) :
    h.Matches v w ↔ m = n := by
  obtain ⟨atom, key⟩ := hashKey_of_asInt? left
  obtain ⟨atom', key'⟩ := hashKey_of_asInt? right
  rw [matches_iff_of_not_compound atom, key, key']
  simp [atom']

/-- What matches a string is the same string. -/
theorem Matches.eq_str {s : String} (same : h.Matches (.str s) w) : w = .str s := by
  obtain ⟨atom, key⟩ := (matches_iff_of_not_compound rfl).1 same
  cases w <;> simp_all [Value.isCompound, Value.hashKey]

/-! ## Sequences -/

/-- **Two sequences of one kind** and their items. -/
inductive Sequences (h : Heap) : Value → Value → List Value → List Value → Prop
  | tuples (xs ys : List Value) : Sequences h (.tuple xs) (.tuple ys) xs ys
  | lists (a b : ListId) : Sequences h (.list a) (.list b) (h.list a).toList (h.list b).toList

/-- The items of two sequences match up to a position. -/
def Agree (h : Heap) (n : Nat) (xs ys : List Value) : Prop :=
  ∀ i < n, ∀ x y, xs[i]? = some x → ys[i]? = some y → h.Matches x y

variable {xs ys zs : List Value} {n i : Nat} {x y : Value}

theorem Agree.symm (agree : h.Agree n xs ys) : h.Agree n ys xs :=
  fun i bound x y left right => (agree i bound y x right left).symm

/-- Items that match up to the end of one sequence match as far as both go. -/
theorem Agree.whole (agree : h.Agree xs.length xs ys) (n : Nat) : h.Agree n xs ys :=
  fun i _ x y left right => agree i (List.getElem?_eq_some_iff.1 left).1 x y left right

theorem Agree.mono {m : Nat} (agree : h.Agree n xs ys) (le : m ≤ n) : h.Agree m xs ys :=
  fun i bound => agree i (bound.trans_le le)

/-- Agreement passes over a sequence that is long enough. -/
theorem Agree.trans (first : h.Agree n xs ys) (second : h.Agree n ys zs) (long : n ≤ ys.length) :
    h.Agree n xs zs := by
  intro i bound x z left right
  have between := List.getElem?_eq_getElem (bound.trans_le long)
  exact (first i bound x _ left between).trans (second i bound _ z between right)

theorem forall₂_matches_iff :
    List.Forall₂ h.Matches xs ys ↔ xs.length = ys.length ∧ h.Agree xs.length xs ys := by
  rw [List.forall₂_iff_get]
  refine and_congr_right fun _ =>
    ⟨fun all i bound x y left right => ?_, fun agree i left right => ?_⟩
  · obtain ⟨inside, rfl⟩ := List.getElem?_eq_some_iff.1 left
    obtain ⟨inside', rfl⟩ := List.getElem?_eq_some_iff.1 right
    exact all i inside inside'
  · exact agree i left _ _ (List.getElem?_eq_getElem left) (List.getElem?_eq_getElem right)

namespace Sequences

theorem symm (sequences : h.Sequences v w xs ys) : h.Sequences w v ys xs := by
  cases sequences with
  | tuples xs ys => exact .tuples ys xs
  | lists a b => exact .lists b a

/-- Two pairs with a sequence in common. -/
theorem join {ys' : List Value} (first : h.Sequences v w xs ys)
    (second : h.Sequences w u ys' zs) : ys' = ys ∧ h.Sequences v u xs zs := by
  cases first with
  | tuples xs ys => cases second with | tuples ys zs => exact ⟨rfl, .tuples xs zs⟩
  | lists a b => cases second with | lists b c => exact ⟨rfl, .lists a c⟩

theorem unique {xs' ys' : List Value} (first : h.Sequences v w xs ys)
    (second : h.Sequences v w xs' ys') : xs' = xs ∧ ys' = ys := by
  cases first <;> cases second <;> exact ⟨rfl, rfl⟩

theorem asInt?_eq_none (sequences : h.Sequences v w xs ys) : v.asInt? = none := by
  cases sequences <;> rfl

theorem ne_str (sequences : h.Sequences v w xs ys) (s : String) : v ≠ .str s := by
  cases sequences <;> simp

/-- Sequences match item by item. -/
theorem matches_iff (sequences : h.Sequences v w xs ys) :
    h.Matches v w ↔ List.Forall₂ h.Matches xs ys := by
  rw [Heap.matches_iff]
  cases sequences with
  | tuples xs ys =>
    refine ⟨fun layer => ?_, .tuple⟩
    cases layer with
    | tuple items => exact items
    | atom left => cases left
  | lists a b =>
    refine ⟨fun layer => ?_, .list⟩
    cases layer with
    | list items => exact items
    | atom left => cases left

/-- What matches a sequence is a sequence of the same kind. -/
theorem exists_of_matches (sequences : h.Sequences v w xs ys) (same : h.Matches v v') :
    ∃ xs', h.Sequences v' w xs' ys ∧ List.Forall₂ h.Matches xs xs' := by
  cases sequences with
  | tuples xs ys =>
    cases Heap.matches_iff.1 same with
    | tuple items => exact ⟨_, .tuples _ ys, items⟩
    | atom left => cases left
  | lists a b =>
    cases Heap.matches_iff.1 same with
    | list items => exact ⟨_, .lists _ b, items⟩
    | atom left => cases left

end Sequences

/-! ## The order -/

/-- **The order of two values**, where there is one. -/
inductive Ordered (h : Heap) : Value → Value → Ordering → Prop
  | numbers {v w : Value} {m n : Int64} (left : v.asInt? = some m) (right : w.asInt? = some n) :
    Ordered h v w (compare m.toInt n.toInt)
  | strings (s t : String) : Ordered h (.str s) (.str t) (compare s t)
  /-- The first items that do not match decide. -/
  | differ {v w x y : Value} {xs ys : List Value} {i : Nat} {o : Ordering}
    (sequences : h.Sequences v w xs ys) (agree : h.Agree i xs ys) (left : xs[i]? = some x)
    (right : ys[i]? = some y) (apart : ¬ h.Matches x y) (items : Ordered h x y o) :
    Ordered h v w o
  /-- If there are none, the lengths do. -/
  | lengths {v w : Value} {xs ys : List Value} (sequences : h.Sequences v w xs ys)
    (agree : h.Agree xs.length xs ys) : Ordered h v w (compare xs.length ys.length)

namespace Ordered

/-- **The other way round the order is the reverse.** -/
theorem swap (ordered : h.Ordered v w o) : h.Ordered w v o.swap := by
  induction ordered with
  | numbers left right => exact Std.OrientedOrd.eq_swap (α := Int) ▸ .numbers right left
  | strings s t => exact Std.OrientedOrd.eq_swap (α := String) ▸ .strings t s
  | differ sequences agree left right apart _ ih =>
    exact .differ sequences.symm agree.symm right left (fun same => apart same.symm) ih
  | lengths sequences agree =>
    exact Std.OrientedOrd.eq_swap (α := Nat) ▸ .lengths sequences.symm (agree.whole _).symm

/-- **Only matching values are of equal rank.** -/
theorem eq_iff (ordered : h.Ordered v w o) : o = .eq ↔ h.Matches v w := by
  induction ordered with
  | numbers left right =>
    rw [Std.compare_eq_iff_eq, Int64.toInt_inj, matches_iff_asInt? left right]
  | strings s t =>
    rw [Std.compare_eq_iff_eq]
    refine ⟨fun same => same ▸ Matches.refl h _, fun same => ?_⟩
    have := same.eq_str
    simp_all
  | @differ v w x y xs ys i o sequences agree left right apart _ ih =>
    refine iff_of_false (fun same => apart (ih.1 same)) fun same => apart ?_
    obtain ⟨-, all⟩ := forall₂_matches_iff.1 (sequences.matches_iff.1 same)
    exact all.whole (i + 1) i (Nat.lt_succ_self i) x y left right
  | lengths sequences agree =>
    rw [Std.compare_eq_iff_eq, sequences.matches_iff, forall₂_matches_iff]
    exact (and_iff_left agree).symm

/-- **There is at most one order of two values.** -/
theorem unique (ordered : h.Ordered v w o) (ordered' : h.Ordered v w o') : o = o' := by
  induction ordered generalizing o' with
  | numbers left right =>
    cases ordered' with
    | numbers left' right' =>
      rw [Option.some.inj (left.symm.trans left'), Option.some.inj (right.symm.trans right')]
    | strings => cases left
    | differ sequences | lengths sequences => simp [sequences.asInt?_eq_none] at left
  | strings s t =>
    cases ordered' with
    | numbers left => cases left
    | strings => rfl
    | differ sequences | lengths sequences => exact absurd rfl (sequences.ne_str s)
  | @differ v w x y xs ys i o sequences agree left right apart _ ih =>
    cases ordered' with
    | numbers left' => simp [sequences.asInt?_eq_none] at left'
    | strings => exact absurd rfl (sequences.ne_str _)
    | @differ _ _ x' y' _ _ j _ sequences' agree' left' right' apart' items' =>
      obtain ⟨rfl, rfl⟩ := sequences.unique sequences'
      rcases Nat.lt_trichotomy i j with before | rfl | after
      · exact absurd (agree' i before x y left right) apart
      · obtain rfl := Option.some.inj (left.symm.trans left')
        obtain rfl := Option.some.inj (right.symm.trans right')
        exact ih items'
      · exact absurd (agree j after x' y' left' right') apart'
    | lengths sequences' agree' =>
      obtain ⟨rfl, rfl⟩ := sequences.unique sequences'
      exact absurd (agree'.whole (i + 1) i (Nat.lt_succ_self i) x y left right) apart
  | @lengths v w xs ys sequences agree =>
    cases ordered' with
    | numbers left' => simp [sequences.asInt?_eq_none] at left'
    | strings => exact absurd rfl (sequences.ne_str _)
    | @differ _ _ x' y' _ _ j _ sequences' _ left' right' apart' _ =>
      obtain ⟨rfl, rfl⟩ := sequences.unique sequences'
      exact absurd (agree.whole (j + 1) j (Nat.lt_succ_self j) x' y' left' right') apart'
    | lengths sequences' _ =>
      obtain ⟨rfl, rfl⟩ := sequences.unique sequences'
      rfl

/-- **Matching values are ordered alike.** -/
theorem congr_left (ordered : h.Ordered v w o) (same : h.Matches v v') : h.Ordered v' w o := by
  induction ordered generalizing v' with
  | numbers left right => exact .numbers (same.asInt?_eq left) right
  | strings s t => exact same.eq_str ▸ .strings s t
  | @differ v w x y xs ys i o sequences agree left right apart _ ih =>
    obtain ⟨xs', sequences', items⟩ := sequences.exists_of_matches same
    obtain ⟨length, all⟩ := forall₂_matches_iff.1 items
    have inside := (List.getElem?_eq_some_iff.1 left).1
    have left' := List.getElem?_eq_getElem (length ▸ inside)
    have matched := all i inside x _ left left'
    exact .differ sequences' ((all.whole i).symm.trans agree inside.le) left' right
      (fun same => apart (matched.trans same)) (ih matched)
  | @lengths v w xs ys sequences agree =>
    obtain ⟨xs', sequences', items⟩ := sequences.exists_of_matches same
    obtain ⟨length, all⟩ := forall₂_matches_iff.1 items
    exact length ▸ .lengths sequences' (length ▸ all.symm.trans agree (le_refl _))

theorem congr_right (ordered : h.Ordered v w o) (same : h.Matches w v') : h.Ordered v v' o := by
  simpa using (ordered.swap.congr_left same).swap

/-! ### Three values -/

/-- Items that are in strict order decide, if all before them match. -/
theorem of_lt_at (sequences : h.Sequences v w xs ys) (agree : h.Agree i xs ys)
    (left : xs[i]? = some x) (right : ys[i]? = some y) (items : h.Ordered x y .lt) :
    h.Ordered v w .lt :=
  .differ sequences agree left right (fun same => nomatch items.eq_iff.2 same) items

/-- A sequence that ends before another one, with which it agrees, comes
first. -/
theorem of_shorter (sequences : h.Sequences v w xs ys) (agree : h.Agree xs.length xs ys)
    (shorter : xs.length < ys.length) : h.Ordered v w .lt :=
  compare_lt_iff_lt.2 shorter ▸ .lengths sequences agree

/-- **What comes before a value comes before all that come after it.** -/
theorem trans_lt (first : h.Ordered v w o) (second : h.Ordered w u o') (before : o = .lt)
    (after : o' = .lt) : h.Ordered v u .lt := by
  -- Both orders are variables, so that the induction can run through items of any order.
  induction first generalizing u o' with
  | numbers left right =>
    cases second with
    | numbers left' right' =>
      obtain rfl := Option.some.inj (right.symm.trans left')
      exact Std.TransCmp.lt_trans before after ▸ .numbers left right'
    | strings => cases right
    | differ sequences | lengths sequences => simp [sequences.asInt?_eq_none] at right
  | strings s t =>
    cases second with
    | numbers left => cases left
    | strings t r => exact Std.TransCmp.lt_trans before after ▸ .strings s r
    | differ sequences | lengths sequences => exact absurd rfl (sequences.ne_str t)
  | @differ v w x y xs ys i o sequences agree left right apart items ih =>
    subst before
    have inside := (List.getElem?_eq_some_iff.1 right).1
    cases second with
    | numbers left' => simp [sequences.symm.asInt?_eq_none] at left'
    | strings t r => exact absurd rfl (sequences.symm.ne_str t)
    | @differ _ _ y' z _ zs j _ sequences' agree' left' right' apart' items' =>
      subst after
      obtain ⟨rfl, ends⟩ := sequences.join sequences'
      -- Whichever difference comes first decides.
      rcases Nat.lt_trichotomy i j with first | rfl | second
      · have there := List.getElem?_eq_getElem (first.trans (List.getElem?_eq_some_iff.1 right').1)
        exact of_lt_at ends (agree.trans (agree'.mono first.le) inside.le) left there
          (items.congr_right (agree' i first y _ right there))
      · obtain rfl := Option.some.inj (right.symm.trans left')
        exact of_lt_at ends (agree.trans agree' inside.le) left right' (ih items' rfl rfl)
      · have there := List.getElem?_eq_getElem (second.trans (List.getElem?_eq_some_iff.1 left).1)
        exact of_lt_at ends ((agree.mono second.le).trans agree' (second.trans inside).le) there
          right' (items'.congr_left (agree j second _ y' there left').symm)
    | @lengths _ _ _ zs sequences' agree' =>
      obtain ⟨rfl, ends⟩ := sequences.join sequences'
      have shorter := compare_lt_iff_lt.1 after
      have there := List.getElem?_eq_getElem (inside.trans shorter)
      exact of_lt_at ends (agree.trans (agree'.whole i) inside.le) left there
        (items.congr_right (agree' i inside y _ right there))
  | @lengths v w xs ys sequences agree =>
    have shorter := compare_lt_iff_lt.1 before
    cases second with
    | numbers left' => simp [sequences.symm.asInt?_eq_none] at left'
    | strings t r => exact absurd rfl (sequences.symm.ne_str t)
    | @differ _ _ y z _ zs j _ sequences' agree' left' right' apart' items' =>
      subst after
      obtain ⟨rfl, ends⟩ := sequences.join sequences'
      have inside := (List.getElem?_eq_some_iff.1 left').1
      have inside' := (List.getElem?_eq_some_iff.1 right').1
      rcases Nat.lt_or_ge j xs.length with within | beyond
      · have there := List.getElem?_eq_getElem within
        exact of_lt_at ends ((agree.whole j).trans agree' inside.le) there right'
          (items'.congr_left (agree j within _ y there left').symm)
      · exact of_shorter ends (agree.trans (agree'.mono beyond) shorter.le)
          (beyond.trans_lt inside')
    | @lengths _ _ _ zs sequences' agree' =>
      obtain ⟨rfl, ends⟩ := sequences.join sequences'
      have shorter' := compare_lt_iff_lt.1 after
      exact of_shorter ends (agree.trans (agree'.whole _) shorter.le) (shorter.trans shorter')

/-- **Each of the three ways** to be ordered passes on from neighbours. -/
theorem trans (first : h.Ordered v w o) (second : h.Ordered w u o) : h.Ordered v u o := by
  cases o with
  | lt => exact first.trans_lt second rfl rfl
  | eq => exact first.congr_right (second.eq_iff.1 rfl)
  | gt => exact (second.swap.trans_lt first.swap rfl rfl).swap

end Ordered

end Heap

end MeteredScript
