import MeteredScript.Evaluation.Expression
import MeteredScript.Proofs.Augmented.Contents
import MeteredScript.Proofs.Equality.Layer
import MeteredScript.Proofs.SetAlgebra.Operator

/-!
# The laws of sets

Between two sets of a heap, an operator makes a new set and leaves everything
else as it is (`SetCombination`). What is in the new set is the truth table of
the operator; in which order, and which of two equal objects, is told by the
items that are kept and taken.

`==` does not see the order or the objects. Formulas of set operators are
therefore equal as soon as their truth tables are
(`SetFormula.agree_of_holds`), and each law of sets is a table with one line
for each combination of `true` and `false`.
-/

namespace MeteredScript

open Eval

/-! ## Sets of a heap -/

namespace Heap

/-- **A set of the heap with its table in order.** -/
structure SoundSet (h : Heap) (id : SetId) : Prop where
  /-- The set is there. -/
  has : h.Has (.set id)
  /-- Its table is sound. -/
  sound : (h.set id).Sound

/-- **A heap that others were added to**: every object that was there is still
there, with the same contents. -/
structure Grown (h h' : Heap) : Prop where
  /-- Objects stay. -/
  has {w : Value} : h.Has w → h'.Has w
  /-- Their contents stay. -/
  contents? {w : Value} : h.Has w → h'.contents? w = h.contents? w

/-- **Whether a set has an item**, as `in` says. Values without a key are in no
set. -/
def hasItem (h : Heap) (id : SetId) (x : Value) : Bool :=
  match contains h (.set id) x with
  | .ok inside => inside
  | .error _ => false

variable {h h' h'' : Heap} {a b : SetId}

theorem Grown.refl (h : Heap) : h.Grown h := ⟨id, fun _ => rfl⟩

theorem Grown.trans (first : h.Grown h') (second : h'.Grown h'') : h.Grown h'' where
  has present := second.has (first.has present)
  contents? present := (second.contents? (first.has present)).trans (first.contents? present)

theorem Grown.set_eq (grown : h.Grown h') (has : h.Has (.set a)) : h'.set a = h.set a :=
  Fresh.set.inj (Option.some.inj (grown.contents? has))

theorem SoundSet.grown (set : h.SoundSet a) (grown : h.Grown h') : h'.SoundSet a where
  has := grown.has set.has
  sound := grown.set_eq set.has ▸ set.sound

theorem grown_place (h : Heap) (c : Fresh) : h.Grown (h.place c).2 where
  has present := has_place present c
  contents? present := contents?_place present c

theorem contains_set_of_hashKey {x : Value} {k : HashKey} (hashed : x.hashKey = .ok k) :
    contains h (.set a) x = .ok ((h.set a).contains k) := by
  simp only [MeteredScript.contains, hashed]

theorem hasItem_of_hashKey {x : Value} {k : HashKey} (hashed : x.hashKey = .ok k) :
    h.hasItem a x = (h.set a).contains k := by
  rw [hasItem, contains_set_of_hashKey hashed]

/-- **Sets that have the same keys are equal.** -/
theorem equal_set_of_contains (left : (h.set a).Sound) (right : (h.set b).Sound)
    (same : ∀ k, (h.set a).contains k = (h.set b).contains k) : h.Equal (.set a) (.set b) := by
  refine (equal_set_iff left.nodup).2 ((List.perm_ext_iff_of_nodup left.nodup right.nodup).2 ?_)
  intro k
  rw [← Table.contains_iff, ← Table.contains_iff, same k]

end Heap

/-! ## One operator -/

namespace SetOperator

variable {m : Machine} {a b : SetId}

/-- **What an operator between two sets does**: it makes a new set, of which
this is everything there is to know. -/
structure Combination (op : SetOperator) (a b : SetId) (m : Machine) (id : SetId)
    (heap : Heap) : Prop where
  /-- It never fails, and changes nothing but the heap. -/
  run : (binaryValue op.operator (.set a) (.set b)).on m = (.ok (.set id), { m with heap })
  /-- The set was not there before. -/
  new : ¬ m.heap.Has (.set id)
  /-- Everything else is as before. -/
  grown : m.heap.Grown heap
  /-- The set is in order. -/
  sound : heap.SoundSet id
  /-- What is in it: for any value, what the truth table says of the two answers,
  or the refusal of the first if the value can be in no set. -/
  member (x : Value) : contains heap (.set id) x = (do
    let left ← contains m.heap (.set a) x
    let right ← contains m.heap (.set b) x
    return op.admits left right)
  /-- The order in which it is iterated: items of the left set in its order, then
  items of the right set in its order. -/
  order : Cursor.ofValue heap (.set id) = .ok (.items
    ((m.heap.set a).values.filter (fun x => op.keeps (m.heap.hasItem b x)) ++
      (m.heap.set b).values.filter fun x => op.takes (m.heap.hasItem a x)))
  /-- Which objects are in it: what the left set has too is an object of the left
  set. -/
  object {x : Value} : x ∈ (heap.set id).values → m.heap.hasItem a x = true →
    x ∈ (m.heap.set a).values

/-- The items of a sound table that are left by a test of their keys. -/
theorem values_filter {h : Heap} {t : ItemTable} (sound : t.Sound) (id : SetId)
    (keep : Bool → Bool) :
    (t.entries.filter fun e => keep ((h.set id).contains e.1)).map Prod.snd =
      t.values.filter fun x => keep (h.hasItem id x) := by
  rw [Table.values, List.filter_map]
  refine congrArg (List.map Prod.snd) (List.filter_congr fun e member => ?_)
  rw [Function.comp_apply, Heap.hasItem_of_hashKey (sound.keyed e member)]

theorem values_build {h : Heap} (op : SetOperator) (left : (h.set a).Sound)
    (right : (h.set b).Sound) : (op.build (h.set a) (h.set b)).values =
      (h.set a).values.filter (fun x => op.keeps (h.hasItem b x)) ++
        (h.set b).values.filter fun x => op.takes (h.hasItem a x) := by
  rw [Table.values, build, List.map_append, values_filter left, values_filter right]

/-- Nothing that the left set has is taken from the right one. -/
theorem takes_true (op : SetOperator) : op.takes true = false := rfl

/-- **Sets are combined for free**, into a new set. -/
theorem exists_built (op : SetOperator) (left : m.heap.SoundSet a) (right : m.heap.SoundSet b) :
    ∃ id heap, (binaryValue op.operator (.set a) (.set b)).on m = (.ok (.set id), { m with heap }) ∧
      ¬ m.heap.Has (.set id) ∧ m.heap.Grown heap ∧ heap.SoundSet id ∧
      heap.set id = op.build (m.heap.set a) (m.heap.set b) := by
  have combined := op.onSets?_operator (a := m.heap.set a) right.sound.nodup
  generalize op.build (m.heap.set a) (m.heap.set b) = t at combined
  have contents : (m.heap.newSet t).2.set (m.heap.newSet t).1 = t := Heap.set_newSet_self m.heap t
  refine ⟨(m.heap.newSet t).1, (m.heap.newSet t).2, ?_, Nat.lt_irrefl _,
    Heap.grown_place m.heap (.set t), ⟨?_, ?_⟩, contents⟩
  · have free : (chargeRepetition op.operator (.set a) (.set b)).on m = (.ok (), m) := by
      cases op <;> rfl
    have result : binaryResult m.heap op.operator (.set a) (.set b) = .ok (.set t) := by
      let placed (t : ItemTable) : Except Fault Fresh := .ok (.set t)
      cases op <;> exact congrArg placed (Option.some.inj combined)
    rw [binaryValue, on_bind_ok free, on_bind_ok (on_heap m), result,
      on_bind_ok (on_ofFault_ok m _), on_place]
    rfl
  · exact Nat.lt_of_lt_of_eq (Nat.lt_succ_self _) (Array.size_push _).symm
  · exact contents.symm ▸ left.sound.onSets? right.sound combined

theorem exists_combination (op : SetOperator) (left : m.heap.SoundSet a)
    (right : m.heap.SoundSet b) : ∃ id heap, op.Combination a b m id heap := by
  obtain ⟨id, heap, run, new, grown, sound, contents⟩ := op.exists_built left right
  have values := op.values_build left.sound right.sound
  refine ⟨id, heap, run, new, grown, sound, fun x => ?_, ?_, fun {x} member inLeft => ?_⟩
  · cases hashed : x.hashKey with
    | error why => simp only [contains, hashed, bind, Except.bind]
    | ok k =>
      simp only [Heap.contains_set_of_hashKey hashed, contents, contains_build]
      rfl
  · rw [Cursor.ofValue, contents, values]
  · rw [contents, values, List.mem_append] at member
    obtain kept | taken := member
    · exact List.mem_of_mem_filter kept
    · -- what is taken is not in the left set
      have absent := (List.mem_filter.1 taken).2
      rw [inLeft, takes_true] at absent
      cases absent

end SetOperator

/-! ## Formulas -/

/-- **A formula of set operators** over sets of the heap. -/
inductive SetFormula where
  | operand (id : SetId)
  | combined (left : SetFormula) (op : SetOperator) (right : SetFormula)

namespace SetFormula

/-- Compute a formula, from the left. -/
def eval : SetFormula → Eval Value
  | operand id => pure (.set id)
  | combined left op right => do
    let l ← left.eval
    binaryValue op.operator l (← right.eval)

/-- Compute two formulas and test whether they are equal. -/
def equals (ev : Evaluator) (f g : SetFormula) : Eval Bool := do
  let v ← f.eval
  linkHolds ev .eq v (← g.eval)

/-- Whether something is in the set of a formula, given which operands it is
in. -/
def holds (inside : SetId → Bool) : SetFormula → Bool
  | operand id => inside id
  | combined left op right => op.admits (left.holds inside) (right.holds inside)

/-- Whether the operands of a formula are sound sets. -/
def Sound (h : Heap) : SetFormula → Prop
  | operand id => h.SoundSet id
  | combined left _ right => left.Sound h ∧ right.Sound h

variable {m : Machine} {f g : SetFormula} {h h' : Heap}

theorem Sound.grown (sound : f.Sound h) (grown : h.Grown h') : f.Sound h' := by
  induction f with
  | operand id => exact Heap.SoundSet.grown sound grown
  | combined l op r left right => exact ⟨left sound.1, right sound.2⟩

/-- New objects are in nobody's operands. -/
theorem Sound.holds_congr (sound : f.Sound h) (grown : h.Grown h') (k : HashKey) :
    f.holds (fun id => (h'.set id).contains k) = f.holds fun id => (h.set id).contains k := by
  induction f with
  | operand id => exact congrArg (Table.contains · k) (grown.set_eq sound.has)
  | combined l op r left right => exact congrArg₂ op.admits (left sound.1) (right sound.2)

/-- **A formula computes the set that its truth table describes.** -/
theorem on_eval (sound : f.Sound m.heap) : ∃ id heap,
    f.eval.on m = (.ok (.set id), { m with heap }) ∧ m.heap.Grown heap ∧ heap.SoundSet id ∧
      ∀ k, (heap.set id).contains k = f.holds fun id => (m.heap.set id).contains k := by
  induction f generalizing m with
  | operand id => exact ⟨id, m.heap, rfl, .refl _, sound, fun _ => rfl⟩
  | combined l op r left right =>
    obtain ⟨a, h₁, leftRun, grown₁, soundA, inA⟩ := left sound.1
    obtain ⟨b, h₂, rightRun, grown₂, soundB, inB⟩ :=
      right (m := { m with heap := h₁ }) (sound.2.grown grown₁)
    obtain ⟨id, h₃, run, -, grown₃, soundC, contents⟩ :=
      op.exists_built (m := { m with heap := h₂ }) (soundA.grown grown₂) soundB
    refine ⟨id, h₃, ?_, (grown₁.trans grown₂).trans grown₃, soundC, fun k => ?_⟩
    · rw [eval, on_bind_ok leftRun, on_bind_ok rightRun, run]
    · rw [contents, op.contains_build, grown₂.set_eq soundA.has, inA, inB,
        sound.2.holds_congr grown₁]
      rfl

/-- **Two formulas are equal**: computed one after the other, their sets pass the
test `==`, and nothing but new sets is left behind. -/
def Agree (m : Machine) (f g : SetFormula) : Prop :=
  ∀ ev, ∃ heap, (f.equals ev g).on m = (.ok true, { m with heap }) ∧ m.heap.Grown heap

/-- **Formulas with the same truth table are equal.** -/
theorem agree_of_holds (left : f.Sound m.heap) (right : g.Sound m.heap)
    (same : ∀ inside, f.holds inside = g.holds inside) : Agree m f g := by
  intro ev
  obtain ⟨a, h₁, leftRun, grown₁, soundA, inA⟩ := on_eval left
  obtain ⟨b, h₂, rightRun, grown₂, soundB, inB⟩ :=
    on_eval (m := { m with heap := h₁ }) (right.grown grown₁)
  have equal : h₂.Equal (.set a) (.set b) := by
    refine Heap.equal_set_of_contains (soundA.grown grown₂).sound soundB.sound fun k => ?_
    rw [grown₂.set_eq soundA.has, inA, inB, right.holds_congr grown₁, same]
  refine ⟨h₂, ?_, grown₁.trans grown₂⟩
  have answer : related h₂ .eq (.set a) (.set b) = .ok true := congrArg answered equal
  rw [equals, on_bind_ok leftRun, on_bind_ok rightRun]
  exact congrArg (·, { m with heap := h₂ }) answer

end SetFormula

namespace SetOperator

variable {op : SetOperator}

theorem admits_comm (notDiff : op ≠ .diff) (x y : Bool) : op.admits x y = op.admits y x := by
  cases op with
  | diff => exact absurd rfl notDiff
  | union | inter | symmDiff => revert x y; decide

theorem admits_assoc (notDiff : op ≠ .diff) (x y z : Bool) :
    op.admits (op.admits x y) z = op.admits x (op.admits y z) := by
  cases op with
  | diff => exact absurd rfl notDiff
  | union | inter | symmDiff => revert x y z; decide

theorem admits_symmDiff (x y : Bool) :
    symmDiff.admits x y = diff.admits (union.admits x y) (inter.admits x y) := by
  revert x y
  decide

theorem admits_split (x y : Bool) :
    union.admits (diff.admits x y) (inter.admits x y) = x := by
  revert x y
  decide

end SetOperator

/-! ## The whole -/

open SetFormula (operand combined Agree)

/-- **The algebra of three sets.** -/
structure SetAlgebra (m : Machine) (a b c : SetId) : Prop where
  /-- Each operator makes a new set, with the items that are in either, in both,
  in the left only, in exactly one of the two. -/
  combination (op : SetOperator) : ∃ id heap, op.Combination a b m id heap
  /-- `|`, `&` and `^` are commutative -/
  commutative {op : SetOperator} : op ≠ .diff →
    Agree m (combined (operand a) op (operand b)) (combined (operand b) op (operand a))
  /-- and associative. -/
  associative {op : SetOperator} : op ≠ .diff →
    Agree m (combined (combined (operand a) op (operand b)) op (operand c))
      (combined (operand a) op (combined (operand b) op (operand c)))
  /-- `a ^ b` is `(a | b) - (a & b)`. -/
  exclusive : Agree m (combined (operand a) .symmDiff (operand b))
    (combined (combined (operand a) .union (operand b)) .diff
      (combined (operand a) .inter (operand b)))
  /-- `(a - b) | (a & b)` is `a`. -/
  split : Agree m
    (combined (combined (operand a) .diff (operand b)) .union
      (combined (operand a) .inter (operand b))) (operand a)

/-- **The operators on sets are the mathematical ones**, and keep an order. -/
theorem set_operators_form_an_algebra {m : Machine} {a b c : SetId} (first : m.heap.SoundSet a)
    (second : m.heap.SoundSet b) (third : m.heap.SoundSet c) : SetAlgebra m a b c where
  combination op := op.exists_combination first second
  commutative notDiff := SetFormula.agree_of_holds ⟨first, second⟩ ⟨second, first⟩ fun inside =>
    SetOperator.admits_comm notDiff (inside a) (inside b)
  associative notDiff := SetFormula.agree_of_holds ⟨⟨first, second⟩, third⟩
    ⟨first, second, third⟩ fun inside =>
      SetOperator.admits_assoc notDiff (inside a) (inside b) (inside c)
  exclusive := SetFormula.agree_of_holds ⟨first, second⟩ ⟨⟨first, second⟩, first, second⟩
    fun inside => SetOperator.admits_symmDiff (inside a) (inside b)
  split := SetFormula.agree_of_holds ⟨⟨first, second⟩, first, second⟩ first fun inside =>
    SetOperator.admits_split (inside a) (inside b)

/-- A machine with the sets `{1, 2}`, `{True, 3}` and `{3}`. -/
def Machine.threeSets : Machine :=
  { Machine.initial .standard with
    heap := ⟨#[], #[], #[⟨[(.int 1, .int 1), (.int 2, .int 2)]⟩,
      ⟨[(.int 1, .bool true), (.int 3, .int 3)]⟩, ⟨[(.int 3, .int 3)]⟩]⟩ }

/-- Three sets that share items pairwise, one of them in two spellings. -/
theorem three_sets_form_an_algebra :
    SetAlgebra Machine.threeSets ⟨0⟩ ⟨1⟩ ⟨2⟩ := by
  refine set_operators_form_an_algebra ⟨by decide, by decide, ?_⟩ ⟨by decide, by decide, ?_⟩
    ⟨by decide, by decide, ?_⟩
  all_goals simp [Machine.threeSets, Heap.set, Value.hashKey]

end MeteredScript
