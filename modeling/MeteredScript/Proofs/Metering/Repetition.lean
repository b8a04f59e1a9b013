import MeteredScript.Proofs.Augmented.Commit
import MeteredScript.Proofs.Metering.Size

/-!
# Repetitions

A string, list or tuple times a number is measured, paid for and built by different parts of
the evaluation: `repeatLength` says how long the result will be, `chargeRepetition` and
`repeatInPlace` charge for it, `binaryResult` builds a fresh sequence and `repeatInPlace` changes
a list. `Repeats` says without any of them which two values make a repetition, in which order,
and of which length. `repetition_is_consistent` measures all of them by it.

Lengths are numbers without a bound here. `repetitionLength_eq_checked` says that a product
which is computed in machine words, and refused where it does not fit into one, makes no
difference.
-/

namespace MeteredScript

open Eval

variable {α : Type} {ev : Evaluator} {scope : ScopeId} {m n : Machine} {h : Heap} {l r v : Value}

/-! ## What is repeated -/

/-- **A sequence to be repeated**: how long it is, what it is called, and the number that it is
multiplied by. -/
structure Repetition where
  /-- The sequence. -/
  sequence : Value
  /-- Its length. -/
  length : Nat
  /-- What a report calls it. -/
  what : String
  /-- The number. -/
  count : Int

namespace Repetition

/-- How many copies that makes. A negative number makes none. -/
def copies (p : Repetition) : Nat := (max p.count 0).toNat

/-- How long the result is. -/
def total (p : Repetition) : Nat := p.length * p.copies

/-- The `OverflowError` that refuses it. -/
def refusal (p : Repetition) : Fault :=
  .raised ⟨.overflowError, some ("repeated " ++ p.what ++ " is too long"), .none⟩

end Repetition

/-- A sequence, its length and what it is called. Strings are measured in bytes. -/
inductive Measure (h : Heap) : Value → Nat → String → Prop
  | str (s : String) : Measure h (.str s) s.utf8ByteSize "string"
  | list (id : ListId) : Measure h (.list id) (h.list id).size "list"
  | tuple (items : List Value) : Measure h (.tuple items) items.length "tuple"

/-- A number, which may be a bool. -/
inductive Number : Value → Int → Prop
  | int (n : Int64) : Number (.int n) n.toInt
  | bool (b : Bool) : Number (.bool b) (if b then 1 else 0)

/-- **Two operands make a repetition** if one is a sequence and the other one a number. -/
inductive Repeats (h : Heap) : Value → Value → Repetition → Prop
  | sequenceFirst {v c : Value} {length : Nat} {what : String} {count : Int}
    (measure : Measure h v length what) (number : Number c count) :
    Repeats h v c ⟨v, length, what, count⟩
  | numberFirst {v c : Value} {length : Nat} {what : String} {count : Int}
    (number : Number c count) (measure : Measure h v length what) :
    Repeats h c v ⟨v, length, what, count⟩

variable {length : Nat} {what : String} {count : Int}

theorem measure_iff : Measure h v length what ↔ v.repeatable? h = some (length, what) := by
  constructor
  · rintro (_ | _ | _) <;> rfl
  · intro hv
    cases v with
    | str s => cases hv; exact .str s
    | list id => cases hv; exact .list id
    | tuple items => cases hv; exact .tuple items
    | _ => cases hv

theorem number_iff : Number v count ↔ ∃ n, v.asInt? = some n ∧ n.toInt = count := by
  constructor
  · rintro (n | b)
    · exact ⟨n, rfl, rfl⟩
    · exact ⟨_, rfl, by cases b <;> rfl⟩
  · rintro ⟨n, hv, rfl⟩
    cases v with
    | int n' => cases hv; exact .int n
    | bool b =>
      cases hv
      have hcount : (if b then 1 else 0 : Int64).toInt = if b then 1 else 0 := by cases b <;> rfl
      rw [hcount]
      exact .bool b
    | _ => cases hv

/-- No sequence is a number. -/
theorem Measure.asInt?_eq_none (hv : Measure h v length what) : v.asInt? = none := by
  cases hv <;> rfl

theorem copies_eq (n : Int64) : copies n = (max n.toInt 0).toNat := by
  rw [copies]
  omega

/-! ## Measuring -/

/-- The length of a repetition where the product has to fit into a machine word. -/
def checkedLength (length : Nat) (what : String) (count : Int64) : Except Fault Nat :=
  if UInt64.size ≤ length * copies count then .error (.repetitionTooLong what)
  else if length * copies count ≤ maxLength then .ok (length * copies count)
  else .error (.repetitionTooLong what)

/-- **A product that does not fit into a machine word is too long anyway.** -/
theorem repetitionLength_eq_checked (length : Nat) (what : String) (count : Int64) :
    repetitionLength length what count = checkedLength length what count := by
  have hsize : maxLength < UInt64.size := by decide
  unfold repetitionLength checkedLength
  split
  · rw [if_neg (by omega)]
  · split <;> rfl

theorem repetitionLength_eq (length : Nat) (what : String) (n : Int64) (v : Value) :
    let p : Repetition := ⟨v, length, what, n.toInt⟩
    repetitionLength length what n =
      if p.total ≤ 2 ^ 32 then .ok p.total else .error p.refusal := by
  have htotal : (⟨v, length, what, n.toInt⟩ : Repetition).total = length * copies n := by
    rw [Repetition.total, Repetition.copies, copies_eq]
  dsimp only
  rw [htotal]
  rfl

/-- **How long a repetition will be.** -/
theorem repeatLength_of_repeats {p : Repetition} (hp : Repeats h l r p) :
    repeatLength h .mul l r =
      if p.total ≤ 2 ^ 32 then .ok (some p.total) else .error p.refusal := by
  have hlength : ∀ (n : Int64), n.toInt = p.count →
      some <$> repetitionLength p.length p.what n =
        if p.total ≤ 2 ^ 32 then .ok (some p.total) else .error p.refusal := by
    intro n hn
    rw [repetitionLength_eq p.length p.what n p.sequence, hn]
    split <;> rfl
  cases hp with
  | sequenceFirst measure number =>
    obtain ⟨n, hc, hn⟩ := number_iff.1 number
    rw [← hlength n hn]
    simp [repeatLength, measure_iff.1 measure, hc]
  | numberFirst number measure =>
    obtain ⟨n, hc, hn⟩ := number_iff.1 number
    rw [← hlength n hn]
    simp [repeatLength, measure_iff.1 measure, hc, repeatable?_of_asInt? hc]

/-- Nothing else has a length. -/
theorem repeatLength_of_not_repeats (hp : ∀ p, ¬ Repeats h l r p) :
    repeatLength h .mul l r = .ok none := by
  rw [repeatLength, if_neg (by simp)]
  split
  · rename_i hl hr
    exact absurd (.sequenceFirst (measure_iff.2 hl) (number_iff.2 ⟨_, hr, rfl⟩)) (hp _)
  · rename_i hr hl _
    exact absurd (.numberFirst (number_iff.2 ⟨_, hl, rfl⟩) (measure_iff.2 hr)) (hp _)
  · rfl

/-- What has a length, or too great a one, is a repetition. -/
theorem repeats_of_measured (hlength : repeatLength h .mul l r ≠ .ok none) :
    ∃ p, Repeats h l r p ∧ repeatLength h .mul l r =
      if p.total ≤ 2 ^ 32 then .ok (some p.total) else .error p.refusal := by
  by_cases hp : ∃ p, Repeats h l r p
  · obtain ⟨p, hp⟩ := hp
    exact ⟨p, hp, repeatLength_of_repeats hp⟩
  · exact absurd (repeatLength_of_not_repeats fun p => not_exists.1 hp p) hlength

/-! ## Building -/

/-- **A result that is so many copies of a sequence**, one after another. -/
inductive Copied (h : Heap) (copies : Nat) : Value → Fresh → Prop
  | str {s t : String} (same : t.toList = (List.replicate copies s.toList).flatten) :
    Copied h copies (.str s) (.value (.str t))
  | list {id : ListId} {items : Array Value}
    (same : items.toList = (List.replicate copies (h.list id).toList).flatten) :
    Copied h copies (.list id) (.list items)
  | tuple {items items' : List Value} (same : items' = (List.replicate copies items).flatten) :
    Copied h copies (.tuple items) (.value (.tuple items'))

/-- **A repetition that is built**: so many copies of the sequence, and as long as it was said
to be. -/
structure Repetition.Builds (p : Repetition) (h : Heap) (c : Fresh) : Prop where
  copied : Copied h p.copies p.sequence c
  size : c.size? h = some p.total

theorem toList_join (strings : List String) :
    (String.join strings).toList = (strings.map String.toList).flatten := by
  induction strings with
  | nil => rfl
  | cons s strings ih => rw [String.join_cons, String.toList_append, ih]; rfl

theorem toList_repeatString (count : Nat) (s : String) :
    (repeatString count s).toList = (List.replicate count s.toList).flatten := by
  unfold repeatString
  split
  · rename_i hempty
    rw [String.isEmpty_iff.1 hempty]
    simp
  · rw [toList_join, List.map_replicate]

/-- What a sequence is repeated to. -/
theorem repeated_builds (measure : Measure h v length what) (n : Int64) :
    ∃ c, v.repeated? h n = some c ∧ Repetition.Builds ⟨v, length, what, n.toInt⟩ h c := by
  have hcopies : (⟨v, length, what, n.toInt⟩ : Repetition).copies = copies n := (copies_eq n).symm
  have hsize {c : Fresh} (hc : v.repeated? h n = some c) :
      c.size? h = some (⟨v, length, what, n.toInt⟩ : Repetition).total := by
    obtain ⟨length', what', hv, hsize⟩ := size?_of_repeated? hc
    rw [measure_iff.1 measure] at hv
    cases hv
    rw [hsize, Repetition.total, hcopies]
  suffices hbuilt : ∃ c, v.repeated? h n = some c ∧ Copied h (copies n) v c by
    obtain ⟨c, hc, copied⟩ := hbuilt
    exact ⟨c, hc, hcopies ▸ copied, hsize hc⟩
  cases measure with
  | str s => exact ⟨_, rfl, .str (toList_repeatString _ s)⟩
  | list id => exact ⟨_, rfl, .list (repeatList_eq_flatten _ _)⟩
  | tuple items => exact ⟨_, rfl, .tuple (repeatList_eq_flatten _ _)⟩

theorem product_builds {p : Repetition} (hp : Repeats h l r p) :
    ∃ c, product? h l r = some c ∧ p.Builds h c := by
  cases hp with
  | sequenceFirst measure number =>
    obtain ⟨n, hc, rfl⟩ := number_iff.1 number
    obtain ⟨c, hbuilt, builds⟩ := repeated_builds measure n
    exact ⟨c, by rw [product?, hc, measure.asInt?_eq_none]; exact hbuilt, builds⟩
  | numberFirst number measure =>
    obtain ⟨n, hc, rfl⟩ := number_iff.1 number
    obtain ⟨c, hbuilt, builds⟩ := repeated_builds measure n
    exact ⟨c, by rw [product?, hc, measure.asInt?_eq_none]; exact hbuilt, builds⟩

/-- A list is repeated to the items of a list. -/
theorem Repetition.Builds.fits {p : Repetition} {id : ListId} {c : Fresh} (builds : p.Builds h c)
    (hp : Repeats h (.list id) r p) : c.Fits (.list id) := by
  have copied := builds.copied
  cases hp with
  | numberFirst number measure => cases number
  | sequenceFirst measure number =>
    cases copied
    trivial

/-- What the operator makes of a repetition is told by its length. -/
theorem binaryResult_of_repeats {p : Repetition} (hp : Repeats h l r p) :
    binaryResult h .mul l r = (do
      let _ ← repeatLength h .mul l r
      match product? h l r with
      | some result => return result
      | none => throw (operandsFault BinaryOp.mul.symbol l r)) := by
  have hcombine : combine? h .mul l r = product? h l r := by simp [combine?]
  rw [← hcombine]
  unfold binaryResult
  split
  · rename_i ha hb
    -- one of the two is a sequence, and so no number
    cases hp with
    | sequenceFirst measure number => rw [measure.asInt?_eq_none] at ha; cases ha
    | numberFirst number measure => rw [measure.asInt?_eq_none] at hb; cases hb
  · rfl

/-- **A repetition that is not too long is built.** -/
theorem binaryResult_of_le {p : Repetition} (hp : Repeats h l r p) (fits : p.total ≤ 2 ^ 32) :
    ∃ c, binaryResult h .mul l r = .ok c ∧ p.Builds h c := by
  obtain ⟨c, hc, builds⟩ := product_builds hp
  refine ⟨c, ?_, builds⟩
  rw [binaryResult_of_repeats hp, repeatLength_of_repeats hp, if_pos fits, hc]
  rfl

/-- One that is too long is refused. -/
theorem binaryResult_of_lt {p : Repetition} (hp : Repeats h l r p) (long : 2 ^ 32 < p.total) :
    binaryResult h .mul l r = .error p.refusal := by
  rw [binaryResult_of_repeats hp, repeatLength_of_repeats hp, if_neg (Nat.not_le.2 long)]
  rfl

/-! ## Paying -/

/-- **What is done once an amount of gas was charged.** Where the limit is exceeded nothing is
done and only the gas has changed. -/
def Machine.paying (m : Machine) (amount : Nat)
    (rest : Machine → Except Stop α × Machine) : Except Stop α × Machine :=
  let paid := { m with gas := min (m.gas + amount) gasCeiling }
  if m.config.gasLimit < paid.gas then (.error .gasExhausted, paid) else rest paid

theorem on_charge_eq_paying (amount : Nat) (m : Machine) :
    (charge amount).on m = m.paying amount fun paid => (.ok (), paid) := by
  rw [on_charge, Machine.paying]
  dsimp only
  split <;> rfl

/-- What follows on something that is paid for follows where the payment did not fail. -/
theorem on_bind_paying {β : Type} {x : Eval β} {f : β → Eval α} {amount : Nat}
    {rest : Machine → Except Stop β × Machine} (paid : x.on m = m.paying amount rest) :
    (x >>= f).on m = m.paying amount fun n =>
      match rest n with
      | (.ok b, n) => (f b).on n
      | (.error s, n) => (.error s, n) := by
  rw [on_bind, paid, Machine.paying, Machine.paying]
  dsimp only
  by_cases beyond : m.config.gasLimit < min (m.gas + amount) gasCeiling
  · rw [if_pos beyond, if_pos beyond]
  · rw [if_neg beyond]
    exact (if_neg beyond).symm

theorem on_charge_bind (amount : Nat) (f : Unit → Eval α) (m : Machine) :
    (charge amount >>= f).on m = m.paying amount fun paid => (f ()).on paid :=
  on_bind_paying (on_charge_eq_paying amount m)

namespace Machine

variable {amount : Nat} {rest rest' : Machine → Except Stop α × Machine}

/-- Only what is done on the machine that has paid is of interest. -/
theorem paying_congr
    (same : rest { m with gas := min (m.gas + amount) gasCeiling } =
      rest' { m with gas := min (m.gas + amount) gasCeiling }) :
    m.paying amount rest = m.paying amount rest' := by
  unfold paying
  dsimp only
  rw [same]

end Machine

variable {p : Repetition}

/-- **A fresh repetition is paid for by its length before it is built.** -/
theorem binaryValue_of_le (hp : Repeats m.heap l r p) (fits : p.total ≤ 2 ^ 32) :
    ∃ c, p.Builds m.heap c ∧ (binaryValue .mul l r).on m = m.paying p.total fun paid =>
      (.ok (paid.heap.place c).1, { paid with heap := (paid.heap.place c).2 }) := by
  obtain ⟨c, hc, builds⟩ := binaryResult_of_le hp fits
  refine ⟨c, builds, ?_⟩
  rw [binaryValue, chargeRepetition, bind_assoc, on_bind_ok (on_heap m),
    repeatLength_of_repeats hp, if_pos fits, bind_assoc, on_bind_ok (on_ofFault_ok m _)]
  dsimp only
  rw [on_charge_bind]
  refine Machine.paying_congr ?_
  rw [on_bind_ok (on_heap _)]
  dsimp only
  rw [hc, on_bind_ok (on_ofFault_ok _ c), on_place]

/-- One that is too long is refused before that. -/
theorem binaryValue_of_lt (hp : Repeats m.heap l r p) (long : 2 ^ 32 < p.total) :
    (binaryValue .mul l r).on m = (.error (.fault p.refusal), m) := by
  rw [binaryValue, chargeRepetition, bind_assoc, on_bind_ok (on_heap m),
    repeatLength_of_repeats hp, if_neg (Nat.not_le.2 long)]
  exact on_bind_error (on_ofFault_error m _) _

/-- **A list that is repeated in place is paid for in the same way.** -/
theorem repeatInPlace_of_le {id : ListId} (hp : Repeats m.heap (.list id) r p)
    (fits : p.total ≤ 2 ^ 32) :
    ∃ c, p.Builds m.heap c ∧ (repeatInPlace id r).on m = m.paying p.total fun paid =>
      (.ok (), { paid with heap := paid.heap.refill (.list id) c }) := by
  obtain ⟨c, hc, builds⟩ := product_builds hp
  have hlength := repeatLength_of_repeats hp
  rw [if_pos fits] at hlength
  cases hp with
  | numberFirst number measure => cases number
  | sequenceFirst measure number =>
    obtain ⟨n, hn, -⟩ := number_iff.1 number
    obtain rfl : c = .list (repeatList (copies n) (m.heap.list id).toList).toArray := by
      rw [product?, hn] at hc
      exact (Option.some.inj hc).symm
    refine ⟨_, builds, ?_⟩
    rw [repeatInPlace, hn]
    dsimp only
    rw [on_bind_ok (on_heap m), hlength, on_bind_ok (on_ofFault_ok m _), on_charge_bind]
    refine Machine.paying_congr ?_
    rw [on_modifyHeap, Heap.modifyList_eq_refill]

theorem repeatInPlace_of_lt {id : ListId} (hp : Repeats m.heap (.list id) r p)
    (long : 2 ^ 32 < p.total) :
    (repeatInPlace id r).on m = (.error (.fault p.refusal), m) := by
  have hlength := repeatLength_of_repeats hp
  rw [if_neg (Nat.not_le.2 long)] at hlength
  cases hp with
  | numberFirst number measure => cases number
  | sequenceFirst measure number =>
    obtain ⟨n, hn, -⟩ := number_iff.1 number
    rw [repeatInPlace, hn]
    dsimp only
    rw [on_bind_ok (on_heap m), hlength]
    exact on_bind_error (on_ofFault_error m _) _

/-! ## Where repetitions are evaluated -/

/-- **The operands of a binary expression have values**: the node is paid for, and the left
operand is evaluated before the right one. -/
inductive Operands (ev : Evaluator) (scope : ScopeId) (left right : Expr) (m : Machine)
    (l r : Value) : Machine → Prop
  | intro {m₀ m₁ m₂ : Machine} (paid : tick.on m = (.ok (), m₀))
    (first : (ev.eval left scope).on m₀ = (.ok l, m₁))
    (second : (ev.eval right scope).on m₁ = (.ok r, m₂)) :
    Operands ev scope left right m l r m₂

theorem evalExpr_of_operands {left right : Expr} {op : BinaryOp}
    (operands : Operands ev scope left right m l r n) :
    (evalExpr ev (.binary left op right) scope).on m = (binaryValue op l r).on n := by
  obtain ⟨paid, first, second⟩ := operands
  rw [evalExpr, on_bind_ok paid, evalForm, on_bind_ok first, on_bind_ok second]

theorem Resolves.on_eq {target : Expr} {outcome : Except Stop Slot × Machine}
    (resolves : Resolves ev scope m target outcome) :
    (resolveSlot ev scope target).on m = outcome := by
  match resolves with
  | .name _ => rfl
  | .attribute evaluated _ => exact on_bind_ok evaluated _
  | .noObject stopped _ => exact on_bind_error stopped _
  | .item evaluated indexed => exact (on_bind_ok evaluated _).trans (on_bind_ok indexed _)
  | .noContainer stopped _ => exact on_bind_error stopped _
  | .noKey evaluated stopped => exact (on_bind_ok evaluated _).trans (on_bind_error stopped _)
  | .noPlace noName noAttribute noItem =>
    unfold resolveSlot
    split
    · exact absurd rfl (noName _)
    · exact absurd rfl (noAttribute _ _)
    · exact absurd rfl (noItem _ _)
    · rfl

/-- An augmented assignment whose place, current value and operand are found. -/
theorem augmentTarget_of_fetched {target operand : Expr} {op : BinaryOp} {slot : Slot}
    (fetched : Fetched ev scope target operand m slot l r n) :
    (augmentTarget ev scope target op operand).on m =
      (if l.combinesInPlace op then do
        combineInPlace ev op l r
        storeSlot scope l slot
      else do
        storeSlot scope (← augmentedValue op l r) slot : Eval Unit).on n := by
  obtain ⟨resolved, loaded, evaluated⟩ := fetched
  rw [augmentTarget, on_bind_ok resolved.on_eq, on_bind_ok loaded, on_bind_ok evaluated]

/-- An augmented assignment passes on that a repetition is too long, which is no type error. -/
theorem augmentedValue_of_lt (hp : Repeats m.heap l r p) (long : 2 ^ 32 < p.total) :
    (augmentedValue .mul l r).on m = (.error (.fault p.refusal), m) := by
  rw [augmentedValue, on_bind_ok (on_attempt_of_ne (binaryValue_of_lt hp long) (by simp))]
  rfl

/-- **`l *= r` refuses what `l * r` does.** -/
theorem augmentTarget_of_lt {target operand : Expr} {slot : Slot}
    (fetched : Fetched ev scope target operand m slot l r n) (hp : Repeats n.heap l r p)
    (long : 2 ^ 32 < p.total) :
    (augmentTarget ev scope target .mul operand).on m = (.error (.fault p.refusal), n) := by
  rw [augmentTarget_of_fetched fetched]
  split
  · rename_i inPlace
    cases l with
    | list id => exact on_bind_error (repeatInPlace_of_lt hp long) _
    | _ => cases inPlace
  · exact on_bind_error (augmentedValue_of_lt hp long) _

/-- **A list that is repeated in place** is paid for, refilled, and stored back. -/
theorem augmentTarget_list_of_le {target operand : Expr} {slot : Slot} {id : ListId}
    (fetched : Fetched ev scope target operand m slot (.list id) r n)
    (hp : Repeats n.heap (.list id) r p) (fits : p.total ≤ 2 ^ 32) :
    ∃ c, p.Builds n.heap c ∧
      (augmentTarget ev scope target .mul operand).on m = n.paying p.total fun paid =>
        (storeSlot scope (.list id) slot).on
          { paid with heap := paid.heap.refill (.list id) c } := by
  obtain ⟨c, builds, repeated⟩ := repeatInPlace_of_le hp fits
  refine ⟨c, builds, ?_⟩
  have inPlace : (Value.list id).combinesInPlace .mul = true := rfl
  rw [augmentTarget_of_fetched fetched, if_pos inPlace]
  exact on_bind_paying (x := combineInPlace ev .mul (.list id) r) repeated

/-! ## The parts agree -/

/-- **Two operands are measured, charged for and built as the repetition that they make.** -/
structure RepeatsConsistently (ev : Evaluator) (l r : Value) : Prop where
  /-- There is a length just if the two make a repetition that is not too long, -/
  allowed (h : Heap) (n : Nat) : repeatLength h .mul l r = .ok (some n) ↔
    ∃ p, Repeats h l r p ∧ p.total = n ∧ p.total ≤ 2 ^ 32
  /-- a refusal just if they make one that is too long, -/
  refused (h : Heap) (f : Fault) : repeatLength h .mul l r = .error f ↔
    ∃ p, Repeats h l r p ∧ 2 ^ 32 < p.total ∧ f = p.refusal
  /-- and nothing to say just if they make none. -/
  other (h : Heap) : repeatLength h .mul l r = .ok none ↔ ∀ p, ¬ Repeats h l r p
  /-- A repetition that is not too long is built to its length. -/
  built {h : Heap} {p : Repetition} : Repeats h l r p → p.total ≤ 2 ^ 32 →
    ∃ c, binaryResult h .mul l r = .ok c ∧ p.Builds h c
  /-- One that is too long is refused, -/
  unbuilt {h : Heap} {p : Repetition} : Repeats h l r p → 2 ^ 32 < p.total →
    binaryResult h .mul l r = .error p.refusal
  /-- as a value of an expression, where nothing at all has changed by that, -/
  unevaluated {scope : ScopeId} {left right : Expr} {m n : Machine} {p : Repetition} :
    Operands ev scope left right m l r n → Repeats n.heap l r p → 2 ^ 32 < p.total →
    (evalExpr ev (.binary left .mul right) scope).on m = (.error (.fault p.refusal), n)
  /-- and in an augmented assignment, whatever its target is. -/
  unassigned {scope : ScopeId} {target operand : Expr} {slot : Slot} {m n : Machine}
    {p : Repetition} : Fetched ev scope target operand m slot l r n → Repeats n.heap l r p →
    2 ^ 32 < p.total →
    (augmentTarget ev scope target .mul operand).on m = (.error (.fault p.refusal), n)
  /-- An expression is charged for the length, and then the result is a new object. -/
  evaluated {scope : ScopeId} {left right : Expr} {m n : Machine} {p : Repetition} :
    Operands ev scope left right m l r n → Repeats n.heap l r p → p.total ≤ 2 ^ 32 →
    ∃ c, p.Builds n.heap c ∧
      (evalExpr ev (.binary left .mul right) scope).on m = n.paying p.total fun paid =>
        (.ok (paid.heap.place c).1, { paid with heap := (paid.heap.place c).2 })
  /-- A list that is repeated in place is charged for in the same way, and then the list has
  the new items, every other object has what it had, and the list is stored back. -/
  assigned {scope : ScopeId} {target operand : Expr} {slot : Slot} {m n : Machine} {id : ListId}
    {p : Repetition} : l = .list id → Fetched ev scope target operand m slot l r n →
    Repeats n.heap l r p → p.total ≤ 2 ^ 32 →
    ∃ c, p.Builds n.heap c ∧ n.heap.Refilled l c (n.heap.refill l c) ∧
      (augmentTarget ev scope target .mul operand).on m = n.paying p.total fun paid =>
        (storeSlot scope l slot).on { paid with heap := paid.heap.refill l c }
  /-- What fails, for whatever reason, has changed nothing but the gas: as an expression -/
  unchanged {scope : ScopeId} {left right : Expr} {m n n' : Machine} {s : Stop} :
    Operands ev scope left right m l r n →
    (evalExpr ev (.binary left .mul right) scope).on m = (.error s, n') → ∃ gas, n' = { n with gas }
  /-- and in place. -/
  unchangedInPlace {n n' : Machine} {id : ListId} {s : Stop} : l = .list id →
    (combineInPlace ev .mul l r).on n = (.error s, n') → ∃ gas, n' = { n with gas }

/-- **Repetition is measured, charged and built consistently.** -/
theorem repetition_is_consistent (ev : Evaluator) (l r : Value) : RepeatsConsistently ev l r where
  allowed h n := by
    refine ⟨fun measured => ?_, fun ⟨p, hp, total, fits⟩ => ?_⟩
    · obtain ⟨p, hp, length⟩ := repeats_of_measured (by rw [measured]; simp)
      rw [measured] at length
      split at length
      · rename_i fits
        exact ⟨p, hp, Option.some.inj (Except.ok.inj length).symm, fits⟩
      · cases length
    · rw [repeatLength_of_repeats hp, if_pos fits, total]
  refused h f := by
    refine ⟨fun measured => ?_, fun ⟨p, hp, long, same⟩ => ?_⟩
    · obtain ⟨p, hp, length⟩ := repeats_of_measured (by rw [measured]; simp)
      rw [measured] at length
      split at length
      · cases length
      · rename_i long
        exact ⟨p, hp, Nat.not_le.1 long, Except.error.inj length⟩
    · rw [repeatLength_of_repeats hp, if_neg (Nat.not_le.2 long), same]
  other h := by
    refine ⟨fun measured p hp => ?_, repeatLength_of_not_repeats⟩
    rw [repeatLength_of_repeats hp] at measured
    split at measured <;> cases measured
  built := binaryResult_of_le
  unbuilt := binaryResult_of_lt
  unevaluated operands hp long := (evalExpr_of_operands operands).trans (binaryValue_of_lt hp long)
  unassigned := augmentTarget_of_lt
  evaluated operands hp fits := by
    obtain ⟨c, builds, valued⟩ := binaryValue_of_le hp fits
    exact ⟨c, builds, (evalExpr_of_operands operands).trans valued⟩
  assigned := by
    rintro scope target operand slot m n id p rfl fetched hp fits
    obtain ⟨c, builds, stored⟩ := augmentTarget_list_of_le fetched hp fits
    refine ⟨c, builds, Heap.refilled_refill ?_, stored⟩
    exact builds.fits hp
  unchanged := by
    intro scope left right m n n' s operands failed
    rw [evalExpr_of_operands operands] at failed
    have course := binaryValue_computes .mul l r n
    rw [failed] at course
    cases course with
    | refused s gas => exact ⟨gas, rfl⟩
  unchangedInPlace := by
    rintro n n' id s rfl failed
    have course : Combines .mul (.list id) r #[] n ((repeatInPlace id r).on n) :=
      repeatInPlace_combines id r n
    rw [show (repeatInPlace id r).on n = _ from failed] at course
    cases course with
    | refused s gas => exact ⟨gas, rfl⟩

end MeteredScript
