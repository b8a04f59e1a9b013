import Mathlib.Data.Rat.Floor
import MeteredScript.Proofs.Arithmetic.Exact

/-!
# Floor division and remainder

The quotient `a // b` is the greatest integer that is not above the exact
quotient, and the remainder `a % b` is what it leaves. A machine divides
otherwise: it rounds toward zero. Both operators start from the machine's
result and correct it, each in its own way, the quotient by one and the
remainder by the divisor. That the two corrections go together is
`floored_correction`, over the integers; that neither leaves the range of 64
bits is `toInt_lowered` and `toInt_raised`.

There are only two ways to fail. A divisor of zero is refused by both
operators, and the one quotient out of range is that of the least number by
-1, whose remainder is nevertheless zero.
-/

namespace MeteredScript

namespace Integer

/-! ## Quotients rounded down -/

/-- **A quotient and what it leaves**, which lies between zero and the
divisor. -/
structure Floored (a b q r : Int) : Prop where
  /-- The two make up the dividend. -/
  whole : a = b * q + r
  /-- What a positive divisor leaves. -/
  positive : 0 < b → 0 ≤ r ∧ r < b
  /-- What a negative divisor leaves. -/
  negative : b < 0 → b < r ∧ r ≤ 0

variable {a b q r : Int}

/-- **Such a quotient is the floor of the exact one.** -/
theorem Floored.floor_eq (floored : Floored a b q r) (hb : b ≠ 0) :
    ⌊(a : ℚ) / (b : ℚ)⌋ = q := by
  have hb' : (b : ℚ) ≠ 0 := by exact_mod_cast hb
  have split : (a : ℚ) / b = q + (r : ℚ) / b := by
    rw [floored.whole]
    push_cast
    rw [add_div, mul_div_cancel_left₀ _ hb']
  have rest : 0 ≤ (r : ℚ) / b ∧ (r : ℚ) / b < 1 := by
    rcases lt_or_gt_of_ne hb with neg | pos
    · obtain ⟨above, below⟩ := floored.negative neg
      have neg' : (b : ℚ) < 0 := by exact_mod_cast neg
      exact ⟨div_nonneg_of_nonpos (by exact_mod_cast below) neg'.le,
        (div_lt_one_of_neg neg').2 (by exact_mod_cast above)⟩
    · obtain ⟨above, below⟩ := floored.positive pos
      have pos' : (0 : ℚ) < b := by exact_mod_cast pos
      exact ⟨div_nonneg (by exact_mod_cast above) pos'.le,
        (div_lt_one pos').2 (by exact_mod_cast below)⟩
  rw [split, Int.floor_eq_iff]
  exact ⟨by linarith, by linarith⟩

/-- The rest of a division toward zero is smaller than the divisor and has the
dividend's sign. -/
theorem tmod_range (a : Int) (hb : b ≠ 0) :
    (a.tmod b).natAbs < b.natAbs ∧ (0 ≤ a → 0 ≤ a.tmod b) ∧ (a ≤ 0 → a.tmod b ≤ 0) := by
  refine ⟨?_, Int.tmod_nonneg b, fun below => ?_⟩
  · rw [Int.natAbs_tmod]
    exact Nat.mod_lt _ (Int.natAbs_pos.2 hb)
  · have opposite := Int.tmod_nonneg b (Int.neg_nonneg_of_nonpos below)
    rw [Int.neg_tmod] at opposite
    omega

/-- Where rounding toward zero went up, the quotient less one leaves the rest
and the divisor. -/
theorem floored_of_opposed (rest : a.tmod b ≠ 0) (opposed : ¬ (a < 0 ↔ b < 0)) (hb : b ≠ 0) :
    Floored a b (a.tdiv b - 1) (a.tmod b + b) := by
  have whole := Int.tmod_add_mul_tdiv a b
  obtain ⟨small, above, below⟩ := tmod_range a hb
  refine ⟨?_, fun _ => ?_, fun _ => ?_⟩
  · rw [Int.mul_sub, Int.mul_one]
    omega
  · omega
  · omega

/-- Elsewhere rounding toward zero is rounding down. -/
theorem floored_of_not (alike : ¬ (a.tmod b ≠ 0 ∧ ¬ (a < 0 ↔ b < 0))) (hb : b ≠ 0) :
    Floored a b (a.tdiv b) (a.tmod b) := by
  have whole := Int.tmod_add_mul_tdiv a b
  obtain ⟨small, above, below⟩ := tmod_range a hb
  refine ⟨?_, fun _ => ?_, fun _ => ?_⟩ <;> omega

/-! ## Machine numbers -/

variable {m n : Int64}

theorem toInt_ne_zero : n.toInt ≠ 0 ↔ n ≠ 0 := by
  rw [Ne, Ne, ← Int64.toInt_inj, Int64.toInt_zero]

theorem opposed_iff : Opposed m n ↔ ¬ (m.toInt < 0 ↔ n.toInt < 0) := by
  rw [Opposed, Int64.lt_iff_toInt_lt, Int64.lt_iff_toInt_lt, Int64.toInt_zero]

/-- A rest that is not zero has the dividend's sign, so it may stand in for it. -/
theorem opposed_rest_iff (rest : m % n ≠ 0) (hn : n ≠ 0) : Opposed (m % n) n ↔ Opposed m n := by
  obtain ⟨-, above, below⟩ := tmod_range m.toInt (toInt_ne_zero.2 hn)
  have rest' := toInt_ne_zero.2 rest
  rw [Int64.toInt_mod] at rest'
  rw [opposed_iff, opposed_iff, Int64.toInt_mod]
  omega

/-- **The quotient is in range**, but for that of the least number by -1. -/
theorem inRange_tdiv_iff (hn : n ≠ 0) :
    InRange (m.toInt.tdiv n.toInt) ↔ ¬ (m.toInt = -9223372036854775808 ∧ n.toInt = -1) := by
  have hn' := toInt_ne_zero.2 hn
  have range := inRange_toInt m
  unfold InRange at range ⊢
  by_cases minus : n.toInt = -1
  · rw [minus, Int.tdiv_neg, Int.tdiv_one]
    omega
  · by_cases plus : n.toInt = 1
    · rw [plus, Int.tdiv_one]
      omega
    · -- A greater divisor at least halves the dividend.
      have half : (m.toInt.tdiv n.toInt).natAbs ≤ m.toInt.natAbs / 2 := by
        rw [Int.natAbs_tdiv]
        exact Nat.div_le_div_left (by omega) Nat.two_pos
      omega

/-- Taking one off a quotient that was rounded up stays in range. -/
theorem toInt_lowered {q : Int64} (quotient : q.toInt = m.toInt.tdiv n.toInt) (rest : m % n ≠ 0)
    (hn : n ≠ 0) : (q - 1).toInt = q.toInt - 1 := by
  have rest' := toInt_ne_zero.2 rest
  rw [Int64.toInt_mod] at rest'
  -- A divisor that leaves a rest at least halves the dividend.
  have great : 2 ≤ n.toInt.natAbs := by
    obtain ⟨small, -⟩ := tmod_range m.toInt (toInt_ne_zero.2 hn)
    omega
  have half : (m.toInt.tdiv n.toInt).natAbs ≤ m.toInt.natAbs / 2 := by
    rw [Int.natAbs_tdiv]
    exact Nat.div_le_div_left great Nat.two_pos
  have range := inRange_toInt m
  unfold InRange at range
  rw [Int64.toInt_sub, Int64.toInt_one]
  exact Int.bmod_eq_of_le (by omega) (by omega)

/-- Adding the divisor to a rest of the other sign stays in range. -/
theorem toInt_raised {r : Int64} (opposed : Opposed r n) : (r + n).toInt = r.toInt + n.toInt := by
  have left := inRange_toInt r
  have right := inRange_toInt n
  rw [opposed_iff] at opposed
  unfold InRange at left right
  rw [Int64.toInt_add]
  exact Int.bmod_eq_of_le (by omega) (by omega)

/-- **The two corrections go together**: the quotient less one, where it was
rounded up, leaves the machine's rest and the divisor. -/
theorem floored_corrected {q : Int64} (quotient : q.toInt = m.toInt.tdiv n.toInt) (hn : n ≠ 0) :
    Floored m.toInt n.toInt
      (if m % n ≠ 0 ∧ Opposed m n then q - 1 else q).toInt
      (if m % n ≠ 0 ∧ Opposed (m % n) n then m % n + n else m % n).toInt := by
  have hn' := toInt_ne_zero.2 hn
  by_cases corrected : m % n ≠ 0 ∧ Opposed m n
  · obtain ⟨rest, opposed⟩ := corrected
    have opposed' := (opposed_rest_iff rest hn).2 opposed
    rw [if_pos ⟨rest, opposed⟩, if_pos ⟨rest, opposed'⟩, toInt_lowered quotient rest hn,
      toInt_raised opposed', quotient, Int64.toInt_mod]
    exact floored_of_opposed (Int64.toInt_mod m n ▸ toInt_ne_zero.2 rest)
      (opposed_iff.1 opposed) hn'
  · have uncorrected : ¬ (m % n ≠ 0 ∧ Opposed (m % n) n) := fun ⟨rest, opposed⟩ =>
      corrected ⟨rest, (opposed_rest_iff rest hn).1 opposed⟩
    rw [if_neg corrected, if_neg uncorrected, quotient, Int64.toInt_mod]
    rw [opposed_iff, ← toInt_ne_zero, Int64.toInt_mod] at corrected
    exact floored_of_not corrected hn'

/-- The least number divided by -1 leaves nothing. -/
theorem floored_minus_one (a : Int) : Floored a (-1) (-a) 0 :=
  ⟨by omega, fun _ => by omega, fun _ => by omega⟩

/-- **How floor division ends**, of which there are three ways. -/
theorem floorDiv_cases (m n : Int64) :
    n.toInt = 0 ∧ floorDiv m n = .error .divisionByZero ∨
    n.toInt ≠ 0 ∧ (m.toInt = -9223372036854775808 ∧ n.toInt = -1) ∧
      floorDiv m n = .error .integerOverflow ∨
    n.toInt ≠ 0 ∧ ¬ (m.toInt = -9223372036854775808 ∧ n.toInt = -1) ∧
      ∃ q, floorDiv m n = .ok q ∧ q.toInt = ⌊(m.toInt : ℚ) / (n.toInt : ℚ)⌋ := by
  by_cases zero : n = 0
  · exact .inl ⟨by rw [zero, Int64.toInt_zero], if_pos zero⟩
  · have zero' := toInt_ne_zero.2 zero
    have opened : floorDiv m n = (fun q => if m % n ≠ 0 ∧ Opposed m n then q - 1 else q) <$>
        fit (m.toInt.tdiv n.toInt) := if_neg zero
    by_cases least : m.toInt = -9223372036854775808 ∧ n.toInt = -1
    · have outside : fit (m.toInt.tdiv n.toInt) = .error .integerOverflow :=
        if_neg fun inside => (inRange_tdiv_iff zero).1 inside least
      rw [opened, outside]
      exact .inr (.inl ⟨zero', least, rfl⟩)
    · have inside : fit (m.toInt.tdiv n.toInt) = .ok (Int64.ofInt (m.toInt.tdiv n.toInt)) :=
        if_pos ((inRange_tdiv_iff zero).2 least)
      have floored := floored_corrected (fit_eq_ok_iff.1 inside) zero
      rw [opened, inside]
      exact .inr (.inr ⟨zero', least, _, rfl, (floored.floor_eq zero').symm⟩)

/-- **How taking the remainder ends**, of which there are two. -/
theorem mod_cases (m n : Int64) :
    n.toInt = 0 ∧ mod m n = .error .divisionByZero ∨
    n.toInt ≠ 0 ∧ ∃ r, mod m n = .ok r ∧
      Floored m.toInt n.toInt ⌊(m.toInt : ℚ) / (n.toInt : ℚ)⌋ r.toInt := by
  by_cases zero : n = 0
  · exact .inl ⟨by rw [zero, Int64.toInt_zero], if_pos zero⟩
  · have zero' := toInt_ne_zero.2 zero
    have opened : mod m n = if n = -1 then .ok 0 else
        .ok (if m % n ≠ 0 ∧ Opposed (m % n) n then m % n + n else m % n) := if_neg zero
    refine .inr ⟨zero', ?_⟩
    by_cases minus : n = -1
    · have floored : Floored m.toInt n.toInt (-m.toInt) (0 : Int64).toInt := by
        rw [minus]
        exact floored_minus_one m.toInt
      exact ⟨0, opened.trans (if_pos minus), floored.floor_eq zero' ▸ floored⟩
    · have least : ¬ (m.toInt = -9223372036854775808 ∧ n.toInt = -1) := fun ⟨_, same⟩ =>
        minus (Int64.toInt_inj.1 same)
      have inside : fit (m.toInt.tdiv n.toInt) = .ok (Int64.ofInt (m.toInt.tdiv n.toInt)) :=
        if_pos ((inRange_tdiv_iff zero).2 least)
      have floored := floored_corrected (fit_eq_ok_iff.1 inside) zero
      exact ⟨_, opened.trans (if_neg minus), floored.floor_eq zero' ▸ floored⟩

end Integer

/-! ## Both operators -/

/-- **The quotient and the remainder of two values that count as integers.** -/
structure FlooredDivision (h : Heap) (l r : Value) (a b : Int64) : Prop where
  /-- A divisor of zero is refused, and nothing else is refused so. -/
  quotient_by_zero : binaryResult h .floorDiv l r = .error .divisionByZero ↔ b.toInt = 0
  remainder_by_zero : binaryResult h .mod l r = .error .divisionByZero ↔ b.toInt = 0
  /-- One quotient is out of range. -/
  overflow : binaryResult h .floorDiv l r = .error .integerOverflow ↔
    a.toInt = -9223372036854775808 ∧ b.toInt = -1
  /-- Every other one is the floor of the exact quotient. -/
  quotient : b.toInt ≠ 0 → ¬ (a.toInt = -9223372036854775808 ∧ b.toInt = -1) →
    ∃ q : Int64, binaryResult h .floorDiv l r = .ok (.value (.int q)) ∧
      q.toInt = ⌊(a.toInt : ℚ) / (b.toInt : ℚ)⌋
  /-- The remainder is what that floor leaves, and there always is one. -/
  remainder : b.toInt ≠ 0 → ∃ s : Int64, binaryResult h .mod l r = .ok (.value (.int s)) ∧
    s.toInt = a.toInt - b.toInt * ⌊(a.toInt : ℚ) / (b.toInt : ℚ)⌋
  /-- Quotient and remainder make up the dividend. -/
  whole : ∀ q s : Int64, binaryResult h .floorDiv l r = .ok (.value (.int q)) →
    binaryResult h .mod l r = .ok (.value (.int s)) → a.toInt = b.toInt * q.toInt + s.toInt
  /-- The remainder lies between zero and the divisor. -/
  positive : 0 < b.toInt → ∀ s : Int64, binaryResult h .mod l r = .ok (.value (.int s)) →
    0 ≤ s.toInt ∧ s.toInt < b.toInt
  negative : b.toInt < 0 → ∀ s : Int64, binaryResult h .mod l r = .ok (.value (.int s)) →
    b.toInt < s.toInt ∧ s.toInt ≤ 0
  /-- No machine step on the way leaves the range: neither the division that
  rounds toward zero nor the correction of its quotient or of its rest. -/
  divides : b.toInt ≠ 0 → ¬ (a.toInt = -9223372036854775808 ∧ b.toInt = -1) →
    Integer.InRange (a.toInt.tdiv b.toInt) ∧ (a % b).toInt = a.toInt.tmod b.toInt
  lowers : b.toInt ≠ 0 → ∀ q : Int64, q.toInt = a.toInt.tdiv b.toInt → a % b ≠ 0 →
    (q - 1).toInt = q.toInt - 1
  raises : Integer.Opposed (a % b) b → (a % b + b).toInt = (a % b).toInt + b.toInt

/-- **Floor division and remainder are a pair.** -/
theorem floor_division_is_paired {h : Heap} {l r : Value} {a b : Int64} (hl : l.asInt? = some a)
    (hr : r.asInt? = some b) : FlooredDivision h l r a b := by
  have computed (op : BinaryOp) (plain : ∀ x y, op.onBools? x y = none) :=
    binaryResult_of_asInt? (h := h) hl hr plain
  have quotient : binaryResult h .floorDiv l r =
      (fun n => Fresh.value (.int n)) <$> Integer.floorDiv a b := computed .floorDiv fun _ _ => rfl
  have remainder : binaryResult h .mod l r =
      (fun n => Fresh.value (.int n)) <$> Integer.mod a b := computed .mod fun _ _ => rfl
  have apart : Fault.divisionByZero ≠ .integerOverflow := by
    simp [Fault.divisionByZero, Fault.integerOverflow, Fault.saying, Exception.saying]
  -- What an answer of the remainder is, whichever it may be.
  have answered {s : Int64} (given : binaryResult h .mod l r = .ok (.value (.int s))) :
      b.toInt ≠ 0 ∧ Integer.Floored a.toInt b.toInt ⌊(a.toInt : ℚ) / (b.toInt : ℚ)⌋ s.toInt := by
    rcases Integer.mod_cases a b with ⟨_, ends⟩ | ⟨zero, t, ends, floored⟩
    · rw [remainder, ends] at given
      cases given
    · rw [remainder, ends] at given
      cases given
      exact ⟨zero, floored⟩
  refine ⟨?_, ?_, ?_, ?_, ?_, ?_, ?_, ?_, ?_, ?_, Integer.toInt_raised⟩
  · rw [quotient]
    rcases Integer.floorDiv_cases a b with ⟨zero, ends⟩ | ⟨zero, _, ends⟩ |
      ⟨zero, _, q, ends, _⟩ <;> simp [ends, zero, apart.symm]
  · rw [remainder]
    rcases Integer.mod_cases a b with ⟨zero, ends⟩ | ⟨zero, s, ends, _⟩ <;> simp [ends, zero]
  · rw [quotient]
    rcases Integer.floorDiv_cases a b with ⟨zero, ends⟩ | ⟨_, least, ends⟩ |
      ⟨_, inside, q, ends, _⟩
    · simp [ends, zero, apart]
    · simp [ends, least]
    · simpa [ends] using not_and.1 inside
  · intro zero inside
    rcases Integer.floorDiv_cases a b with ⟨zero', _⟩ | ⟨_, least, _⟩ | ⟨_, _, q, ends, floor⟩
    · exact absurd zero' zero
    · exact absurd least inside
    · exact ⟨q, by rw [quotient, ends]; rfl, floor⟩
  · intro zero
    rcases Integer.mod_cases a b with ⟨zero', _⟩ | ⟨_, s, ends, floored⟩
    · exact absurd zero' zero
    · exact ⟨s, by rw [remainder, ends]; rfl, by have := floored.whole; omega⟩
  · intro q s divided given
    obtain ⟨_, floored⟩ := answered given
    rcases Integer.floorDiv_cases a b with ⟨_, ends⟩ | ⟨_, _, ends⟩ | ⟨_, _, q', ends, floor⟩
    · rw [quotient, ends] at divided
      cases divided
    · rw [quotient, ends] at divided
      cases divided
    · rw [quotient, ends] at divided
      cases divided
      rw [floor]
      exact floored.whole
  · intro positive s given
    exact (answered given).2.positive positive
  · intro negative s given
    exact (answered given).2.negative negative
  · intro zero inside
    exact ⟨(Integer.inRange_tdiv_iff (Integer.toInt_ne_zero.1 zero)).2 inside, Int64.toInt_mod a b⟩
  · intro zero q divided rest
    exact Integer.toInt_lowered divided rest (Integer.toInt_ne_zero.1 zero)

/-- Seven by minus two is minus four and leaves minus one: both corrections are
made. -/
theorem seven_by_minus_two :
    binaryResult .empty .floorDiv (.int 7) (.int (-2)) = .ok (.value (.int (-4))) ∧
    binaryResult .empty .mod (.int 7) (.int (-2)) = .ok (.value (.int (-1))) := by
  have pair := floor_division_is_paired (h := .empty) (l := .int 7) (r := .int (-2)) rfl rfl
  have seven : (7 : Int64).toInt = 7 := by decide
  have two : (-2 : Int64).toInt = -2 := by decide
  obtain ⟨q, divided, -⟩ := pair.quotient (by omega) (by omega)
  obtain ⟨s, given, -⟩ := pair.remainder (by omega)
  have whole := pair.whole q s divided given
  have between := pair.negative (by omega) s given
  rw [seven, two] at whole
  have four : (-4 : Int64).toInt = -4 := by decide
  have one : (-1 : Int64).toInt = -1 := by decide
  obtain rfl : q = -4 := Int64.toInt_inj.1 (by omega)
  obtain rfl : s = -1 := Int64.toInt_inj.1 (by omega)
  exact ⟨divided, given⟩

end MeteredScript
