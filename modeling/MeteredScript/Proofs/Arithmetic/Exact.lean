import Mathlib.Algebra.Ring.Int.Defs
import MeteredScript.Operation.Binary

/-!
# Integer arithmetic is exact

A sum, difference, product, opposite or power of two integers of 64 bits is
the mathematical one if that has 64 bits, and an `OverflowError` if not.
Nothing wraps, no operand is refused for another reason, and bools count as 0
and 1 throughout. That is what `Exactly` says, and `arithmetic_is_exact` says
it of each operator.

Powers are where it takes an argument. An exponent may have 32 bits, far more
than a power could be computed with, so it is first cut down to less than 66
(`Integer.cutExponent`). No result shows that: from exponent 64 on the powers
of everything but 0, 1 and -1 are out of range, and those of 0, 1 and -1 only
ask whether the exponent is even. Exponents of 33 bits and more are refused
along with the negative ones, and with the same words, even where the power is
in range. `one_to_a_great_power_is_refused` is such a power.
-/

namespace MeteredScript

namespace Integer

/-! ## Powers -/

theorem pow_even_of_sq_one {a : Int} (h : a * a = 1) (k : Nat) : a ^ (2 * k) = 1 := by
  rw [Int.pow_mul, Int.pow_succ, Int.pow_succ, Int.pow_zero, Int.one_mul, h, Int.one_pow]

/-- Powers of 0, 1 and -1 depend on the exponent's parity alone. -/
theorem pow_cutExponent_of_small {a : Int} (h : a = 0 ∨ a * a = 1) (e : Nat) :
    a ^ cutExponent e = a ^ e := by
  unfold cutExponent
  split
  · rfl
  · rename_i he
    rcases h with rfl | h
    · rw [Int.zero_pow (by omega), Int.zero_pow (by omega)]
    · have cut : 64 + e % 2 = 2 * 32 + e % 2 := by omega
      have whole : e = 2 * (e / 2) + e % 2 := by omega
      calc a ^ (64 + e % 2)
          = a ^ (2 * 32) * a ^ (e % 2) := by rw [cut, Int.pow_add]
        _ = a ^ (2 * (e / 2)) * a ^ (e % 2) := by
            rw [pow_even_of_sq_one h, pow_even_of_sq_one h]
        _ = a ^ e := by rw [← Int.pow_add, ← whole]

/-- Other powers are out of range from exponent 64 on. -/
theorem not_inRange_pow {a : Int} (h : 2 ≤ a.natAbs) {e : Nat} (he : 64 ≤ e) :
    ¬ InRange (a ^ e) := by
  have great : 2 ^ 64 ≤ (a ^ e).natAbs :=
    calc 2 ^ 64
        ≤ 2 ^ e := Nat.pow_le_pow_right Nat.two_pos he
      _ ≤ a.natAbs ^ e := Nat.pow_le_pow_left h e
      _ = (a ^ e).natAbs := (Int.natAbs_pow a e).symm
  rintro ⟨above, below⟩
  omega

theorem le_cutExponent {e : Nat} (he : 64 ≤ e) : 64 ≤ cutExponent e := by
  unfold cutExponent
  split <;> omega

/-- **Cutting the exponent down changes no power**: neither its value nor
whether it is in range. -/
theorem fit_pow_cutExponent (a : Int) (e : Nat) : fit (a ^ cutExponent e) = fit (a ^ e) := by
  rcases Nat.lt_or_ge e 64 with he | he
  · rw [cutExponent, if_pos he]
  · rcases Nat.lt_or_ge a.natAbs 2 with ha | ha
    · -- In range whatever the exponent, and then only its parity counts.
      have small : a = 0 ∨ a * a = 1 := by
        have : a = 0 ∨ a = 1 ∨ a = -1 := by omega
        rcases this with rfl | rfl | rfl <;> simp
      rw [pow_cutExponent_of_small small]
    · rw [fit_eq_error_iff.2 ⟨not_inRange_pow ha (le_cutExponent he), rfl⟩,
        fit_eq_error_iff.2 ⟨not_inRange_pow ha he, rfl⟩]

theorem pow_of_lt {a b : Int64} (h₀ : 0 ≤ b.toInt) (h : b.toInt < exponentBound) :
    pow a b = fit (a.toInt ^ b.toInt.toNat) := by
  unfold pow
  rw [if_neg (by omega)]
  exact fit_pow_cutExponent a.toInt b.toInt.toNat

end Integer

/-! ## What is computed -/

/-- **What a computation has to give whose mathematical result is known**: that
result if it has 64 bits, and an `OverflowError` if not. -/
inductive Exactly (n : Int) : Except Fault Fresh → Prop
  | value {r : Int64} : r.toInt = n → Exactly n (.ok (.value (.int r)))
  | overflow : ¬ Integer.InRange n → Exactly n (.error .integerOverflow)

theorem exactly_fit (n : Int) :
    Exactly n ((fun r => Fresh.value (.int r)) <$> Integer.fit n) := by
  cases fitted : Integer.fit n with
  | ok r => exact .value (Integer.fit_eq_ok_iff.1 fitted)
  | error f =>
    obtain ⟨out, rfl⟩ := Integer.fit_eq_error_iff.1 fitted
    exact .overflow out

/-- Operators that bools have no rule of their own for compute with numbers. -/
theorem binaryResult_of_asInt? {h : Heap} {op : BinaryOp} {l r : Value} {a b : Int64}
    (hl : l.asInt? = some a) (hr : r.asInt? = some b) (plain : ∀ x y, op.onBools? x y = none) :
    binaryResult h op l r = (fun n => Fresh.value (.int n)) <$> Integer.apply op a b := by
  have numbers : combineNumbers op l r a b = .int <$> Integer.apply op a b := by
    unfold combineNumbers
    split
    · rw [plain]
    · rfl
  simp only [binaryResult, hl, hr, numbers]
  cases Integer.apply op a b <;> rfl

/-- **The arithmetic of two values that count as integers.** -/
structure Arithmetic (h : Heap) (l r : Value) (a b : Int64) : Prop where
  add : Exactly (a.toInt + b.toInt) (binaryResult h .add l r)
  sub : Exactly (a.toInt - b.toInt) (binaryResult h .sub l r)
  mul : Exactly (a.toInt * b.toInt) (binaryResult h .mul l r)
  neg : Exactly (-a.toInt) (.value <$> negated l)
  /-- Powers are exact for exponents of at most 32 bits. -/
  pow : 0 ≤ b.toInt → b.toInt < Integer.exponentBound →
    Exactly (a.toInt ^ b.toInt.toNat) (binaryResult h .pow l r)
  /-- All other exponents are refused, and nothing else is refused so. -/
  refused : binaryResult h .pow l r = .error .negativeExponent ↔
    b.toInt < 0 ∨ Integer.exponentBound ≤ b.toInt

/-- **Integer arithmetic is exact**, up to exponents of 32 bits. -/
theorem arithmetic_is_exact {h : Heap} {l r : Value} {a b : Int64} (hl : l.asInt? = some a)
    (hr : r.asInt? = some b) : Arithmetic h l r a b := by
  have computed (op : BinaryOp) (plain : ∀ x y, op.onBools? x y = none) :=
    binaryResult_of_asInt? (h := h) hl hr plain
  refine ⟨?_, ?_, ?_, ?_, ?_, ?_⟩
  · rw [computed .add fun _ _ => rfl]
    exact exactly_fit _
  · rw [computed .sub fun _ _ => rfl]
    exact exactly_fit _
  · rw [computed .mul fun _ _ => rfl]
    exact exactly_fit _
  · have opposite : (Fresh.value <$> negated l : Except Fault Fresh) =
        (fun n => Fresh.value (.int n)) <$> Integer.fit (-a.toInt) := by
      simp only [negated, hl, Integer.neg]
      cases Integer.fit (-a.toInt) <;> rfl
    rw [opposite]
    exact exactly_fit _
  · intro h₀ bound
    rw [computed .pow fun _ _ => rfl, Integer.apply, Integer.pow_of_lt h₀ bound]
    exact exactly_fit _
  · rw [computed .pow fun _ _ => rfl, Integer.apply]
    constructor
    · intro refused
      refine Decidable.byContradiction fun inside => ?_
      have exact : Exactly (a.toInt ^ b.toInt.toNat)
          ((fun n => Fresh.value (.int n)) <$> Integer.pow a b) := by
        rw [Integer.pow_of_lt (by omega) (by omega)]
        exact exactly_fit _
      rw [refused] at exact
      cases exact
    · intro outside
      rw [Integer.pow, if_pos outside]
      rfl

/-- One to the power of 2 ^ 32 is one and would be in range. It is refused. -/
theorem one_to_a_great_power_is_refused :
    binaryResult .empty .pow (.int 1) (.int 4294967296) = .error .negativeExponent :=
  (arithmetic_is_exact (h := .empty) (l := .int 1) (r := .int 4294967296) rfl rfl).refused.2
    (.inr (by decide))

end MeteredScript
