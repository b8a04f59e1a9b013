import MeteredScript.Fault.Raised

/-!
# Checked integer arithmetic

Integers have 64 bits. An operation computes the mathematical result and
gives it back if it fits; otherwise it fails, and nothing ever wraps.
Division rounds to the floor, so that a remainder has the sign of the divisor.

Main statements: `fit_eq_ok_iff` and `fit_eq_error_iff` say when a result is
given back and when it is not.
-/

namespace MeteredScript.Integer

/-- **The integers that have 64 bits.** -/
def InRange (n : Int) : Prop := -9223372036854775808 ≤ n ∧ n ≤ 9223372036854775807

instance (n : Int) : Decidable (InRange n) := inferInstanceAs (Decidable (_ ∧ _))

theorem inRange_toInt (r : Int64) : InRange r.toInt :=
  ⟨Int64.le_toInt r, Int.le_of_lt_add_one (Int64.toInt_lt r)⟩

/-- **An integer as a 64-bit number**, if it is in range. -/
def fit (n : Int) : Except Fault Int64 :=
  if InRange n then .ok (Int64.ofInt n) else .error .integerOverflow

theorem fit_eq_ok_iff {n : Int} {r : Int64} : fit n = .ok r ↔ r.toInt = n := by
  unfold fit
  constructor
  · intro h
    split at h
    · rename_i hn
      cases h
      exact Int64.toInt_ofInt_of_le hn.1 (Int.lt_add_one_of_le hn.2)
    · cases h
  · rintro rfl
    rw [if_pos (inRange_toInt r), Int64.ofInt_toInt]

theorem fit_eq_error_iff {n : Int} {f : Fault} :
    fit n = .error f ↔ ¬ InRange n ∧ f = .integerOverflow := by
  unfold fit
  split <;> simp_all [eq_comm]

/-- The sum. -/
def add (a b : Int64) : Except Fault Int64 := fit (a.toInt + b.toInt)

/-- The difference. -/
def sub (a b : Int64) : Except Fault Int64 := fit (a.toInt - b.toInt)

/-- The product. -/
def mul (a b : Int64) : Except Fault Int64 := fit (a.toInt * b.toInt)

/-- The opposite. -/
def neg (a : Int64) : Except Fault Int64 := fit (-a.toInt)

/-- Whether one of two numbers is negative and the other is not. -/
def Opposed (a b : Int64) : Prop := ¬ (a < 0 ↔ b < 0)

instance (a b : Int64) : Decidable (Opposed a b) := inferInstanceAs (Decidable (¬ _))

/-- The quotient, rounded to the floor. Machine division rounds toward zero;
where that went up, the quotient is one less. -/
def floorDiv (a b : Int64) : Except Fault Int64 :=
  if b = 0 then .error .divisionByZero
  else (fun q => if a % b ≠ 0 ∧ Opposed a b then q - 1 else q) <$> fit (a.toInt.tdiv b.toInt)

/-- The remainder of the quotient rounded to the floor. The machine's remainder
has the sign of the dividend; where that is not the divisor's, the divisor is
added. Divisor -1 is left out of that, since the least number has no machine
quotient by it. -/
def mod (a b : Int64) : Except Fault Int64 :=
  if b = 0 then .error .divisionByZero
  else if b = -1 then .ok 0
  else .ok (if a % b ≠ 0 ∧ Opposed (a % b) b then a % b + b else a % b)

/-- Exponents have to be below this bound. -/
def exponentBound : Int := 4294967296

/-- An exponent cut down to less than 66. Powers of two or more are out of
range from exponent 64 on, and powers of anything smaller only ask whether
the exponent is even. -/
def cutExponent (e : Nat) : Nat := if e < 64 then e else 64 + e % 2

/-- The power. -/
def pow (a b : Int64) : Except Fault Int64 :=
  if b.toInt < 0 ∨ exponentBound ≤ b.toInt then .error .negativeExponent
  else fit (Int.pow a.toInt (cutExponent b.toInt.toNat))

/-- The value of an operator on two integers. -/
def apply : BinaryOp → Int64 → Int64 → Except Fault Int64
  | .add => add
  | .sub => sub
  | .mul => mul
  | .floorDiv => floorDiv
  | .mod => mod
  | .pow => pow
  | .bitOr => fun a b => .ok (a ||| b)
  | .bitAnd => fun a b => .ok (a &&& b)
  | .bitXor => fun a b => .ok (a ^^^ b)

end MeteredScript.Integer
