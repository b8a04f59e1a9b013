import MeteredScript.Text.Blank

/-!
# Reading integers

The texts that denote an integer: an optional sign and at least one decimal
digit, with white space around them.
-/

namespace MeteredScript.Text

/-- The number that a list of decimal digits denotes after the digits of
`value` have been read. -/
def readDigits (value : Nat) : List Char → Option Nat
  | [] => some value
  | c :: cs => if c.isDigit then readDigits (value * 10 + (c.toNat - '0'.toNat)) cs else none

/-- The number that a non-empty list of decimal digits denotes. -/
def readNat? : List Char → Option Nat
  | [] => none
  | cs => readDigits 0 cs

/-- **The integer that a text denotes**, if it denotes one. -/
def readInt? (cs : List Char) : Option Int :=
  match trim cs with
  | '+' :: digits => (readNat? digits).map Int.ofNat
  | '-' :: digits => (readNat? digits).map fun n => -Int.ofNat n
  | digits => (readNat? digits).map Int.ofNat

end MeteredScript.Text
