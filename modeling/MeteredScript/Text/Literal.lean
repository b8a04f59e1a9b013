import MeteredScript.Text.Shown

/-!
# Texts in reports

How a report shows a text: between double quotes, with escapes for what would
break the line or the quotes, and code points for what would not be seen.
-/

namespace MeteredScript.Text

/-- A digit of a number in base 16. -/
def hexDigit (n : Nat) : Char :=
  if n < 10 then Char.ofNat ('0'.toNat + n) else Char.ofNat ('a'.toNat + (n - 10))

/-- A number in base 16 with as many digits as it needs, but at most
`places`. -/
def hexDigits : (places : Nat) → Nat → List Char
  | 0, _ => []
  | places + 1, n =>
    if n < 16 then [hexDigit n] else hexDigits places (n / 16) ++ [hexDigit (n % 16)]

/-- A character shown by its code point. -/
def codePoint (c : Char) : List Char :=
  ['\\', 'u', '\x7b'] ++ hexDigits 8 c.toNat ++ ['\x7d']

/-- How one character is shown. -/
def literalChar (c : Char) : List Char :=
  if c = '\x00' then ['\\', '0']
  else if c = '\t' then ['\\', 't']
  else if c = '\r' then ['\\', 'r']
  else if c = '\n' then ['\\', 'n']
  else if c = '"' then ['\\', '"']
  else if c = '\\' then ['\\', '\\']
  else if isShown c then [c]
  else codePoint c

/-- **A text as a report shows it.** -/
def literal (s : String) : String :=
  String.ofList ('"' :: (s.toList.flatMap literalChar ++ ['"']))

end MeteredScript.Text
