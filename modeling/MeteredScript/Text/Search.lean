/-!
# Finding a text in a text

Whether and how often one text occurs in another. Occurrences are counted
from the left and do not overlap.
-/

namespace MeteredScript.Text

/-- Whether `needle` occurs in a text. -/
def occursIn (needle : List Char) : List Char → Bool
  | [] => needle.isEmpty
  | c :: cs => needle.isPrefixOf (c :: cs) || occursIn needle cs

/-- How often `needle` occurs in a text, after `skip` characters that belong
to an earlier occurrence. -/
def countFrom (needle : List Char) : (skip : Nat) → List Char → Nat
  | _, [] => 0
  | skip + 1, _ :: cs => countFrom needle skip cs
  | 0, c :: cs =>
    if needle.isPrefixOf (c :: cs) then 1 + countFrom needle (needle.length - 1) cs
    else countFrom needle 0 cs

/-- **How often a text occurs in another** without overlap. The empty text
occurs before every character and at the end. -/
def countOccurrences (needle text : List Char) : Nat :=
  if needle.isEmpty then text.length + 1 else countFrom needle 0 text

end MeteredScript.Text
