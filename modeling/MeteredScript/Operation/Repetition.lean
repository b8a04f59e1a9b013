import MeteredScript.Fault.Raised
import MeteredScript.Heap.Basic

/-!
# How long a repetition is

A string, list or tuple times an integer is that many copies in a row, and no
copies at all for a negative one. How long the result is can be told before
it is built. The evaluator charges for it by that length, and a result beyond
`maxLength` is refused. Strings are measured in bytes of their UTF-8 form,
lists and tuples in items.
-/

namespace MeteredScript

/-- The length that no repetition may exceed. -/
def maxLength : Nat := 4294967296

/-- The length of a sequence that can be repeated, and what it is called. -/
def Value.repeatable? (h : Heap) : Value → Option (Nat × String)
  | .str s => some (s.utf8ByteSize, "string")
  | .list id => some ((h.list id).size, "list")
  | .tuple items => some (items.length, "tuple")
  | _ => Option.none

/-- How many copies an integer asks for. -/
def copies (n : Int64) : Nat := n.toInt.toNat

/-- The length of a repetition, if it is allowed. -/
def repetitionLength (length : Nat) (what : String) (count : Int64) : Except Fault Nat :=
  if length * copies count ≤ maxLength then .ok (length * copies count)
  else .error (.repetitionTooLong what)

/-- **The length of what an operation builds by repetition.** There is none
for operations that do not repeat a sequence. -/
def repeatLength (h : Heap) (op : BinaryOp) (l r : Value) : Except Fault (Option Nat) :=
  if op ≠ .mul then .ok none
  else
    match l.repeatable? h, r.asInt?, r.repeatable? h, l.asInt? with
    | some (length, what), some count, _, _ => some <$> repetitionLength length what count
    | _, _, some (length, what), some count => some <$> repetitionLength length what count
    | _, _, _, _ => .ok none

end MeteredScript
