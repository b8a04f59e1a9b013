import MeteredScript.Operation.Integer
import MeteredScript.Operation.Repetition

/-!
# Binary operators

What `l op r` is. The operators read their operands and change nothing: a
container among the results is given as its contents (`Fresh`), and it
becomes an object only when the evaluator puts it into the heap.

Integers and bools compute as 64-bit numbers, except that `|`, `&` and `^`
of two bools are bools. `+` joins two strings, lists or tuples, `*` repeats
one, `|`, `&`, `-` and `^` combine two sets, and `|` merges two dicts. Nothing
else combines.
-/

namespace MeteredScript

/-- **A result that is not in the heap yet**: a value, or the contents of a
new container. -/
inductive Fresh where
  | value (v : Value)
  | list (items : Array Value)
  | dict (entries : EntryTable)
  | set (items : ItemTable)
  deriving Repr

/-- Put a result into the heap. -/
def Heap.place (h : Heap) : Fresh → Value × Heap
  | .value v => (v, h)
  | .list items => let (id, h) := h.newList items; (.list id, h)
  | .dict entries => let (id, h) := h.newDict entries; (.dict id, h)
  | .set items => let (id, h) := h.newSet items; (.set id, h)

/-- The bitwise operators on two truth values. -/
def BinaryOp.onBools? : BinaryOp → Bool → Bool → Option Bool
  | .bitOr, a, b => some (a || b)
  | .bitAnd, a, b => some (a && b)
  | .bitXor, a, b => some (a != b)
  | _, _, _ => none

/-- The set operators. -/
def BinaryOp.onSets? : BinaryOp → ItemTable → ItemTable → Option ItemTable
  | .bitOr, a, b => some (a.union b)
  | .bitAnd, a, b => some (a.inter b)
  | .sub, a, b => some (a.diff b)
  | .bitXor, a, b => some (a.symmDiff b)
  | _, _, _ => none

/-- A number of copies of a list in a row. Copies of an empty list are not even
counted, since there may be asked for a great many of them. -/
def repeatList {α : Type} (count : Nat) (items : List α) : List α :=
  if items.isEmpty then [] else (List.replicate count items).flatten

/-- A number of copies of a text in a row. -/
def repeatString (count : Nat) (s : String) : String :=
  if s.isEmpty then "" else String.join (List.replicate count s)

theorem repeatList_eq_flatten {α : Type} (count : Nat) (items : List α) :
    repeatList count items = (List.replicate count items).flatten := by
  cases items <;> simp [repeatList]

/-- A sequence repeated, if it is one. -/
def Value.repeated? (h : Heap) (v : Value) (count : Int64) : Option Fresh :=
  match v with
  | .str s => some (.value (.str (repeatString (copies count) s)))
  | .list id => some (.list (repeatList (copies count) (h.list id).toList).toArray)
  | .tuple items => some (.value (.tuple (repeatList (copies count) items)))
  | _ => Option.none

/-- A product of which one side is a sequence and the other an integer. -/
def product? (h : Heap) (l r : Value) : Option Fresh :=
  match r.asInt?, l.asInt? with
  | some count, none => l.repeated? h count
  | none, some count => r.repeated? h count
  | _, _ => none

/-- What an operator builds of two values that are not both numbers. -/
def combine? (h : Heap) (op : BinaryOp) (l r : Value) : Option Fresh :=
  match op, l, r with
  | .add, .str a, .str b => some (.value (.str (a ++ b)))
  | .add, .list a, .list b => some (.list (h.list a ++ h.list b))
  | .add, .tuple xs, .tuple ys => some (.value (.tuple (xs ++ ys)))
  | .mul, l, r => product? h l r
  | .bitOr, .dict a, .dict b => some (.dict ((h.dict a).merge (h.dict b)))
  | op, .set a, .set b => (op.onSets? (h.set a) (h.set b)).map .set
  | _, _, _ => none

/-- An operator between two numbers, where bools count as numbers and `l` and
`r` are the values that the numbers come from. -/
def combineNumbers (op : BinaryOp) (l r : Value) (m n : Int64) : Except Fault Value :=
  match l, r with
  | .bool a, .bool b =>
    match op.onBools? a b with
    | some c => .ok (.bool c)
    | none => .int <$> Integer.apply op m n
  | _, _ => .int <$> Integer.apply op m n

/-- The refusal of an operator, in the given spelling, between two values. -/
def operandsFault (op : String) (l r : Value) : Fault :=
  .typeFault (.operands op l.typeName r.typeName)

/-- **The result of a binary operator.** -/
def binaryResult (h : Heap) (op : BinaryOp) (l r : Value) : Except Fault Fresh :=
  match l.asInt?, r.asInt? with
  | some m, some n => .value <$> combineNumbers op l r m n
  | _, _ => do
    let _ ← repeatLength h op l r
    match combine? h op l r with
    | some result => return result
    | none => throw (operandsFault op.symbol l r)

/-- The result of a minus sign before a value. -/
def negated (v : Value) : Except Fault Value :=
  match v.asInt? with
  | some n => .int <$> Integer.neg n
  | none => .error (.typeFault (.negation v.typeName))

/-- **Whether `v op= r` changes `v` in place** and does not bind a new
value. -/
def Value.combinesInPlace : Value → BinaryOp → Bool
  | .list _, .add | .list _, .mul => true
  | .set _, .bitOr | .set _, .bitAnd | .set _, .sub | .set _, .bitXor => true
  | .dict _, .bitOr => true
  | _, _ => false

end MeteredScript
