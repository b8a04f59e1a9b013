/-!
# Operators

The operators of the scripting language and how each is spelled. The
spelling occurs in the texts of type errors, so it is part of what a script
can observe.
-/

namespace MeteredScript

/-- Arithmetic and bitwise operators. Each also has an augmented form,
`target op= value`. -/
inductive BinaryOp where
  | add | sub | mul | floorDiv | mod | pow | bitOr | bitAnd | bitXor
  deriving DecidableEq, Repr

/-- The spelling between two operands. -/
def BinaryOp.symbol : BinaryOp → String
  | add => "+"
  | sub => "-"
  | mul => "*"
  | floorDiv => "//"
  | mod => "%"
  | pow => "**"
  | bitOr => "|"
  | bitAnd => "&"
  | bitXor => "^"

/-- The spelling of the augmented form. -/
def BinaryOp.augmented (op : BinaryOp) : String := op.symbol ++ "="

/-- Relations that a link of a comparison chain can test. -/
inductive CompareOp where
  | lt | le | gt | ge | eq | ne | isIn | notIn | is | isNot
  deriving DecidableEq, Repr

/-- The spelling between two operands. -/
def CompareOp.symbol : CompareOp → String
  | lt => "<"
  | le => "<="
  | gt => ">"
  | ge => ">="
  | eq => "=="
  | ne => "!="
  | isIn => "in"
  | notIn => "not in"
  | is => "is"
  | isNot => "is not"

/-- Connectives that evaluate to one of their operands and skip the right one
when the left one decides. -/
inductive LogicalOp where
  | and | or
  deriving DecidableEq, Repr

/-- Operators of one operand. -/
inductive UnaryOp where
  | neg | not
  deriving DecidableEq, Repr

end MeteredScript
