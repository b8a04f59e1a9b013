import MeteredScript.Syntax.Tree

/-!
# The parts of an expression

An expression is evaluated by evaluating its *parts* in the same scope and doing
something with their values. Not all that stands in an expression is a part of
it: the body of a lambda is evaluated by those who call it, and a comprehension
evaluates its first iterable where it stands and all else in a scope of its own.

So expressions that do the same as the parts of an expression may stand in their
places (`Expr.mapParts`), and the expression that they are then parts of does the
same as before.
-/

namespace MeteredScript

/-! ## Parts and other parts in their places -/

/-- The expressions in parts of a formatted text. -/
def FormatPart.exprs : FormatPart → List Expr
  | .text _ => []
  | .value e => [e]

/-- Another expression in a part of a formatted text. -/
def FormatPart.map (f : Expr → Expr) : FormatPart → FormatPart
  | .text part => .text part
  | .value e => .value (f e)

/-- Another default of a parameter. -/
def Parameter.map (f : Expr → Expr) (p : Parameter) : Parameter :=
  { p with fallback := p.fallback.map f }

/-- Another expression to iterate. -/
def Clause.mapIterable (f : Expr → Expr) (c : Clause) : Clause :=
  { c with iterable := f c.iterable }

namespace Expr

/-- **The parts of an expression**, in the order of their evaluation. -/
def parts : Expr → List Expr
  | .int _ | .str _ | .bool _ | .none | .name _ | .yield _ | .comprehension _ [] => []
  | .format parts => parts.flatMap FormatPart.exprs
  | .list items | .tuple items | .set items => items
  | .dict entries => entries.flatMap fun entry => [entry.1, entry.2]
  | .attribute object _ => [object]
  | .subscript object index => [object, index]
  | .call callee arguments => callee :: arguments
  | .binary left _ right | .logical left _ right => [left, right]
  | .unary _ operand => [operand]
  | .compare first links => first :: links.map Prod.snd
  | .conditional condition whenTrue whenFalse => [condition, whenTrue, whenFalse]
  | .lambda parameters _ => parameters.flatMap fun p => p.fallback.toList
  | .comprehension _ (first :: _) => [first.iterable]

/-- **An expression with other parts.** -/
def mapParts (f : Expr → Expr) : Expr → Expr
  | .format parts => .format (parts.map (FormatPart.map f))
  | .list items => .list (items.map f)
  | .tuple items => .tuple (items.map f)
  | .set items => .set (items.map f)
  | .dict entries => .dict (entries.map (Prod.map f f))
  | .attribute object id => .attribute (f object) id
  | .subscript object index => .subscript (f object) (f index)
  | .call callee arguments => .call (f callee) (arguments.map f)
  | .binary left op right => .binary (f left) op (f right)
  | .logical left op right => .logical (f left) op (f right)
  | .unary op operand => .unary op (f operand)
  | .compare first links => .compare (f first) (links.map (Prod.map id f))
  | .conditional condition whenTrue whenFalse =>
    .conditional (f condition) (f whenTrue) (f whenFalse)
  | .lambda parameters body => .lambda (parameters.map (Parameter.map f)) body
  | .comprehension form (first :: rest) => .comprehension form (first.mapIterable f :: rest)
  | e => e

end Expr

@[simp] theorem FormatPart.map_id : FormatPart.map id = id := by
  funext part
  cases part <;> rfl

@[simp] theorem Parameter.map_id : Parameter.map id = id := by
  funext p
  cases p
  simp [Parameter.map]

@[simp] theorem Expr.mapParts_id (e : Expr) : e.mapParts id = e := by
  cases e with
  | comprehension form clauses =>
    match clauses with
    | [] | ⟨_, _, _⟩ :: _ => rfl
  | _ => simp [mapParts]

end MeteredScript
