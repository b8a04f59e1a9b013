import MeteredScript.Syntax.Tree

/-!
# Which bodies are generator bodies

A function whose body contains a `yield` is a generator function: calling it
makes a generator and runs nothing. Nested functions, classes, lambdas and
comprehensions run in scopes of their own, and their yields do not count.

The generator machine asks the same question of single statements, since only
a statement that contains a yield can be left half done.
-/

namespace MeteredScript

mutual

/-- Whether evaluating the expression in its own scope meets a `yield`. -/
def Expr.yields : Expr → Bool
  | .yield _ => true
  | .int _ | .str _ | .bool _ | .none | .name _ | .lambda .. | .comprehension .. => false
  | .format parts => partsYield parts
  | .list items | .tuple items | .set items => exprsYield items
  | .dict entries => entriesYield entries
  | .attribute object _ => object.yields
  | .subscript object index => object.yields || index.yields
  | .call callee arguments => callee.yields || exprsYield arguments
  | .binary left _ right | .logical left _ right => left.yields || right.yields
  | .unary _ operand => operand.yields
  | .compare first links => first.yields || linksYield links
  | .conditional condition whenTrue whenFalse =>
    condition.yields || whenTrue.yields || whenFalse.yields

/-- Whether one of the expressions yields. -/
def exprsYield : List Expr → Bool
  | [] => false
  | e :: es => e.yields || exprsYield es

/-- Whether a key or a value of the entries yields. -/
def entriesYield : List (Expr × Expr) → Bool
  | [] => false
  | (key, value) :: es => key.yields || value.yields || entriesYield es

/-- Whether an operand of the links yields. -/
def linksYield : List (CompareOp × Expr) → Bool
  | [] => false
  | (_, operand) :: ls => operand.yields || linksYield ls

/-- Whether an embedded expression yields. -/
def partsYield : List FormatPart → Bool
  | [] => false
  | .text _ :: ps => partsYield ps
  | .value e :: ps => e.yields || partsYield ps

end

/-- Whether an expression that may be left out yields. -/
def optionalYields : Option Expr → Bool
  | none => false
  | some e => e.yields

mutual

/-- Whether running the statement in its own scope meets a `yield`. -/
def Stmt.yields : Stmt → Bool
  | ⟨_, form⟩ => form.yields

/-- Whether running a statement of this form in its own scope meets a
`yield`. -/
def StmtForm.yields : StmtForm → Bool
  | .expr value => value.yields
  | .assign targets value => value.yields || exprsYield targets
  | .augmented target _ value => target.yields || value.yields
  | .branch condition body orElse =>
    condition.yields || blockYields body || optionalBlockYields orElse
  | .whileLoop condition body orElse =>
    condition.yields || blockYields body || optionalBlockYields orElse
  | .forLoop target iterable body orElse =>
    iterable.yields || target.yields || blockYields body || optionalBlockYields orElse
  | .attempt body handlers orElse cleanup =>
    blockYields body || handlersYield handlers || optionalBlockYields orElse
      || optionalBlockYields cleanup
  | .returns value => optionalYields value
  | .raise exception => optionalYields exception
  | .select subject cases => subject.yields || casesYield cases
  | .function .. | .classDef .. | .breaks | .continues | .pass => false

/-- **Whether a body is a generator body.** -/
def blockYields : List Stmt → Bool
  | [] => false
  | s :: ss => s.yields || blockYields ss

/-- Whether a block that may be left out yields. -/
def optionalBlockYields : Option (List Stmt) → Bool
  | none => false
  | some block => blockYields block

/-- Whether a handler yields, in its class expression or its body. -/
def handlersYield : List Handler → Bool
  | [] => false
  | ⟨catches, _, body⟩ :: hs => optionalYields catches || blockYields body || handlersYield hs

/-- Whether a case yields, in its guard or its body. -/
def casesYield : List Case → Bool
  | [] => false
  | ⟨_, guard, body⟩ :: cs => optionalYields guard || blockYields body || casesYield cs

end

/-- The operand of an expression that is a `yield` and nothing more. -/
def Expr.yieldOperand? : Expr → Option (Option Expr)
  | .yield operand => some operand
  | _ => none

theorem exprsYield_eq_any (es : List Expr) : exprsYield es = es.any Expr.yields := by
  induction es with
  | nil => rfl
  | cons e es ih => simp [exprsYield, ih]

theorem blockYields_eq_any (block : List Stmt) : blockYields block = block.any Stmt.yields := by
  induction block with
  | nil => rfl
  | cons s ss ih => simp [blockYields, ih]

end MeteredScript
