import MeteredScript.Syntax.Operator
import MeteredScript.Syntax.Span

/-!
# Syntax trees

A script is a list of statements. Expressions and statements are the two
families; a block is a list of statements, and a clause that may be left out
is an `Option`. An `else` or `finally` clause that is present and empty
differs from one that is absent: entering it costs gas in a generator body.

Integers are 64 bits wide already in the tree, since the language has no
others.
-/

namespace MeteredScript

mutual

/-- **Expressions.** -/
inductive Expr where
  | int (value : Int64)
  | str (text : String)
  | bool (value : Bool)
  | none
  /-- Text with embedded expressions. -/
  | format (parts : List FormatPart)
  | list (items : List Expr)
  | tuple (items : List Expr)
  | set (items : List Expr)
  | dict (entries : List (Expr × Expr))
  | name (id : String)
  | attribute (object : Expr) (name : String)
  | subscript (object index : Expr)
  | call (callee : Expr) (arguments : List Expr)
  | binary (left : Expr) (op : BinaryOp) (right : Expr)
  | logical (left : Expr) (op : LogicalOp) (right : Expr)
  | unary (op : UnaryOp) (operand : Expr)
  /-- A first operand and the links that follow it, as in `a < b <= c`. -/
  | compare (first : Expr) (links : List (CompareOp × Expr))
  | conditional (condition whenTrue whenFalse : Expr)
  | lambda (parameters : List Parameter) (body : Expr)
  | comprehension (form : ComprehensionForm) (clauses : List Clause)
  | yield (operand : Option Expr)

/-- A part of a formatted text. -/
inductive FormatPart where
  | text (text : String)
  | value (expr : Expr)

/-- What a comprehension builds, and from which expressions. -/
inductive ComprehensionForm where
  | list (element : Expr)
  | set (element : Expr)
  | dict (key value : Expr)
  | generator (element : Expr)

/-- One `for … in … if …` clause of a comprehension. -/
structure Clause where
  /-- What each item is assigned to. -/
  target : Expr
  /-- What is iterated. -/
  iterable : Expr
  /-- All of these must hold of an item for it to be used. -/
  conditions : List Expr

/-- A positional parameter and the expression of its default, if it has
one. -/
structure Parameter where
  /-- The name the argument is bound to. -/
  name : String
  /-- The default, which is evaluated when the function is defined. -/
  fallback : Option Expr

end

instance : Inhabited Expr := ⟨.none⟩

/-- Constants that may stand in a pattern. -/
inductive Literal where
  | int (value : Int64)
  | str (text : String)
  | bool (value : Bool)
  | none
  deriving DecidableEq, Repr

/-- **Patterns** of a `match` statement. -/
inductive Pattern where
  /-- Any of the given constants. -/
  | literals (options : List Literal)
  /-- A list or tuple with as many items as there are names. -/
  | sequence (names : List String)
  /-- Anything, bound to a name. -/
  | capture (name : String)
  /-- Anything. -/
  | wildcard
  deriving DecidableEq, Repr

mutual

/-- **A statement** and where it stands in the source. -/
structure Stmt where
  /-- Where it stands. -/
  span : Span
  /-- What it says. -/
  form : StmtForm

/-- The forms of a statement. -/
inductive StmtForm where
  | expr (value : Expr)
  /-- `t₁ = t₂ = value`; the targets are assigned from the left. -/
  | assign (targets : List Expr) (value : Expr)
  | augmented (target : Expr) (op : BinaryOp) (value : Expr)
  | branch (condition : Expr) (body : List Stmt) (orElse : Option (List Stmt))
  | whileLoop (condition : Expr) (body : List Stmt) (orElse : Option (List Stmt))
  | forLoop (target iterable : Expr) (body : List Stmt) (orElse : Option (List Stmt))
  | function (name : String) (parameters : List Parameter) (body : List Stmt)
  | classDef (name : String) (body : List Stmt)
  | returns (value : Option Expr)
  | attempt (body : List Stmt) (handlers : List Handler)
      (orElse cleanup : Option (List Stmt))
  /-- Raise the given exception, or the one being handled. -/
  | raise (exception : Option Expr)
  | select (subject : Expr) (cases : List Case)
  | breaks
  | continues
  | pass

/-- One `except` clause. -/
structure Handler where
  /-- An exception class or a tuple of them; without it the clause handles
  every exception. -/
  catches : Option Expr
  /-- The name that the exception is bound to. -/
  name : Option String
  /-- What is run. -/
  body : List Stmt

/-- One `case` of a `match` statement. -/
structure Case where
  /-- What the subject must look like. -/
  pattern : Pattern
  /-- A condition tested after the captures are bound. -/
  guard : Option Expr
  /-- What is run. -/
  body : List Stmt

end

instance : Inhabited Stmt := ⟨⟨.synthetic, .pass⟩⟩

/-- A list of statements run in order. -/
abbrev Block := List Stmt

/-- A statement with no source text behind it. -/
def StmtForm.synthetic (form : StmtForm) : Stmt := ⟨.synthetic, form⟩

end MeteredScript
