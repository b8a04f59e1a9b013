import MeteredScript.Syntax.Tree

/-!
# Which names occur in code

All names that a piece of code reads or binds in a scope, or looks up as an
attribute: variables, parameters, names of functions and classes, captures of
patterns, names of handlers. Code that stands inside other code counts, so a
name that does not occur in a script is never looked up by it, whatever
functions and classes it defines.
-/

namespace MeteredScript

/-- The names that a pattern binds. -/
def Pattern.names : Pattern → List String
  | .literals _ | .wildcard => []
  | .sequence names => names
  | .capture name => [name]

mutual

/-- **The names that occur in an expression.** -/
def Expr.names : Expr → List String
  | .int _ | .str _ | .bool _ | .none => []
  | .format parts => partsNames parts
  | .list items | .tuple items | .set items => exprsNames items
  | .dict entries => entriesNames entries
  | .name id => [id]
  | .attribute object name => name :: object.names
  | .subscript object index => object.names ++ index.names
  | .call callee arguments => callee.names ++ exprsNames arguments
  | .binary left _ right | .logical left _ right => left.names ++ right.names
  | .unary _ operand => operand.names
  | .compare first links => first.names ++ linksNames links
  | .conditional condition whenTrue whenFalse =>
    condition.names ++ whenTrue.names ++ whenFalse.names
  | .lambda parameters body => parametersNames parameters ++ body.names
  | .comprehension form clauses => form.names ++ clausesNames clauses
  | .yield operand => optionalNames operand

/-- The names that occur in an expression that may be left out. -/
def optionalNames : Option Expr → List String
  | none => []
  | some e => e.names

/-- The names that occur in several expressions. -/
def exprsNames : List Expr → List String
  | [] => []
  | e :: es => e.names ++ exprsNames es

/-- The names that occur in the entries of a dict display. -/
def entriesNames : List (Expr × Expr) → List String
  | [] => []
  | (key, value) :: es => key.names ++ value.names ++ entriesNames es

/-- The names that occur in the links of a comparison. -/
def linksNames : List (CompareOp × Expr) → List String
  | [] => []
  | (_, operand) :: ls => operand.names ++ linksNames ls

/-- The names that occur in the parts of a formatted text. -/
def partsNames : List FormatPart → List String
  | [] => []
  | .text _ :: ps => partsNames ps
  | .value e :: ps => e.names ++ partsNames ps

/-- The names that occur in the element of a comprehension. -/
def ComprehensionForm.names : ComprehensionForm → List String
  | .list element | .set element | .generator element => element.names
  | .dict key value => key.names ++ value.names

/-- The names that occur in clauses of a comprehension. -/
def clausesNames : List Clause → List String
  | [] => []
  | ⟨target, iterable, conditions⟩ :: cs =>
    target.names ++ iterable.names ++ exprsNames conditions ++ clausesNames cs

/-- The names of parameters and those that occur in their defaults. -/
def parametersNames : List Parameter → List String
  | [] => []
  | ⟨name, fallback⟩ :: ps => name :: optionalNames fallback ++ parametersNames ps

end

mutual

/-- **The names that occur in a statement.** -/
def Stmt.names : Stmt → List String
  | ⟨_, form⟩ => form.names

/-- The names that occur in a statement of this form. -/
def StmtForm.names : StmtForm → List String
  | .expr value => value.names
  | .assign targets value => exprsNames targets ++ value.names
  | .augmented target _ value => target.names ++ value.names
  | .branch condition body orElse =>
    condition.names ++ blockNames body ++ optionalBlockNames orElse
  | .whileLoop condition body orElse =>
    condition.names ++ blockNames body ++ optionalBlockNames orElse
  | .forLoop target iterable body orElse =>
    target.names ++ iterable.names ++ blockNames body ++ optionalBlockNames orElse
  | .function name parameters body => name :: parametersNames parameters ++ blockNames body
  | .classDef name body => name :: blockNames body
  | .returns value => optionalNames value
  | .attempt body handlers orElse cleanup =>
    blockNames body ++ handlersNames handlers ++ optionalBlockNames orElse
      ++ optionalBlockNames cleanup
  | .raise exception => optionalNames exception
  | .select subject cases => subject.names ++ casesNames cases
  | .breaks | .continues | .pass => []

/-- **The names that occur in a block.** -/
def blockNames : List Stmt → List String
  | [] => []
  | s :: ss => s.names ++ blockNames ss

/-- The names that occur in a block that may be left out. -/
def optionalBlockNames : Option (List Stmt) → List String
  | none => []
  | some block => blockNames block

/-- The names that occur in handlers, with those the exceptions are bound
to. -/
def handlersNames : List Handler → List String
  | [] => []
  | ⟨catches, name, body⟩ :: hs =>
    optionalNames catches ++ name.toList ++ blockNames body ++ handlersNames hs

/-- The names that occur in the cases of a `match` statement, with those that
their patterns bind. -/
def casesNames : List Case → List String
  | [] => []
  | ⟨pattern, guard, body⟩ :: cs =>
    pattern.names ++ optionalNames guard ++ blockNames body ++ casesNames cs

end

end MeteredScript
