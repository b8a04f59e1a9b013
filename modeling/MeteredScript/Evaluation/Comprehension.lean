import MeteredScript.Evaluation.Assignment
import MeteredScript.Evaluation.Builtin

/-!
# Comprehensions

The first iterable of a comprehension is evaluated in the scope around it.
Everything else runs in a scope of the comprehension's own, from which an
enclosing class body cannot be seen.

A generator expression becomes a generator whose body is written out with
`for`, `if` and `yield` statements (`generatorBody`). Its first iterable is
handed over under `outerIterable`, which no script can use as a name.
-/

namespace MeteredScript

/-- The name under which a generator expression finds its first iterable. -/
def outerIterable : String := ".0"

/-- The name of the generators that generator expressions make. -/
def generatorExpressionName : String := "<genexpr>"

/-- The loop that one clause stands for. -/
def Clause.toLoop (c : Clause) (iterable : Expr) (body : Block) : Block :=
  let guarded := c.conditions.foldr
    (fun condition block => [StmtForm.synthetic (.branch condition block none)]) body
  [StmtForm.synthetic (.forLoop c.target iterable guarded none)]

/-- The loops that several clauses stand for, inside one another, around a
`yield` of the element. -/
def clausesToLoops (element : Expr) : List Clause → Block
  | [] => [StmtForm.synthetic (.expr (.yield (some element)))]
  | c :: rest => c.toLoop c.iterable (clausesToLoops element rest)

/-- **The body of a generator expression.** -/
def generatorBody (element : Expr) (first : Clause) (rest : List Clause) : Block :=
  first.toLoop (.name outerIterable) (clausesToLoops element rest)

/-- What a clause iterates: the given value, or that of its own expression. -/
def clauseIterable (ev : Evaluator) (scope : ScopeId) (c : Clause) : Option Value → Eval Value
  | some v => return v
  | none => ev.eval c.iterable scope

/-- **Run the clauses of a comprehension** and add an element for each turn of
the innermost. The iterable of the first clause may be given. -/
def collectElements {α : Type} (ev : Evaluator) (scope : ScopeId) (element : Eval α) :
    List Clause → Option Value → Array α → Eval (Array α)
  | [], _, elements => return elements.push (← element)
  | c :: rest, outer, elements => do
    let cursor ← Evaluator.startIteration (← clauseIterable ev scope c outer)
    ev.iterate (fun elements item => do
      Eval.tick
      assignTarget ev scope c.target item
      if ← ev.allHold scope c.conditions then
        return .yield (← collectElements ev scope element rest none elements)
      else return .yield elements) ev.rounds cursor elements

/-- The value of a dict entry: a key and a value, in this order. -/
def evalEntry (ev : Evaluator) (scope : ScopeId) (key value : Expr) : Eval (Value × Value) := do
  let k ← ev.eval key scope
  return (k, ← ev.eval value scope)

/-- The generator of a generator expression. Its first iterable was evaluated
already, and whether it can be iterated is found out before the generator is
made. -/
def newGeneratorExpression (scope : ScopeId) (body : Block) (outer : Value) : Eval Value := do
  let inner ← Eval.newScope .comprehension (some scope)
  let _ ← Evaluator.startIteration outer
  Eval.define inner outerIterable outer
  Eval.setGeneratorState ⟨inner⟩ (.notStarted body)
  return .generator ⟨inner⟩ generatorExpressionName

/-- A generator expression whose first iterable cannot be iterated leaves its scope
behind and nothing else. -/
theorem on_newGeneratorExpression (scope : ScopeId) (body : Block) (outer : Value) (m : Machine) :
    (newGeneratorExpression scope body outer).on m =
      match Cursor.ofValue m.heap outer with
      | .error f => (.error (.fault f),
          { m with scopes := (m.scopes.addScope .comprehension (some scope) none).2 })
      | .ok _ =>
        let (inner, scopes) :=
          m.scopes.addScope .comprehension (some scope) (some (.notStarted body))
        (.ok (.generator ⟨inner⟩ generatorExpressionName),
          { m with scopes := scopes.define inner outerIterable outer }) := by
  rw [newGeneratorExpression, Eval.on_bind_ok rfl, Evaluator.startIteration, bind_assoc,
    Eval.on_bind_ok rfl]
  dsimp only
  cases Cursor.ofValue m.heap outer with
  | error f => rfl
  | ok cursor =>
    have hscopes := m.scopes.setGenerator_define_addScope .comprehension (some scope)
      (.notStarted body) outerIterable outer
    exact congrArg (fun scopes => (Except.ok _, { m with scopes })) hscopes

/-- **The value of a comprehension.** -/
def evalComprehension (ev : Evaluator) (scope : ScopeId) (form : ComprehensionForm)
    (clauses : List Clause) : Eval Value := do
  match clauses with
  | [] => Eval.fail (.typeFault .noClauses)
  | first :: rest =>
    let outer ← ev.eval first.iterable scope
    match form with
    | .generator element =>
      newGeneratorExpression scope (generatorBody element first rest) outer
    | .list element =>
      let inner ← Eval.newScope .comprehension (some scope)
      Eval.place (.list (← collectElements ev inner (ev.eval element inner) clauses outer #[]))
    | .set element =>
      let inner ← Eval.newScope .comprehension (some scope)
      placeSet (← collectElements ev inner (ev.eval element inner) clauses outer #[])
    | .dict key value =>
      let inner ← Eval.newScope .comprehension (some scope)
      let entries ← collectElements ev inner (evalEntry ev inner key value) clauses outer #[]
      placeDict entries.toList

end MeteredScript
