import MeteredScript.Evaluation.Call
import MeteredScript.Evaluation.Comprehension
import MeteredScript.Operation.Relation
import MeteredScript.Syntax.Yield

/-!
# Expressions

The value of each form of expression. Evaluating an expression costs one unit
of gas before anything else happens, and the parts of an expression are
evaluated from the left. A `yield` is not an expression with a value of its
own: the generator machine takes care of the places where it may stand, and
anywhere else it is a type error.
-/

namespace MeteredScript

/-! ## Comparison chains -/

/-- Whether an item is among those that a generator still yields. The
generator is run up to the first such item. -/
def memberOfGenerator (ev : Evaluator) (item : Value) (id : GeneratorId) : Eval Bool :=
  ev.iterate (fun _ yielded => do
    Eval.tick
    if ← Eval.ofAnswer ((← Eval.heap).equal? yielded item) then return .done true
    else return .yield false) ev.rounds (.generator id) false

/-- **Whether one link of a chain holds.** -/
def linkHolds (ev : Evaluator) (op : CompareOp) (l r : Value) : Eval Bool := do
  match op, r with
  | .isIn, .generator id _ => memberOfGenerator ev l id
  | .notIn, .generator id _ => (!·) <$> memberOfGenerator ev l id
  | op, r => Eval.ofStop (related (← Eval.heap) op l r)

/-- Whether all links of a chain hold, given the value of the operand before
them. Operands after the first link that does not hold are not evaluated. -/
def chainHolds (ev : Evaluator) (scope : ScopeId) (l : Value) :
    List (CompareOp × Expr) → Eval Bool
  | [] => return true
  | (op, operand) :: links => do
    let r ← ev.eval operand scope
    if ← linkHolds ev op l r then chainHolds ev scope r links else return false

/-! ## Parts of expressions -/

/-- The text of a formatted text. -/
def evalParts (ev : Evaluator) (scope : ScopeId) (text : String) : List FormatPart → Eval String
  | [] => return text
  | .text part :: rest => evalParts ev scope (text ++ part) rest
  | .value e :: rest => do
    let part ← Eval.text (← ev.eval e scope)
    evalParts ev scope (text ++ part) rest

/-- The entries of a dict display. -/
def evalEntries (ev : Evaluator) (scope : ScopeId) :
    List (Expr × Expr) → Eval (List (Value × Value))
  | [] => return []
  | (key, value) :: rest => do
    let entry ← evalEntry ev scope key value
    return entry :: (← evalEntries ev scope rest)

/-- The value of a default, if there is one. -/
def evalFallback (ev : Evaluator) (scope : ScopeId) : Option Expr → Eval (Option Value)
  | none => return none
  | some e => return some (← ev.eval e scope)

/-- The parameters of a definition, with the values of their defaults. -/
def evalParameters (ev : Evaluator) (scope : ScopeId) :
    List Parameter → Eval (List (String × Option Value))
  | [] => return []
  | p :: rest => do
    let fallback ← evalFallback ev scope p.fallback
    return (p.name, fallback) :: (← evalParameters ev scope rest)

/-- The name that lambdas have. -/
def lambdaName : String := "<lambda>"

/-- The value of a minus sign or a `not` before a value. -/
def unaryValue (op : UnaryOp) (v : Value) : Eval Value := do
  match op with
  | .not => return .bool (!(← Eval.isTruthy v))
  | .neg => Eval.ofFault (negated v)

/-- Whether the left operand alone decides a logical expression. -/
def LogicalOp.decidedBy : LogicalOp → Bool → Bool
  | .and, left => !left
  | .or, left => left

/-- The value of an expression, once its gas is paid. -/
def evalForm (ev : Evaluator) (scope : ScopeId) : Expr → Eval Value
  | .int n => return .int n
  | .str s => return .str s
  | .bool b => return .bool b
  | .none => return .none
  | .format parts => do return .str (← evalParts ev scope "" parts)
  | .list items => do Eval.place (.list (← ev.evalAll scope items).toArray)
  | .tuple items => do return .tuple (← ev.evalAll scope items)
  | .set items => do placeSet (← ev.evalAll scope items).toArray
  | .dict entries => do placeDict (← evalEntries ev scope entries)
  | .name id => Eval.lookup scope id
  | .attribute object name => do Eval.getAttribute (← ev.eval object scope) name
  | .subscript object index => do
    let container ← ev.eval object scope
    let key ← ev.eval index scope
    Eval.ofStop (itemAt (← Eval.heap) container key)
  | .call callee arguments => do
    let f ← ev.eval callee scope
    callValue ev f (← ev.evalAll scope arguments)
  | .binary left op right => do
    let l ← ev.eval left scope
    binaryValue op l (← ev.eval right scope)
  | .logical left op right => do
    let l ← ev.eval left scope
    if op.decidedBy (← Eval.isTruthy l) then return l else ev.eval right scope
  | .unary op operand => do unaryValue op (← ev.eval operand scope)
  | .compare first links => do
    let l ← ev.eval first scope
    return .bool (← chainHolds ev scope l links)
  | .conditional condition whenTrue whenFalse => do
    if ← ev.holds scope condition then ev.eval whenTrue scope else ev.eval whenFalse scope
  | .lambda parameters body => do
    let parameters ← evalParameters ev scope parameters
    Eval.newFunction lambdaName ⟨parameters, .expr body, scope, false⟩
  | .comprehension form clauses => evalComprehension ev scope form clauses
  | .yield _ => Eval.fail (.typeFault .yieldPosition)

/-- **The value of an expression in a scope.** -/
def evalExpr (ev : Evaluator) (e : Expr) (scope : ScopeId) : Eval Value := do
  Eval.tick
  evalForm ev scope e

end MeteredScript
