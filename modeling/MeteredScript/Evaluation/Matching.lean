import MeteredScript.Evaluation.Evaluator

/-!
# Pattern matching

The cases of a `match` statement are tried in order. The first case whose
pattern fits the subject and whose guard, if there is one, holds is selected.
What a fitting pattern captures is bound before its guard is tried and stays
bound if the guard fails.

`True`, `False` and `None` in a pattern stand for themselves only: `case True`
does not fit 1. A number fits everything that counts as that number.
-/

namespace MeteredScript

/-- Whether a constant of a pattern fits a value. -/
def Literal.fits : Literal → Value → Bool
  | .int n, v => v.asInt? == some n
  | .str s, v => v.isSame (.str s)
  | .bool b, v => v.isSame (.bool b)
  | .none, v => v.isNone

/-- The items of a list or tuple. -/
def Value.sequence? (h : Heap) : Value → Option (List Value)
  | .list id => some (h.list id).toList
  | .tuple items => some items
  | _ => Option.none

/-- **What a pattern captures of a value**, if it fits. -/
def Pattern.captures? (h : Heap) (p : Pattern) (subject : Value) :
    Option (List (String × Value)) :=
  match p with
  | .wildcard => some []
  | .capture name => some [(name, subject)]
  | .literals options => if options.any (·.fits subject) then some [] else none
  | .sequence names => do
    let items ← subject.sequence? h
    if items.length = names.length then some ((names.zip items).filter (·.1 ≠ "_")) else none

/-- Bind names in a scope, in order. -/
def bindCaptures (scope : ScopeId) : List (String × Value) → Eval Unit
  | [] => pure ()
  | (name, value) :: rest => do
    Eval.define scope name value
    bindCaptures scope rest

/-- Whether a guard holds. One that is left out does. -/
def guardHolds (ev : Evaluator) (scope : ScopeId) : Option Expr → Eval Bool
  | none => return true
  | some guard => ev.holds scope guard

/-- **The body of the selected case**, if one is selected. -/
def selectCase (ev : Evaluator) (scope : ScopeId) (subject : Value) :
    List Case → Eval (Option Block)
  | [] => return none
  | c :: cases => do
    match c.pattern.captures? (← Eval.heap) subject with
    | none => selectCase ev scope subject cases
    | some captures =>
      bindCaptures scope captures
      if ← guardHolds ev scope c.guard then return some c.body
      else selectCase ev scope subject cases

end MeteredScript
