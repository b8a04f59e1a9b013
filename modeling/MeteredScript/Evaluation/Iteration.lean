import MeteredScript.Evaluation.Evaluator
import MeteredScript.Operation.Item

/-!
# Iteration

Going through the items of a value. `Cursor.next?` takes one item, `iterate`
takes items until there are no more or until it is told to stop, and
`collect` takes all of them.
-/

namespace MeteredScript

/-- The start of an iteration over a value, if it can be iterated. -/
def Cursor.ofValue (h : Heap) : Value → Except Fault Cursor
  | .list id => .ok (.list id 0)
  | .tuple xs => .ok (.items xs)
  | .str s => .ok (.items (characters s))
  | .dict id => .ok (.items ((h.dict id).values.map Prod.fst))
  | .set id => .ok (.items (h.set id).values)
  | .generator id _ => .ok (.generator id)
  | other => .error (.typeFault (.notIterable other.typeName))

namespace Evaluator

/-- Start to iterate a value. -/
def startIteration (v : Value) : Eval Cursor := do
  Eval.ofFault (Cursor.ofValue (← Eval.heap) v)

/-- **The next item of an iteration** and the position after it. -/
def next? (ev : Evaluator) : Cursor → Eval (Option (Value × Cursor))
  | .list id i => do
    match ((← Eval.heap).list id)[i]? with
    | some v => return some (v, .list id (i + 1))
    | none => return none
  | .items [] => return none
  | .items (v :: rest) => return some (v, .items rest)
  | .generator id => do
    match ← ev.nextYielded? id with
    | some v => return some (v, .generator id)
    | none => return none

/-- **Go through the items of an iteration**, at most `rounds` of them, with a
state that each item changes. A turn that ends with `done` ends the
iteration. -/
def iterate {σ : Type} (ev : Evaluator) (turn : σ → Value → Eval (ForInStep σ)) :
    (rounds : Nat) → Cursor → σ → Eval σ
  | 0, _, _ => throw .endless
  | rounds + 1, cursor, state => do
    match ← ev.next? cursor with
    | none => return state
    | some (item, cursor) =>
      match ← turn state item with
      | .yield state => ev.iterate turn rounds cursor state
      | .done state => return state

/-- **All items of a value.** Lists and tuples are read at once and for free;
taking an item of anything else costs gas. -/
def collect (ev : Evaluator) (v : Value) : Eval (Array Value) := do
  match v with
  | .list id => return (← Eval.heap).list id
  | .tuple items => return items.toArray
  | v =>
    ev.iterate (fun items item => do Eval.tick; return .yield (items.push item)) ev.rounds
      (← startIteration v) #[]

end Evaluator

end MeteredScript
