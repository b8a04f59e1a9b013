import MeteredScript.Evaluation.Attribute
import MeteredScript.Evaluation.Iteration

/-!
# Assignment

A target is a name, an attribute, a subscript, or a tuple or list of targets,
to which the items of a value are assigned one by one.

`target op= value` works out the place it stores to once, reads it, evaluates
the right-hand side and stores the result. A container that combines in place
is changed before the store, and the store writes the same object back. Such
a store can still fail, as for an item of a tuple, and then the change stays
for everyone who holds the container.
-/

namespace MeteredScript

/-! ## Plain assignment -/

/-- Store to `container[key]`. -/
def storeItem (container key value : Value) : Eval Unit := do
  let place ← Eval.ofFault (storePlace (← Eval.heap) container key)
  Eval.modifyHeap (·.store place value)

/-- The items of a value, as many as there are targets. -/
def unpackItems (ev : Evaluator) (value : Value) (targets : Nat) : Eval (List Value) := do
  let items ← ev.collect value
  Eval.require (items.size ≤ targets) (.tooManyToUnpack targets)
  Eval.require (targets ≤ items.size) (.notEnoughToUnpack targets items.size)
  return items.toList

mutual

/-- **Assign a value to a target.** -/
def assignTarget (ev : Evaluator) (scope : ScopeId) : Expr → Value → Eval Unit
  | .name id, value => Eval.define scope id value
  | .tuple targets, value | .list targets, value => do
    assignEach ev scope targets (← unpackItems ev value targets.length)
  | .attribute object name, value => do
    Eval.setAttribute (← ev.eval object scope) name value
  | .subscript object index, value => do
    let container ← ev.eval object scope
    let key ← ev.eval index scope
    storeItem container key value
  | _, _ => Eval.fail (.typeFault .notAssignable)

/-- Assign values to targets in order, up to the end of the shorter list. -/
def assignEach (ev : Evaluator) (scope : ScopeId) : List Expr → List Value → Eval Unit
  | target :: targets, value :: values => do
    assignTarget ev scope target value
    assignEach ev scope targets values
  | _, _ => pure ()

end

/-- Assign one value to several targets, from the left. -/
def assignAll (ev : Evaluator) (scope : ScopeId) (value : Value) : List Expr → Eval Unit
  | [] => pure ()
  | target :: targets => do
    assignTarget ev scope target value
    assignAll ev scope value targets

/-! ## Augmented assignment -/

/-- **The place that an augmented assignment reads and stores to**, with its
object and key already evaluated. -/
inductive Slot where
  | name (id : String)
  | attribute (object : Value) (name : String)
  | item (container key : Value)
  deriving Repr

/-- Work out the place that a target means. -/
def resolveSlot (ev : Evaluator) (scope : ScopeId) : Expr → Eval Slot
  | .name id => return .name id
  | .attribute object name => return .attribute (← ev.eval object scope) name
  | .subscript object index => do
    let container ← ev.eval object scope
    return .item container (← ev.eval index scope)
  | _ => Eval.fail (.typeFault .notAugmentable)

/-- Read a place. -/
def loadSlot (scope : ScopeId) : Slot → Eval Value
  | .name id => Eval.lookup scope id
  | .attribute object name => Eval.getAttribute object name
  | .item container key => do Eval.ofStop (itemAt (← Eval.heap) container key)

/-- Store to a place. -/
def storeSlot (scope : ScopeId) (value : Value) : Slot → Eval Unit
  | .name id => Eval.define scope id value
  | .attribute object name => Eval.setAttribute object name value
  | .item container key => storeItem container key value

/-- Pay for a repetition: its length in gas, before anything is built. Other
operators cost nothing. -/
def chargeRepetition (op : BinaryOp) (l r : Value) : Eval Unit := do
  match ← Eval.ofFault (repeatLength (← Eval.heap) op l r) with
  | some length => Eval.charge length
  | none => return ()

/-- The result of a binary operator as a value. -/
def binaryValue (op : BinaryOp) (l r : Value) : Eval Value := do
  chargeRepetition op l r
  Eval.place (← Eval.ofFault (binaryResult (← Eval.heap) op l r))

/-- Repeat a list in place. -/
def repeatInPlace (id : ListId) (count : Value) : Eval Unit := do
  match count.asInt? with
  | none => Eval.fail (.typeFault (.repetition count.typeName))
  | some n =>
    let length ← Eval.ofFault (repeatLength (← Eval.heap) .mul (.list id) count)
    Eval.charge (length.getD 0)
    Eval.modifyHeap (·.modifyList id fun items =>
      (repeatList (copies n) items.toList).toArray)

/-- Put all entries of one dict table into another. Keys that are there
already stay as they are. -/
def EntryTable.update (t other : EntryTable) : EntryTable :=
  other.entries.foldl (fun t (hashKey, key, value) => t.put hashKey key value) t

/-- The refusal of an augmented operator between two values. -/
def augmentedFault (op : BinaryOp) (l r : Value) : Fault := operandsFault op.augmented l r

/-- **Change a container in place** by an operator and a right-hand side. -/
def combineInPlace (ev : Evaluator) (op : BinaryOp) (target operand : Value) : Eval Unit := do
  match target, op, operand with
  | .list id, .add, _ =>
    let items ← ev.collect operand
    Eval.modifyHeap (·.modifyList id (· ++ items))
  | .list id, .mul, _ => repeatInPlace id operand
  | .set id, _, .set other =>
    let h ← Eval.heap
    match op.onSets? (h.set id) (h.set other) with
    | some items => Eval.modifyHeap (·.modifySet id fun _ => items)
    | none => Eval.fail (augmentedFault op target operand)
  | .dict id, .bitOr, .dict other =>
    let entries := (← Eval.heap).dict other
    Eval.modifyHeap (·.modifyDict id (·.update entries))
  | _, _, _ => Eval.fail (augmentedFault op target operand)

/-- The result of an operator in an augmented assignment, whose report of a
type error shows the augmented operator. -/
def augmentedValue (op : BinaryOp) (l r : Value) : Eval Value := do
  match ← Eval.attempt (binaryValue op l r) with
  | .error (.fault (.typeFault _)) => Eval.fail (augmentedFault op l r)
  | result => Eval.ofStop result

/-- **Run an augmented assignment.** -/
def augmentTarget (ev : Evaluator) (scope : ScopeId) (target : Expr) (op : BinaryOp)
    (operand : Expr) : Eval Unit := do
  let slot ← resolveSlot ev scope target
  let current ← loadSlot scope slot
  let r ← ev.eval operand scope
  if current.combinesInPlace op then
    combineInPlace ev op current r
    storeSlot scope current slot
  else
    storeSlot scope (← augmentedValue op current r) slot

end MeteredScript
