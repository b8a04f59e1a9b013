import MeteredScript.Evaluation.Drive
import MeteredScript.Evaluation.Method
import MeteredScript.Proofs.Guards.Relation

/-!
# Operations with guards

Each operation that looks into a container or a generator, or changes one, is given here with the
guards it asks for (`GuardedEval`). A guard is held at least as long as the operation holds it:
guards for reading around all of what is read, guards for writing around the writing and around
what is done before they are given back. Where a guard is excluded the host ends.

Some operations run code of the script, which may ask for any guards. `GuardedEval.script` ends
the host unless no guards are held there. It also stands for what asks for no guards at all, such
as the refusal of a method that there is none of.
-/

namespace MeteredScript

variable {α β : Type}

/-! ## Operands -/

/-- The container that a value points to. -/
def Value.container? : Value → Option Container
  | .list id => some (.list id)
  | .dict id => some (.dict id)
  | .set id => some (.set id)
  | _ => Option.none

namespace Guarded

/-- Hold a guard to read the operand, if it is a container. -/
def insideOf (v : Value) (x : Guarded α) : Guarded α :=
  match v.container? with
  | some c => inside c x
  | none => x

theorem OnlyReads.insideOf {x : Guarded α} {r : Except Stop α} (reads : x.OnlyReads r) (v : Value) :
    (insideOf v x).OnlyReads r := by
  unfold Guarded.insideOf
  split
  · exact reads.inside _
  · exact reads

/-- Go on with an answer, or stop with a fault. -/
def ofFault (r : Except Fault α) : Guarded α := ofStop (r.mapError .fault)

end Guarded

/-- The value of `container[key]`, with guards. The report that a key is missing is made with the
guard of the dict held. -/
def Heap.guardedItemAt (h : Heap) (container key : Value) : Guarded Value :=
  Guarded.insideOf container <|
    match container, key.hashKey with
    | .dict id, .ok hashKey =>
      match (h.dict id).find? hashKey with
      | some (_, value) => return value
      | none => do throw (.stop (.fault (.missingKey (← h.guardedRepr key))))
    | container, _ => Guarded.ofStop (itemAt h container key)

/-- The object that a place belongs to. -/
def Place.cell : Place → Cell
  | listItem id _ => .container (.list id)
  | dictEntry id _ _ => .container (.dict id)

/-! ## Evaluation with guards -/

/-- **An evaluation that asks for guards**, under guards that are held already. -/
abbrev GuardedEval (α : Type) : Type := ReaderT (List Guard) Eval α

namespace GuardedEval

/-- Hold a guard while something is done. -/
def holding (g : Guard) (x : GuardedEval α) : GuardedEval α := fun held => do
  if held.any g.excludes then Eval.abort
  x (g :: held)

/-- Change an object, with a guard for writing. What is done asks for no more guards. -/
def change (c : Cell) (x : Eval α) : GuardedEval α := holding (.writing c) fun _ => x

/-- Look something up in the heap. -/
def ask (look : Heap → Guarded α) : GuardedEval α := fun held => do
  match look (← Eval.heap) held with
  | .ok a => return a
  | .error (.stop s) => throw s
  | .error (.excluded _) =>
    Eval.abort
    throw .endless

/-- Run code of the script. -/
def script (x : Eval α) : GuardedEval α := fun held => do
  if !held.isEmpty then Eval.abort
  x

/-- The printed form of a value. -/
def repr (v : Value) : GuardedEval String := fun held => Eval.reprHolding held v

/-- **Start with no guards held.** -/
def free (x : GuardedEval α) : Eval α := x []

/-! ### Looking -/

/-- The text of a value. -/
def text (v : Value) : GuardedEval String :=
  match v with
  | .str s => return s
  | .exception _ _ (some message) _ => return message
  | .exception _ _ none carried => if carried.isNone then return "" else repr carried
  | v => repr v

/-- Whether a relation holds between two values. -/
def related (op : CompareOp) (l r : Value) : GuardedEval Bool :=
  ask fun h => h.guardedRelated op l r

/-- Whether a value counts as true. -/
def isTruthy (v : Value) : GuardedEval Bool := ask fun h => Guarded.insideOf v (return v.isTruthy h)

/-- `len`. -/
def callLen (v : Value) : GuardedEval Value := do
  match ← ask fun h => Guarded.insideOf v (return v.length? h) with
  | some n => return .int (Int64.ofNat n)
  | none => (Eval.fail (.typeFault (.noLength v.typeName)) : Eval Value)

/-- The value of `container[key]`. -/
def item (container key : Value) : GuardedEval Value := ask fun h => h.guardedItemAt container key

/-- The start of an iteration. -/
def startIteration (v : Value) : GuardedEval Cursor :=
  ask fun h => Guarded.insideOf v (Guarded.ofFault (Cursor.ofValue h v))

/-- What a pattern captures of a value. -/
def captures? (p : Pattern) (subject : Value) : GuardedEval (Option (List (String × Value))) :=
  ask fun h => Guarded.insideOf subject (return p.captures? h subject)

/-- The next item of an iteration. -/
def next? (ev : Evaluator) : Cursor → GuardedEval (Option (Value × Cursor))
  | .list id i => do
    match ← ask fun h => Guarded.inside (.list id) (return (h.list id)[i]?) with
    | some v => return some (v, .list id (i + 1))
    | none => return none
  | cursor => script (ev.next? cursor)

/-- All items of a value. -/
def collect (ev : Evaluator) (v : Value) : GuardedEval (Array Value) :=
  match v with
  | .list id => ask fun h => Guarded.inside (.list id) (return h.list id)
  | v => script (ev.collect v)

/-! ### Operators -/

/-- The length of a repetition, if an operator repeats. -/
def repeatLength (op : BinaryOp) (l r : Value) : GuardedEval (Option Nat) :=
  ask fun h =>
    Guarded.insideOf l (Guarded.insideOf r (Guarded.ofFault (MeteredScript.repeatLength h op l r)))

/-- The result of a binary operator as a value. -/
def binaryValue (op : BinaryOp) (l r : Value) : GuardedEval Value := do
  match ← repeatLength op l r with
  | some length => Eval.charge length
  | none => pure ()
  Eval.place (← ask fun h =>
    Guarded.insideOf l (Guarded.insideOf r (Guarded.ofFault (binaryResult h op l r))))

/-- Repeat a list in place. -/
def repeatInPlace (id : ListId) (count : Value) : GuardedEval Unit := do
  match count.asInt? with
  | none => (Eval.fail (.typeFault (.repetition count.typeName)) : Eval Unit)
  | some n =>
    let length ← repeatLength .mul (.list id) count
    Eval.charge (length.getD 0)
    change (.container (.list id)) <| Eval.modifyHeap (·.modifyList id fun items =>
      (repeatList (copies n) items.toList).toArray)

/-- Change a container in place by an operator and a right-hand side. -/
def combineInPlace (ev : Evaluator) (op : BinaryOp) (target operand : Value) :
    GuardedEval Unit := do
  match target, op, operand with
  | .list id, .add, _ =>
    let items ← script (ev.collect operand)
    change (.container (.list id)) (Eval.modifyHeap (·.modifyList id (· ++ items)))
  | .list id, .mul, _ => repeatInPlace id operand
  | .set id, _, .set other =>
    match ← ask fun h => Guarded.inside (.set id) <| Guarded.inside (.set other) <|
        return op.onSets? (h.set id) (h.set other) with
    | some items => change (.container (.set id)) (Eval.modifyHeap (·.modifySet id fun _ => items))
    | none => (Eval.fail (augmentedFault op target operand) : Eval Unit)
  | .dict id, .bitOr, .dict other =>
    let entries ← ask fun h => Guarded.inside (.dict other) (return h.dict other)
    change (.container (.dict id)) (Eval.modifyHeap (·.modifyDict id (·.update entries)))
  | _, _, _ => script (MeteredScript.combineInPlace ev op target operand)

/-- Store to `container[key]`. -/
def storeItem (container key value : Value) : GuardedEval Unit := do
  let place ← ask fun h => Guarded.insideOf container (Guarded.ofFault (storePlace h container key))
  change place.cell (Eval.modifyHeap (·.store place value))

/-- `dict` of another dict, or of an iterable of pairs. -/
def callDict (ev : Evaluator) (v : Value) : GuardedEval Value := do
  match v with
  | .dict id => placeDict (← ask fun h => Guarded.inside (.dict id) (return h.dict id)).values
  | v => script (MeteredScript.callDict ev v)

/-! ### Methods -/

/-- Take the item at a place, or the last one, out of a list. -/
def popItem (id : ListId) (index : Option Value) : GuardedEval Value := do
  let size ← ask fun h => Guarded.inside (.list id) (return (h.list id).size)
  Eval.require (size ≠ 0) .popFromEmpty
  let n ← popIndex index
  match resolvePosition size n with
  | none => (Eval.fail .popOutOfRange : Eval Value)
  | some i =>
    change (.container (.list id)) do
      let item := ((← Eval.heap).list id).getD i .none
      Eval.modifyHeap (·.modifyList id (·.eraseIdxIfInBounds i))
      return item

/-- Call a method of a list. -/
def callListMethod (ev : Evaluator) (id : ListId) (name : String) (arguments : List Value) :
    GuardedEval Value := do
  match name with
  | "append" =>
    checkCount name arguments 1 1
    change (.container (.list id)) (appendItem id (arguments.headD .none))
    return .none
  | "extend" =>
    checkCount name arguments 1 1
    let items ← script (ev.collect (arguments.headD .none))
    change (.container (.list id)) (appendItems id items)
    return .none
  | "pop" =>
    checkCount name arguments 0 1
    popItem id arguments.head?
  | name => script (MeteredScript.callListMethod ev id name arguments)

/-- Put items into a set, up to the first that cannot be in a set. The set is held for each of
them anew. -/
def addItems (id : SetId) : List Value → GuardedEval Unit
  | [] => pure ()
  | item :: rest => do
    let key ← Eval.ofTypeFault item.hashKey
    change (.container (.set id)) (Eval.modifyHeap (·.modifySet id (·.insertNew key item)))
    addItems id rest

/-- Take an item with a key out of a set. The set is held for writing until this is done or the
report that the item is missing is made. -/
def removeItem (id : SetId) (key : HashKey) (item : Value) : GuardedEval Unit :=
  holding (.writing (.container (.set id))) do
    if ((← Eval.heap).set id).contains key then discardKey id key
    else (Eval.fail (.missingKey (← repr item)) : Eval Unit)

/-- Call a method of a set. -/
def callSetMethod (ev : Evaluator) (id : SetId) (name : String) (arguments : List Value) :
    GuardedEval Value := do
  match name with
  | "add" =>
    checkCount name arguments 1 1
    addItems id [arguments.headD .none]
    return .none
  | "update" =>
    checkCount name arguments 1 1
    let items ← script (ev.collect (arguments.headD .none))
    addItems id items.toList
    return .none
  | "remove" =>
    checkCount name arguments 1 1
    let key ← Eval.ofTypeFault (arguments.headD .none).hashKey
    removeItem id key (arguments.headD .none)
    return .none
  | "discard" =>
    checkCount name arguments 1 1
    let key ← Eval.ofTypeFault (arguments.headD .none).hashKey
    change (.container (.set id)) (discardKey id key)
    return .none
  | name => script (MeteredScript.callSetMethod ev id name arguments)

/-- Call a method of a dict. -/
def callDictMethod (id : DictId) (name : String) (arguments : List Value) : GuardedEval Value := do
  let entries : GuardedEval EntryTable := ask fun h => Guarded.inside (.dict id) (return h.dict id)
  match name with
  | "get" =>
    checkCount name arguments 1 2
    let key ← Eval.ofTypeFault (arguments.headD .none).hashKey
    match (← entries).find? key with
    | some (_, value) => return value
    | none => return arguments[1]?.getD .none
  | "keys" =>
    checkCount name arguments 0 0
    Eval.place (.list ((← entries).values.map Prod.fst).toArray)
  | "values" =>
    checkCount name arguments 0 0
    Eval.place (.list ((← entries).values.map Prod.snd).toArray)
  | "items" =>
    checkCount name arguments 0 0
    Eval.place (.list ((← entries).values.map fun (key, value) => .tuple [key, value]).toArray)
  | name => script (MeteredScript.callDictMethod id name arguments)

/-! ### Generators -/

/-- Run a generator that waits. It is held for writing to take its frames out and to put what is
left of them back, but not while its body runs. -/
def runSuspended (ev : Evaluator) (id : GeneratorId) (targets : List Expr) (frames : List Frame)
    (resume : Resume) : GuardedEval Value := do
  let outcome ← fun held => Eval.inFrame do
    change (.generator id) (Eval.setGeneratorState id .running) held
    script (do Eval.ofStop (← Eval.withHandled (handledBy frames)
      (driveFrom ev id.scope targets frames resume))) held
  change (.generator id) (settle id outcome)

/-- Resume a generator. -/
def resumeGenerator (ev : Evaluator) (id : GeneratorId) (resume : Resume) : GuardedEval Value := do
  match ← change (.generator id) (Eval.generatorState id), resume with
  | .suspended targets frames, resume => runSuspended ev id targets frames resume
  | .notStarted body, .send .none => runSuspended ev id [] [.suite body] (.send .none)
  | state, resume => change (.generator id) (resumeFrom ev id state resume)

/-- Close a generator. -/
def closeGenerator (ev : Evaluator) (id : GeneratorId) : GuardedEval Unit := do
  match ← change (.generator id) (Eval.generatorState id) with
  | .notStarted _ =>
    change (.generator id) (Eval.setGeneratorState id (.completed (.returned .none)))
  | .completed _ => pure ()
  | .suspended .. | .running =>
    let answer ← script (Eval.attempt (ev.resume id (.throw (.bare .generatorExit))))
    change (.generator id) (answerExit id answer)

/-- Call a method of a generator. -/
def callGeneratorMethod (ev : Evaluator) (id : GeneratorId) (receiver : Value) (name : String)
    (arguments : List Value) : GuardedEval Value := do
  match name with
  | "close" =>
    checkCount name arguments 0 0
    closeGenerator ev id
    return .none
  | name => script (MeteredScript.callGeneratorMethod ev id receiver name arguments)

/-- **Call a method of a value.** -/
def callMethod (ev : Evaluator) (receiver : Value) (name : String) (arguments : List Value) :
    GuardedEval Value :=
  match receiver with
  | .list id => callListMethod ev id name arguments
  | .set id => callSetMethod ev id name arguments
  | .dict id => callDictMethod id name arguments
  | .generator id _ => callGeneratorMethod ev id receiver name arguments
  | receiver => script (MeteredScript.callMethod ev receiver name arguments)

end GuardedEval

end MeteredScript
