import MeteredScript.Evaluation.Attribute
import MeteredScript.Evaluation.Builtin
import MeteredScript.Text.Search
import MeteredScript.Text.Upper

/-!
# Methods

What a call of each method of a built-in type does. The number of arguments is
checked first. A method that takes items from an iterable takes all of them
before it changes its receiver, so that a failure on the way leaves the
receiver as it was; `update` of a set stops at the first item that cannot be
in a set and keeps the items before it.
-/

namespace MeteredScript

/-! ## Lists -/

/-- Append items to a list. -/
def appendItems (id : ListId) (items : Array Value) : Eval Unit :=
  Eval.modifyHeap (·.modifyList id (· ++ items))

/-- Append an item to a list. -/
def appendItem (id : ListId) (item : Value) : Eval Unit :=
  Eval.modifyHeap (·.modifyList id (·.push item))

/-- The index that `pop` is given, or that of the last item. -/
def popIndex : Option Value → Eval Int
  | some v => Int64.toInt <$> integerArgument "pop" v
  | none => pure (-1)

/-- Take the item at a place, or the last one, out of a list. -/
def popItem (id : ListId) (index : Option Value) : Eval Value := do
  let size := ((← Eval.heap).list id).size
  Eval.require (size ≠ 0) .popFromEmpty
  let n ← popIndex index
  match resolvePosition size n with
  | none => Eval.fail .popOutOfRange
  | some i =>
    let item := ((← Eval.heap).list id).getD i .none
    Eval.modifyHeap (·.modifyList id (·.eraseIdxIfInBounds i))
    return item

/-- Call a method of a list. -/
def callListMethod (ev : Evaluator) (id : ListId) (name : String) (arguments : List Value) :
    Eval Value := do
  match name with
  | "append" =>
    checkCount name arguments 1 1
    appendItem id (arguments.headD .none)
    return .none
  | "extend" =>
    checkCount name arguments 1 1
    appendItems id (← ev.collect (arguments.headD .none))
    return .none
  | "pop" =>
    checkCount name arguments 0 1
    popItem id arguments.head?
  | _ => Eval.fail (.noAttribute (Value.list id).typeName name)

/-! ## Sets -/

/-- Put items into a set, up to the first that cannot be in a set. -/
def addItems (id : SetId) : List Value → Eval Unit
  | [] => pure ()
  | item :: rest => do
    let key ← Eval.ofTypeFault item.hashKey
    Eval.modifyHeap (·.modifySet id (·.insertNew key item))
    addItems id rest

/-- Refuse an item that is not in a set. The set is still held for writing while the
report of this is made. -/
def requireMember (id : SetId) (key : HashKey) (item : Value) : Eval Unit := do
  if ((← Eval.heap).set id).contains key then return ()
  else Eval.fail (.missingKey (← Eval.reprHolding [.writing (.container (.set id))] item))

/-- Take an item with a key out of a set, if it is there. -/
def discardKey (id : SetId) (key : HashKey) : Eval Unit :=
  Eval.modifyHeap (·.modifySet id (·.erase key))

/-- Call a method of a set. -/
def callSetMethod (ev : Evaluator) (id : SetId) (name : String) (arguments : List Value) :
    Eval Value := do
  match name with
  | "add" =>
    checkCount name arguments 1 1
    addItems id [arguments.headD .none]
    return .none
  | "update" =>
    checkCount name arguments 1 1
    addItems id (← ev.collect (arguments.headD .none)).toList
    return .none
  | "remove" =>
    checkCount name arguments 1 1
    let key ← Eval.ofTypeFault (arguments.headD .none).hashKey
    requireMember id key (arguments.headD .none)
    discardKey id key
    return .none
  | "discard" =>
    checkCount name arguments 1 1
    discardKey id (← Eval.ofTypeFault (arguments.headD .none).hashKey)
    return .none
  | _ => Eval.fail (.noAttribute (Value.set id).typeName name)

/-! ## Dicts -/

/-- Call a method of a dict. -/
def callDictMethod (id : DictId) (name : String) (arguments : List Value) : Eval Value := do
  match name with
  | "get" =>
    checkCount name arguments 1 2
    let key ← Eval.ofTypeFault (arguments.headD .none).hashKey
    match ((← Eval.heap).dict id).find? key with
    | some (_, value) => return value
    | none => return arguments[1]?.getD .none
  | "keys" =>
    checkCount name arguments 0 0
    Eval.place (.list (((← Eval.heap).dict id).values.map Prod.fst).toArray)
  | "values" =>
    checkCount name arguments 0 0
    Eval.place (.list (((← Eval.heap).dict id).values.map Prod.snd).toArray)
  | "items" =>
    checkCount name arguments 0 0
    Eval.place (.list
      (((← Eval.heap).dict id).values.map fun (key, value) => .tuple [key, value]).toArray)
  | _ => Eval.fail (.noAttribute (Value.dict id).typeName name)

/-! ## Strings -/

/-- The strings among items, all of which have to be strings. -/
def stringItems (position : Nat) : List Value → Except TypeFault (List String)
  | [] => .ok []
  | .str s :: rest => do return s :: (← stringItems (position + 1) rest)
  | other :: _ => .error (.joinItem position other.typeName)

/-- Call a method of a string. -/
def callStringMethod (ev : Evaluator) (s : String) (name : String) (arguments : List Value) :
    Eval Value := do
  match name with
  | "count" =>
    checkCount name arguments 1 1
    match arguments.headD .none with
    | .str part => return .int (Int64.ofNat (Text.countOccurrences part.toList s.toList))
    | other => Eval.fail (.typeFault (.notString other.typeName))
  | "join" =>
    checkCount name arguments 1 1
    let items ← ev.collect (arguments.headD .none)
    let parts ← Eval.ofTypeFault (stringItems 0 items.toList)
    return .str (String.intercalate s parts)
  | "upper" =>
    checkCount name arguments 0 0
    return .str (String.ofList (Text.upper s.toList))
  | _ => Eval.fail (.noAttribute (Value.str s).typeName name)

/-! ## Generators -/

/-- The exception that a value stands for in a `raise`: an exception object,
or a class of exceptions. -/
def exceptionOf (v : Value) : Except TypeFault Exception :=
  match v with
  | .exception _ kind message carried => .ok ⟨kind, message, carried⟩
  | .exceptionClass kind => .ok (.bare kind)
  | other => .error (.notException other.typeName)

/-- What it means for a generator that is closed how its body answered the
exception that told it to exit: a `yield` is no answer, and the exception itself
is as good as an end. -/
def answerExit (id : GeneratorId) : Except Stop Value → Eval Unit
  | .ok _ => Eval.fail .ignoredExit
  | .error (.fault (.exhausted _)) => pure ()
  | .error s =>
    if s.isInstanceOf .generatorExit then
      Eval.setGeneratorState id (.completed (.returned .none))
    else throw s

/-- **Close a generator.** One that waits is told to exit by an exception. One
that has not started will never start, and one that has ended stays as it
is. -/
def closeGenerator (ev : Evaluator) (id : GeneratorId) : Eval Unit := do
  match ← Eval.generatorState id with
  | .notStarted _ => Eval.setGeneratorState id (.completed (.returned .none))
  | .completed _ => pure ()
  | .suspended .. | .running =>
    answerExit id (← Eval.attempt (ev.resume id (.throw (.bare .generatorExit))))

/-- Call a method of a generator. -/
def callGeneratorMethod (ev : Evaluator) (id : GeneratorId) (receiver : Value) (name : String)
    (arguments : List Value) : Eval Value := do
  match name with
  | "send" =>
    checkCount name arguments 1 1
    ev.resume id (.send (arguments.headD .none))
  | "throw" =>
    checkCount name arguments 1 1
    let exception ← Eval.ofTypeFault (exceptionOf (arguments.headD .none))
    ev.resume id (.throw exception)
  | "close" =>
    checkCount name arguments 0 0
    closeGenerator ev id
    return .none
  | _ => Eval.fail (.noAttribute receiver.typeName name)

/-- **Call a method of a value.** -/
def callMethod (ev : Evaluator) (receiver : Value) (name : String) (arguments : List Value) :
    Eval Value :=
  match receiver with
  | .list id => callListMethod ev id name arguments
  | .set id => callSetMethod ev id name arguments
  | .dict id => callDictMethod id name arguments
  | .str s => callStringMethod ev s name arguments
  | .generator id _ => callGeneratorMethod ev id receiver name arguments
  | other => Eval.fail (.noAttribute other.typeName name)

end MeteredScript
