import MeteredScript.Evaluation.Iteration
import MeteredScript.Operation.Sort
import MeteredScript.Text.Numeral

/-!
# Built-in functions

What a call of each built-in function does. The number of arguments is
checked first, then the arguments are looked at from the left. Functions that
go through an iterable take all of its items before they look at the first.
-/

namespace MeteredScript

/-- Refuse a number of arguments that is not between two bounds. -/
def checkCount (function : String) (arguments : List Value) (least most : Nat) : Eval Unit :=
  if least ≤ arguments.length ∧ arguments.length ≤ most then pure ()
  else Eval.fail (.typeFault (.argumentCount function least most arguments.length))

/-- The integer that an argument has to be. -/
def integerArgument (function : String) (v : Value) : Eval Int64 :=
  match v.asInt? with
  | some n => pure n
  | none => Eval.fail (.typeFault (.notInteger v.typeName function))

/-! ## Arithmetic progressions -/

/-- Whether a number lies strictly before a bound, seen in the direction of a
step. -/
def isBefore (step next stop : Int64) : Bool :=
  (0 < step && next < stop) || (step < 0 && stop < next)

theorem isBefore_iff {step next stop : Int64} :
    isBefore step next stop ↔
      0 < step.toInt ∧ next.toInt < stop.toInt ∨ step.toInt < 0 ∧ stop.toInt < next.toInt := by
  simp [isBefore, Int64.lt_iff_toInt_lt]

/-- How far a number lies before a bound, seen in the direction of a step. -/
def distance (step next stop : Int64) : Nat :=
  (if 0 < step.toInt then stop.toInt - next.toInt else next.toInt - stop.toInt).toNat

theorem distance_lt {step next after stop : Int64} (h : isBefore step next stop)
    (hafter : Integer.add next step = .ok after) :
    distance step after stop < distance step next stop := by
  have sum : after.toInt = next.toInt + step.toInt := Integer.fit_eq_ok_iff.1 hafter
  rw [isBefore_iff] at h
  unfold distance
  split <;> omega

/-- **The terms of a progression** that lie strictly before its bound, each
for one unit of gas. The progression ends with the last term that is an
integer of 64 bits. -/
def progression (step stop next : Int64) (items : Array Value) : Eval (Array Value) :=
  if _ : isBefore step next stop then do
    Eval.tick
    match _ : Integer.add next step with
    | .ok after => progression step stop after (items.push (.int next))
    | .error _ => return items.push (.int next)
  else return items
termination_by distance step next stop
decreasing_by exact distance_lt ‹_› ‹_›

/-- The list of the terms of a progression. -/
def rangeList (start stop step : Int64) : Eval Value := do
  Eval.require (step ≠ 0) .zeroStep
  Eval.place (.list (← progression step stop start #[]))

/-- `range`, of a bound, of a start and a bound, or with a step besides. -/
def callRange (arguments : List Value) : Eval Value := do
  checkCount "range" arguments 1 3
  match ← arguments.mapM (integerArgument "range") with
  | [stop] => rangeList 0 stop 1
  | [start, stop] => rangeList start stop 1
  | [start, stop, step] => rangeList start stop step
  | _ => rangeList 0 0 1

/-! ## Sizes, texts and numbers -/

/-- How many items a value has. -/
def Value.length? (h : Heap) : Value → Option Nat
  | .str s => some s.length
  | .list id => some (h.list id).size
  | .tuple items => some items.length
  | .dict id => some (h.dict id).size
  | .set id => some (h.set id).size
  | _ => Option.none

/-- `len`. -/
def callLen (v : Value) : Eval Value := do
  match v.length? (← Eval.heap) with
  | some n => return .int (Int64.ofNat n)
  | none => Eval.fail (.typeFault (.noLength v.typeName))

/-- `int` of a value. -/
def callInt (v : Value) : Eval Value :=
  match v with
  | .int n => pure (.int n)
  | .bool b => pure (.int (if b then 1 else 0))
  | .str s =>
    let number? := do (Integer.fit (← Text.readInt? s.toList)).toOption
    match number? with
    | some n => pure (.int n)
    | none => Eval.fail (.invalidInteger (Text.quote s))
  | other => Eval.fail (.typeFault (.intArgument other.typeName))

/-- `print`: the texts of the arguments with blanks between them, as one
line. -/
def callPrint (arguments : List Value) : Eval Value := do
  let texts ← arguments.mapM Eval.text
  Eval.print (String.intercalate " " texts)
  return .none

/-! ## Containers -/

/-- A new set of items. -/
def placeSet (items : Array Value) : Eval Value := do
  Eval.place (.set (← Eval.ofTypeFault (ItemTable.ofItems items.toList)))

/-- A new dict of entries. -/
def placeDict (entries : List (Value × Value)) : Eval Value := do
  Eval.place (.dict (← Eval.ofTypeFault (EntryTable.ofEntries entries)))

/-- A dict entry given as an iterable of two items. -/
def pairOf (ev : Evaluator) (item : Value) : Eval (Value × Value) := do
  match (← ev.collect item).toList with
  | [key, value] => return (key, value)
  | items => Eval.fail (.entryLength items.length)

/-- `dict` of another dict, or of an iterable of pairs. -/
def callDict (ev : Evaluator) (v : Value) : Eval Value := do
  match v with
  | .dict id => placeDict ((← Eval.heap).dict id).values
  | v =>
    let items ← ev.collect v
    placeDict (← items.toList.mapM (pairOf ev))

/-! ## Folds over an iterable -/

/-- The sum of items, from the left, starting from a value. -/
def sumFrom (total : Value) : List Value → Eval Value
  | [] => return total
  | item :: rest => do
    let result ← Eval.ofFault (binaryResult (← Eval.heap) .add total item)
    sumFrom (← Eval.place result) rest

/-- The least item, or the greatest one. Of several such items it is the
first. -/
def extremeFrom (h : Heap) (greatest : Bool) (best : Value) :
    List Value → Except Stop Value
  | [] => .ok best
  | item :: rest => do
    let better ← if greatest then lessThan h best item else lessThan h item best
    extremeFrom h greatest (if better then item else best) rest

/-- What `min` and `max` choose from: the arguments, or the items of the only
argument. -/
def extremeItems (ev : Evaluator) (function : String) : List Value → Eval (List Value)
  | [] => Eval.fail (.typeFault (.noArguments function))
  | [iterable] => Array.toList <$> ev.collect iterable
  | items => pure items

/-- `min` and `max`. -/
def callExtreme (ev : Evaluator) (function : String) (greatest : Bool)
    (arguments : List Value) : Eval Value := do
  match ← extremeItems ev function arguments with
  | [] => Eval.fail (.emptySequence function)
  | first :: rest => Eval.ofStop (extremeFrom (← Eval.heap) greatest first rest)

/-- `sorted`. -/
def callSorted (ev : Evaluator) (v : Value) : Eval Value := do
  let items ← ev.collect v
  let sorted ← Eval.ofStop (sortValues (← Eval.heap) items.toList)
  Eval.place (.list sorted.toArray)

/-- The items with their positions, counted from a number. -/
def numbered (start : Int) : List Value → Except Fault (List Value)
  | [] => .ok []
  | item :: rest => do
    let position ← Integer.fit start
    return .tuple [.int position, item] :: (← numbered (start + 1) rest)

/-- The number that `enumerate` counts from. -/
def firstPosition : Option Value → Eval Int64
  | some n => integerArgument Builtin.enumerate.name n
  | none => pure 0

/-- `enumerate`. -/
def callEnumerate (ev : Evaluator) (v : Value) (start : Option Value) : Eval Value := do
  let start ← firstPosition start
  let items ← ev.collect v
  let numberedItems ← Eval.ofFault (numbered start.toInt items.toList)
  Eval.place (.list numberedItems.toArray)

/-! ## The functions of one optional argument -/

/-- `list`, `tuple`, `set`, `dict`, `str`, `int` and `bool` without an
argument: the empty or zero value of the type. -/
def emptyOf : Builtin → Fresh
  | .list => .list #[]
  | .tuple => .value (.tuple [])
  | .set => .set .empty
  | .dict => .dict .empty
  | .str => .value (.str "")
  | .int => .value (.int 0)
  | .bool => .value (.bool false)
  | _ => .value .none

/-- `list`, `tuple`, `set`, `dict`, `str`, `int` and `bool` of a value. -/
def convertTo (ev : Evaluator) (target : Builtin) (v : Value) : Eval Value := do
  match target with
  | .list => Eval.place (.list (← ev.collect v))
  | .tuple => return .tuple (← ev.collect v).toList
  | .set => placeSet (← ev.collect v)
  | .dict => callDict ev v
  | .str => return .str (← Eval.text v)
  | .int => callInt v
  | .bool => return .bool (← Eval.isTruthy v)
  | _ => return .none

/-- A call of one of these functions. -/
def callConversion (ev : Evaluator) (target : Builtin) (arguments : List Value) :
    Eval Value := do
  checkCount target.name arguments 0 1
  match arguments.head? with
  | none => Eval.place (emptyOf target)
  | some v => convertTo ev target v

/-- The built-in function that is the type object of a value, if there is
one. -/
def Value.typeObject? : Value → Option Builtin
  | .bool _ => some .bool
  | .int _ => some .int
  | .str _ => some .str
  | .list _ => some .list
  | .tuple _ => some .tuple
  | .dict _ => some .dict
  | .set _ => some .set
  | _ => Option.none

/-- `type`. A type without a type object is shown by a class with its name and
nothing in it, made for the occasion. -/
def callType (v : Value) : Eval Value := do
  match v.typeObject?, v with
  | some b, _ => return .builtin b
  | none, .exception _ kind _ _ => return .exceptionClass kind
  | none, v => return .classObject v.typeName (← Eval.newScope .module none)

/-- `next` of a generator, with what to give at its end instead of failing. -/
def callNext (ev : Evaluator) (v : Value) (fallback : Option Value) : Eval Value :=
  match v with
  | .generator id _ => do
    match fallback with
    | none => ev.resume id (.send .none)
    | some fallback => return (← ev.nextYielded? id).getD fallback
  | other => Eval.fail (.typeFault (.notIterator other.typeName))

/-- **Call a built-in function.** -/
def callBuiltin (ev : Evaluator) (b : Builtin) (arguments : List Value) : Eval Value := do
  match b with
  | .print => callPrint arguments
  | .range => callRange arguments
  | .min => callExtreme ev b.name false arguments
  | .max => callExtreme ev b.name true arguments
  | .list | .tuple | .set | .dict | .str | .int | .bool => callConversion ev b arguments
  | .len =>
    checkCount b.name arguments 1 1
    callLen (arguments.headD .none)
  | .repr =>
    checkCount b.name arguments 1 1
    return .str (← Eval.repr (arguments.headD .none))
  | .sorted =>
    checkCount b.name arguments 1 1
    callSorted ev (arguments.headD .none)
  | .type =>
    checkCount b.name arguments 1 1
    callType (arguments.headD .none)
  | .sum =>
    checkCount b.name arguments 1 2
    sumFrom (arguments[1]?.getD (.int 0)) (← ev.collect (arguments.headD .none)).toList
  | .enumerate =>
    checkCount b.name arguments 1 2
    callEnumerate ev (arguments.headD .none) arguments[1]?
  | .next =>
    checkCount b.name arguments 1 2
    callNext ev (arguments.headD .none) arguments[1]?

end MeteredScript
