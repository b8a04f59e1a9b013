import MeteredScript.Evaluation.Method
import MeteredScript.Proofs.Conduct.Basic

/-!
# Built-in functions and methods under a rule

Iterations, operators, built-in functions and methods keep to a rule that the code of the script
keeps to which they run (`Conduct.Binds`). Only a removal from a set can end the host, so a rule
about that has to be asked about `Eval.abort` there and nowhere else.
-/

namespace MeteredScript

namespace Conduct

variable {c : Conduct} {ev : Evaluator}

/-- **Code of the script that keeps to a rule.** -/
structure Binds (c : Conduct) (ev : Evaluator) : Prop extends c.Lawful where
  eval (e : Expr) (scope : ScopeId) : c.Governs (ev.eval e scope)
  exec {inLoop : Bool} {s : Stmt} (scope : ScopeId) : (c.strict → s.placed inLoop = true) →
    c.Stands inLoop (ev.exec s scope)
  resume (id : GeneratorId) (r : Resume) : c.Governs (ev.resume id r)

namespace Lawful

variable (law : c.Lawful)

include law

theorem tick : c.Governs Eval.tick := law.charge 1

theorem startIteration (v : Value) : c.Governs (Evaluator.startIteration v) :=
  heap.bind fun _ => law.ofFault _

theorem checkCount (function : String) (arguments : List Value) (least most : Nat) :
    c.Governs (checkCount function arguments least most) :=
  .ite (Governs.pure ()) (law.fail _)

theorem integerArgument (function : String) (v : Value) :
    c.Governs (integerArgument function v) := by
  unfold MeteredScript.integerArgument
  cases v.asInt? with
  | some n => exact .pure n
  | none => exact law.fail _

/-! ## Operators and stores -/

theorem chargeRepetition (op : BinaryOp) (l r : Value) : c.Governs (chargeRepetition op l r) := by
  refine heap.bind fun h => (law.ofFault _).bind fun length => ?_
  cases length with
  | none => exact .pure ()
  | some n => exact law.charge n

theorem binaryValue (op : BinaryOp) (l r : Value) : c.Governs (binaryValue op l r) :=
  (law.chargeRepetition op l r).bind fun _ => heap.bind fun _ => (law.ofFault _).bind law.place

theorem repeatInPlace (id : ListId) (count : Value) : c.Governs (repeatInPlace id count) := by
  unfold MeteredScript.repeatInPlace
  cases count.asInt? with
  | none => exact law.fail _
  | some n =>
    exact heap.bind fun _ => (law.ofFault _).bind fun _ => (law.charge _).bind fun _ =>
      law.modifyHeap _

theorem storeItem (container key value : Value) : c.Governs (storeItem container key value) :=
  heap.bind fun _ => (law.ofFault _).bind fun _ => law.modifyHeap _

/-! ## Methods of lists, sets and dicts -/

theorem popItem (id : ListId) (index : Option Value) : c.Governs (popItem id index) := by
  have place : c.Governs (popIndex index) := by
    cases index with
    | none => exact .pure (-1)
    | some v => exact (law.integerArgument _ v).map _
  refine heap.bind fun h => (law.require _ _).bind fun _ => place.bind fun n => ?_
  cases resolvePosition (h.list id).size n with
  | none => exact law.fail _
  | some i => exact heap.bind fun _ => (law.modifyHeap _).bind fun _ => .pure _

theorem addItems (id : SetId) (items : List Value) : c.Governs (addItems id items) := by
  induction items with
  | nil => exact .pure ()
  | cons item rest ih =>
    exact (law.ofTypeFault _).bind fun _ => (law.modifyHeap _).bind fun _ => ih

theorem requireMember (aborts : c.Governs Eval.abort) (id : SetId) (key : HashKey)
    (item : Value) : c.Governs (requireMember id key item) := by
  have report : c.Governs (Eval.reprHolding [.writing (.container (.set id))] item) :=
    heap.bind fun _ => .ite (aborts.bind fun _ => law.repr item) (law.repr item)
  exact heap.bind fun _ => .ite (Governs.pure ()) (report.bind fun _ => law.fail _)

theorem callDictMethod (id : DictId) (name : String) (arguments : List Value) :
    c.Governs (callDictMethod id name arguments) := by
  unfold MeteredScript.callDictMethod
  split
  · refine (law.checkCount _ _ _ _).bind fun _ => (law.ofTypeFault _).bind fun key =>
      heap.bind fun h => ?_
    split <;> exact .pure _
  · exact (law.checkCount _ _ _ _).bind fun _ => heap.bind fun _ => law.place _
  · exact (law.checkCount _ _ _ _).bind fun _ => heap.bind fun _ => law.place _
  · exact (law.checkCount _ _ _ _).bind fun _ => heap.bind fun _ => law.place _
  · exact law.fail _

/-! ## Built-in functions that run no code -/

theorem progression (step stop next : Int64) (items : Array Value) :
    c.Governs (progression step stop next items) := by
  fun_induction MeteredScript.progression step stop next items with
  | case1 next items _ ih =>
    refine law.tick.bind fun _ => ?_
    split
    · exact ih _ ‹_›
    · exact .pure _
  | case2 next items => exact .pure _

theorem rangeList (start stop step : Int64) : c.Governs (rangeList start stop step) :=
  (law.require _ _).bind fun _ => (law.progression _ _ _ _).bind fun _ => law.place _

theorem callRange (arguments : List Value) : c.Governs (callRange arguments) := by
  refine (law.checkCount _ _ _ _).bind fun _ =>
    (Governs.mapM (law.integerArgument _) arguments).bind fun ns => ?_
  split <;> exact law.rangeList _ _ _

theorem callLen (v : Value) : c.Governs (callLen v) := by
  refine heap.bind fun h => ?_
  split
  · exact .pure _
  · exact law.fail _

theorem callInt (v : Value) : c.Governs (callInt v) := by
  unfold MeteredScript.callInt
  split
  · exact .pure _
  · exact .pure _
  · dsimp only
    split
    · exact .pure _
    · exact law.fail _
  · exact law.fail _

theorem callPrint (arguments : List Value) : c.Governs (callPrint arguments) :=
  (Governs.mapM law.text arguments).bind fun _ => (law.print _).bind fun _ => .pure _

theorem placeSet (items : Array Value) : c.Governs (placeSet items) :=
  (law.ofTypeFault _).bind fun _ => law.place _

theorem placeDict (entries : List (Value × Value)) : c.Governs (placeDict entries) :=
  (law.ofTypeFault _).bind fun _ => law.place _

theorem sumFrom (total : Value) (items : List Value) : c.Governs (sumFrom total items) := by
  induction items generalizing total with
  | nil => exact .pure _
  | cons item rest ih =>
    exact heap.bind fun _ => (law.ofFault _).bind fun _ => (law.place _).bind fun _ => ih _

theorem callType (v : Value) : c.Governs (callType v) := by
  unfold MeteredScript.callType
  split
  · exact .pure _
  · exact .pure _
  · exact (law.newScope _ _).bind fun _ => .pure _

theorem firstPosition (start : Option Value) : c.Governs (firstPosition start) := by
  cases start with
  | none => exact .pure _
  | some n => exact law.integerArgument _ n

end Lawful

namespace Binds

variable (h : c.Binds ev)

include h

/-! ## Iteration -/

theorem nextYielded? (id : GeneratorId) : c.Governs (ev.nextYielded? id) := by
  refine (h.attempt (h.resume id _)).bind fun r ends => ?_
  split
  · exact .pure trivial
  · exact .pure trivial
  · exact .throw ends

theorem next? (cursor : Cursor) : c.Governs (ev.next? cursor) := by
  cases cursor with
  | list id i =>
    refine Lawful.heap.bind fun h => ?_
    split <;> exact .pure _
  | items rest => cases rest <;> exact .pure _
  | generator id =>
    refine (h.nextYielded? id).bind fun v => ?_
    cases v <;> exact .pure _

/-- A turn may stop for what the code around the iteration may stop for. -/
theorem iterate {σ : Type} {S : Stop → Prop} (hS : ∀ s, c.Stops s → S s)
    {turn : σ → Value → Eval (ForInStep σ)}
    (turns : ∀ state v, c.Runs S (fun _ => True) (turn state v)) (rounds : Nat) (cursor : Cursor)
    (state : σ) : c.Runs S (fun _ => True) (ev.iterate turn rounds cursor state) := by
  induction rounds generalizing cursor state with
  | zero => exact .throw (hS _ h.stops_endless)
  | succ rounds ih =>
    refine ((h.next? cursor).mono hS fun _ => id).bind fun next _ => ?_
    cases next with
    | none => exact .pure trivial
    | some next =>
      refine (turns state next.1).bind fun step _ => ?_
      cases step with
      | yield state => exact ih _ state
      | done state => exact .pure trivial

theorem collect (v : Value) : c.Governs (ev.collect v) := by
  have drained (v : Value) : c.Governs (do
      ev.iterate (fun items item => do Eval.tick; return .yield (items.push item)) ev.rounds
        (← Evaluator.startIteration v) #[]) :=
    (h.startIteration v).bind fun cursor =>
      h.iterate (fun _ => id) (fun _ _ => h.tick.bind fun _ => .pure _) _ cursor _
  cases v with
  | list id => exact Lawful.heap.bind fun _ => .pure _
  | tuple items => exact .pure _
  | _ => exact drained _

theorem combineInPlace (op : BinaryOp) (target operand : Value) :
    c.Governs (combineInPlace ev op target operand) := by
  unfold MeteredScript.combineInPlace
  split
  · exact (h.collect _).bind fun _ => h.modifyHeap _
  · exact h.repeatInPlace _ _
  · refine Lawful.heap.bind fun heap => ?_
    split
    · exact h.modifyHeap _
    · exact h.fail _
  · exact Lawful.heap.bind fun _ => h.modifyHeap _
  · exact h.fail _

/-! ## Methods -/

theorem callListMethod (id : ListId) (name : String) (arguments : List Value) :
    c.Governs (callListMethod ev id name arguments) := by
  unfold MeteredScript.callListMethod
  split
  · exact (h.checkCount _ _ _ _).bind fun _ => (h.modifyHeap _).bind fun _ => .pure _
  · exact (h.checkCount _ _ _ _).bind fun _ => (h.collect _).bind fun _ =>
      (h.modifyHeap _).bind fun _ => .pure _
  · exact (h.checkCount _ _ _ _).bind fun _ => h.popItem id _
  · exact h.fail _

theorem callSetMethod (id : SetId) {name : String}
    (aborts : name = "remove" → c.Governs Eval.abort) (arguments : List Value) :
    c.Governs (callSetMethod ev id name arguments) := by
  unfold MeteredScript.callSetMethod
  split
  · exact (h.checkCount _ _ _ _).bind fun _ => (h.addItems id _).bind fun _ => .pure _
  · exact (h.checkCount _ _ _ _).bind fun _ => (h.collect _).bind fun _ =>
      (h.addItems id _).bind fun _ => .pure _
  · exact (h.checkCount _ _ _ _).bind fun _ => (h.ofTypeFault _).bind fun _ =>
      (h.requireMember (aborts rfl) _ _ _).bind fun _ => (h.modifyHeap _).bind fun _ => .pure _
  · exact (h.checkCount _ _ _ _).bind fun _ => (h.ofTypeFault _).bind fun _ =>
      (h.modifyHeap _).bind fun _ => .pure _
  · exact h.fail _

theorem callStringMethod (s name : String) (arguments : List Value) :
    c.Governs (callStringMethod ev s name arguments) := by
  unfold MeteredScript.callStringMethod
  split
  · refine (h.checkCount _ _ _ _).bind fun _ => ?_
    split
    · exact .pure _
    · exact h.fail _
  · exact (h.checkCount _ _ _ _).bind fun _ => (h.collect _).bind fun _ =>
      (h.ofTypeFault _).bind fun _ => .pure _
  · exact (h.checkCount _ _ _ _).bind fun _ => .pure _
  · exact h.fail _

theorem answerExit (id : GeneratorId) {answer : Except Stop Value}
    (ends : Ending c.Stops (fun _ => True) answer) : c.Governs (answerExit id answer) := by
  unfold MeteredScript.answerExit
  split
  · exact h.fail _
  · exact .pure ()
  · exact .ite (h.setGeneratorState id fun _ => rfl) (.throw ends)

theorem closeGenerator (id : GeneratorId) : c.Governs (closeGenerator ev id) := by
  refine (h.generatorState id).bind fun state _ => ?_
  split
  · exact h.setGeneratorState id fun _ => rfl
  · exact Governs.pure ()
  · exact (h.attempt (h.resume id _)).bind fun _ ends => h.answerExit id ends
  · exact (h.attempt (h.resume id _)).bind fun _ ends => h.answerExit id ends

theorem callGeneratorMethod (id : GeneratorId) (receiver : Value) (name : String)
    (arguments : List Value) : c.Governs (callGeneratorMethod ev id receiver name arguments) := by
  unfold MeteredScript.callGeneratorMethod
  split
  · exact (h.checkCount _ _ _ _).bind fun _ => h.resume id _
  · exact (h.checkCount _ _ _ _).bind fun _ => (h.ofTypeFault _).bind fun _ => h.resume id _
  · exact (h.checkCount _ _ _ _).bind fun _ => (h.closeGenerator id).bind fun _ => .pure _
  · exact h.fail _

/-- **Methods keep to a rule**, the removal from a set if it may end the host. -/
theorem callMethod {receiver : Value} {name : String}
    (aborts : name = "remove" → ∀ id, receiver = .set id → c.Governs Eval.abort)
    (arguments : List Value) : c.Governs (callMethod ev receiver name arguments) := by
  cases receiver with
  | list id => exact h.callListMethod id name arguments
  | set id => exact h.callSetMethod id (fun same => aborts same id rfl) arguments
  | dict id => exact h.callDictMethod id name arguments
  | str s => exact h.callStringMethod s name arguments
  | generator id _ => exact h.callGeneratorMethod id _ name arguments
  | _ => exact h.fail _

/-! ## Built-in functions -/

theorem callDict (v : Value) : c.Governs (callDict ev v) := by
  have pair (item : Value) : c.Governs (pairOf ev item) := by
    refine (h.collect item).bind fun items => ?_
    split
    · exact .pure _
    · exact h.fail _
  unfold MeteredScript.callDict
  split
  · exact Lawful.heap.bind fun _ => h.placeDict _
  · exact (h.collect _).bind fun items => (Governs.mapM pair _).bind fun _ => h.placeDict _

theorem callExtreme (function : String) (greatest : Bool) (arguments : List Value) :
    c.Governs (callExtreme ev function greatest arguments) := by
  have chosen : c.Governs (extremeItems ev function arguments) := by
    unfold extremeItems
    split
    · exact h.fail _
    · exact (h.collect _).map _
    · exact .pure _
  refine chosen.bind fun items => ?_
  split
  · exact h.fail _
  · exact h.ask fun _ => .extremeFrom greatest _ _

theorem callSorted (v : Value) : c.Governs (callSorted ev v) := by
  have sorted (items : Array Value) :
      c.Governs (do Eval.ofStop (sortValues (← Eval.heap) items.toList)) :=
    h.ask fun _ => .sortValues items.toList
  refine (h.collect v).bind fun items => ?_
  have placed := (sorted items).bind fun sorted => h.place (.list sorted.toArray)
  rwa [bind_assoc] at placed

theorem callEnumerate (v : Value) (start : Option Value) :
    c.Governs (callEnumerate ev v start) :=
  (h.firstPosition start).bind fun _ => (h.collect v).bind fun _ => (h.ofFault _).bind fun _ =>
    h.place _

theorem callConversion (target : Builtin) (arguments : List Value) :
    c.Governs (callConversion ev target arguments) := by
  refine (h.checkCount _ _ _ _).bind fun _ => ?_
  cases arguments.head? with
  | none => exact h.place _
  | some v =>
    dsimp only
    unfold convertTo
    split
    · exact (h.collect v).bind fun _ => h.place _
    · exact (h.collect v).bind fun _ => .pure _
    · exact (h.collect v).bind fun _ => h.placeSet _
    · exact h.callDict v
    · exact (h.text v).bind fun _ => .pure _
    · exact h.callInt v
    · exact (Lawful.isTruthy v).bind fun _ => .pure _
    · exact .pure _

theorem callNext (v : Value) (fallback : Option Value) : c.Governs (callNext ev v fallback) := by
  unfold MeteredScript.callNext
  split
  · cases fallback with
    | none => exact h.resume _ _
    | some fallback => exact (h.nextYielded? _).bind fun _ => .pure _
  · exact h.fail _

/-- **Built-in functions keep to a rule.** -/
theorem callBuiltin (b : Builtin) (arguments : List Value) :
    c.Governs (callBuiltin ev b arguments) := by
  cases b with
  | print => exact h.callPrint arguments
  | range => exact h.callRange arguments
  | min => exact h.callExtreme _ _ arguments
  | max => exact h.callExtreme _ _ arguments
  | list | tuple | set | dict | str | int | bool => exact h.callConversion _ arguments
  | len => exact (h.checkCount _ _ _ _).bind fun _ => h.callLen _
  | repr => exact (h.checkCount _ _ _ _).bind fun _ => (h.repr _).bind fun _ => .pure _
  | sorted => exact (h.checkCount _ _ _ _).bind fun _ => h.callSorted _
  | type => exact (h.checkCount _ _ _ _).bind fun _ => h.callType _
  | sum => exact (h.checkCount _ _ _ _).bind fun _ => (h.collect _).bind fun _ => h.sumFrom _ _
  | enumerate => exact (h.checkCount _ _ _ _).bind fun _ => h.callEnumerate _ _
  | next => exact (h.checkCount _ _ _ _).bind fun _ => h.callNext _ _

end Binds

end Conduct

end MeteredScript
