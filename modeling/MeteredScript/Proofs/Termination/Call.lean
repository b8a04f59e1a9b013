import MeteredScript.Proofs.Termination.Iteration

/-!
# Calls come to an end

Attributes, built-in functions, methods, and functions of a script. A range is paid for
item by item, so that how long it is does not matter.
-/

namespace MeteredScript

open Eval

namespace Eval.Halts

variable {b : Nat}

theorem checkCount (function : String) (arguments : List Value) (least most : Nat) :
    Halts b (checkCount function arguments least most)
      (checkCount function arguments least most) :=
  HaltsOf.ite (pure ()) (fail _)

theorem integerArgument (function : String) (v : Value) :
    Halts b (integerArgument function v) (integerArgument function v) := by
  unfold MeteredScript.integerArgument
  cases v.asInt? with
  | some n => exact pure n
  | none => exact fail _

/-! ## Attributes -/

theorem boundMethod (receiver : Value) (name : String) :
    Halts b (Eval.boundMethod receiver name) (Eval.boundMethod receiver name) :=
  HaltsOf.ite (newSerial.bind fun _ => pure _) (fail _)

theorem getAttribute (object : Value) (name : String) :
    Halts b (Eval.getAttribute object name) (Eval.getAttribute object name) := by
  unfold Eval.getAttribute
  split
  · refine HaltsOf.ite (pure _) ((own? _ name).bind fun v => ?_)
    cases v with
    | some v => exact pure v
    | none => exact fail _
  · exact HaltsOf.ite (pure _) (HaltsOf.ite (pure _) (boundMethod _ _))
  · split
    · exact pure _
    · exact boundMethod _ _

theorem setAttribute (object : Value) (name : String) (v : Value) :
    Halts b (Eval.setAttribute object name v) (Eval.setAttribute object name v) := by
  cases object with
  | classObject _ scope => exact define scope name v
  | _ => exact fail _

/-! ## Functions of values alone -/

theorem progression (step stop next : Int64) (items : Array Value) :
    Halts b (progression step stop next items) (progression step stop next items) := by
  fun_induction MeteredScript.progression step stop next items with
  | case1 next items _ ih =>
    refine tick.bind fun _ => ?_
    split
    · exact ih _ ‹_›
    · exact pure _
  | case2 next items => exact pure items

theorem rangeList (start stop step : Int64) :
    Halts b (rangeList start stop step) (rangeList start stop step) :=
  (require _ _).bind fun _ => (progression _ _ _ _).bind fun _ => place _

theorem callRange (arguments : List Value) :
    Halts b (callRange arguments) (callRange arguments) := by
  refine (checkCount _ _ _ _).bind fun _ => ?_
  refine (mapM (integerArgument _) arguments).bind fun bounds => ?_
  match bounds with
  | [stop] => exact rangeList _ _ _
  | [start, stop] => exact rangeList _ _ _
  | [start, stop, step] => exact rangeList _ _ _
  | [] | _ :: _ :: _ :: _ :: _ => exact rangeList _ _ _

theorem callLen (v : Value) : Halts b (callLen v) (callLen v) := by
  refine heap.bind fun h => ?_
  cases v.length? h with
  | some n => exact pure _
  | none => exact fail _

theorem callInt (v : Value) : Halts b (callInt v) (callInt v) := by
  cases v with
  | int n => exact pure _
  | bool b => exact pure _
  | str s =>
    unfold MeteredScript.callInt
    dsimp only
    split
    · exact pure _
    · exact fail _
  | _ => exact fail _

theorem callPrint (arguments : List Value) :
    Halts b (callPrint arguments) (callPrint arguments) :=
  (mapM text arguments).bind fun _ => (print _).bind fun _ => pure _

theorem placeSet (items : Array Value) : Halts b (placeSet items) (placeSet items) :=
  (ofTypeFault _).bind fun _ => place _

theorem placeDict (entries : List (Value × Value)) :
    Halts b (placeDict entries) (placeDict entries) :=
  (ofTypeFault _).bind fun _ => place _

theorem sumFrom (total : Value) (items : List Value) :
    Halts b (sumFrom total items) (sumFrom total items) := by
  induction items generalizing total with
  | nil => exact pure total
  | cons item rest ih =>
    exact heap.bind fun h => (ofFault _).bind fun result => (place result).bind fun sum => ih sum

theorem callType (v : Value) : Halts b (callType v) (callType v) := by
  unfold MeteredScript.callType
  split
  · exact pure _
  · exact pure _
  · exact (newScope _ _).bind fun _ => pure _

/-! ## Methods that look at values alone -/

theorem popItem (id : ListId) (index : Option Value) :
    Halts b (popItem id index) (popItem id index) := by
  have hindex : Halts b (popIndex index) (popIndex index) := by
    cases index with
    | none => exact pure (-1)
    | some v => exact map _ (integerArgument _ v)
  refine heap.bind fun h => (require _ _).bind fun _ => hindex.bind fun n => ?_
  cases resolvePosition (h.list id).size n with
  | none => exact fail _
  | some i => exact heap.bind fun h => (modifyHeap _).bind fun _ => pure _

theorem addItems (id : SetId) (items : List Value) :
    Halts b (addItems id items) (addItems id items) := by
  induction items with
  | nil => exact pure ()
  | cons item rest ih => exact (ofTypeFault _).bind fun _ => (modifyHeap _).bind fun _ => ih

theorem requireMember (id : SetId) (key : HashKey) (item : Value) :
    Halts b (requireMember id key item) (requireMember id key item) :=
  heap.bind fun _ => HaltsOf.ite (pure _) ((reprHolding _ item).bind fun _ => fail _)

theorem callDictMethod (id : DictId) (name : String) (arguments : List Value) :
    Halts b (callDictMethod id name arguments) (callDictMethod id name arguments) := by
  have hplace {f : Heap → Fresh} (most : Nat) :
      Halts b (do MeteredScript.checkCount name arguments 0 most; Eval.place (f (← Eval.heap)))
        (do MeteredScript.checkCount name arguments 0 most; Eval.place (f (← Eval.heap))) :=
    (checkCount _ _ _ _).bind fun _ => heap.bind fun h => place (f h)
  unfold MeteredScript.callDictMethod
  split
  · refine (checkCount _ _ _ _).bind fun _ => (ofTypeFault _).bind fun key => heap.bind fun h => ?_
    cases (h.dict id).find? key with
    | none => exact pure _
    | some entry => exact pure _
  · exact hplace 0
  · exact hplace 0
  · exact hplace 0
  · exact fail _

/-! ## Bindings of a call -/

theorem defineAll (s : ScopeId) (bound : List (String × Value)) :
    Halts b (defineAll s bound) (defineAll s bound) := by
  induction bound with
  | nil => exact pure ()
  | cons binding rest ih => exact (define _ _ _).bind fun _ => ih

theorem makeException (kind : ExceptionKind) (arguments : List Value) :
    Halts b (makeException kind arguments) (makeException kind arguments) := by
  unfold MeteredScript.makeException
  split
  · exact pure _
  · exact pure _
  · exact (text _).bind fun _ => pure _
  · exact (repr _).bind fun _ => pure _

end Eval.Halts

namespace Terminating

variable {b : Nat} {ev ev' : Evaluator} (h : Terminating b ev ev')

include h

/-! ## Functions that go through an iterable -/

theorem callDict (v : Value) : Halts b (callDict ev v) (callDict ev' v) := by
  have hpair (item : Value) : Halts b (pairOf ev item) (pairOf ev' item) := by
    refine (h.collect item).bind fun items => ?_
    match items.toList with
    | [key, value] => exact Halts.pure _
    | [] | [_] | _ :: _ :: _ :: _ => exact Halts.fail _
  cases v with
  | dict id => exact Halts.heap.bind fun _ => Halts.placeDict _
  | _ =>
    refine (h.collect _).bind fun items => ?_
    exact (Halts.mapM hpair _).bind fun entries => Halts.placeDict entries

theorem callExtreme (function : String) (greatest : Bool) (arguments : List Value) :
    Halts b (callExtreme ev function greatest arguments)
      (callExtreme ev' function greatest arguments) := by
  have hitems : Halts b (extremeItems ev function arguments)
      (extremeItems ev' function arguments) := by
    match arguments with
    | [] => exact Halts.fail _
    | [iterable] => exact Halts.map _ (h.collect iterable)
    | _ :: _ :: _ => exact Halts.pure _
  refine hitems.bind fun items => ?_
  cases items with
  | nil => exact Halts.fail _
  | cons first rest => exact Halts.ask fun _ => .extremeFrom greatest first rest

theorem callSorted (v : Value) : Halts b (callSorted ev v) (callSorted ev' v) := by
  refine (h.collect v).bind fun items => ?_
  have hsorted : Halts b
      (do Eval.ofStop (sortValues (← Eval.heap) items.toList))
      (do Eval.ofStop (sortValues (← Eval.heap) items.toList)) :=
    Halts.ask fun _ => .sortValues items.toList
  simpa only [bind_assoc] using hsorted.bind fun sorted => Halts.place (.list sorted.toArray)

theorem callEnumerate (v : Value) (start : Option Value) :
    Halts b (callEnumerate ev v start) (callEnumerate ev' v start) := by
  have hstart : Halts b (firstPosition start) (firstPosition start) := by
    cases start with
    | none => exact Halts.pure 0
    | some n => exact Halts.integerArgument _ n
  refine hstart.bind fun start => (h.collect v).bind fun items => ?_
  exact (Halts.ofFault _).bind fun numbered => Halts.place _

theorem convertTo (target : Builtin) (v : Value) :
    Halts b (convertTo ev target v) (convertTo ev' target v) := by
  cases target with
  | list => exact (h.collect v).bind fun items => Halts.place (.list items)
  | tuple => exact (h.collect v).bind fun items => Halts.pure _
  | set => exact (h.collect v).bind fun items => Halts.placeSet items
  | dict => exact h.callDict v
  | str => exact (Halts.text v).bind fun text => Halts.pure _
  | int => exact Halts.callInt v
  | bool => exact (Halts.isTruthy v).bind fun b => Halts.pure _
  | _ => exact Halts.pure _

theorem callConversion (target : Builtin) (arguments : List Value) :
    Halts b (callConversion ev target arguments) (callConversion ev' target arguments) := by
  refine (Halts.checkCount _ _ _ _).bind fun _ => ?_
  cases arguments.head? with
  | none => exact Halts.place _
  | some v => exact h.convertTo target v

theorem callNext (v : Value) (fallback : Option Value) :
    Halts b (callNext ev v fallback) (callNext ev' v fallback) := by
  cases v with
  | generator id name =>
    cases fallback with
    | none => exact h.resume id _
    | some fallback => exact (h.nextYielded? id).bind fun v => Halts.pure _
  | _ => exact Halts.fail _

/-- **A call of a built-in function ends.** -/
theorem callBuiltin (f : Builtin) (arguments : List Value) :
    Halts b (callBuiltin ev f arguments) (callBuiltin ev' f arguments) := by
  have hcount (least most : Nat) := Halts.checkCount (b := b) f.name arguments least most
  cases f with
  | print => exact Halts.callPrint arguments
  | range => exact Halts.callRange arguments
  | min => exact h.callExtreme _ false arguments
  | max => exact h.callExtreme _ true arguments
  | list | tuple | set | dict | str | int | bool => exact h.callConversion _ arguments
  | len => exact (hcount 1 1).bind fun _ => Halts.callLen _
  | repr => exact (hcount 1 1).bind fun _ => (Halts.repr _).bind fun text => Halts.pure _
  | sorted => exact (hcount 1 1).bind fun _ => h.callSorted _
  | type => exact (hcount 1 1).bind fun _ => Halts.callType _
  | sum => exact (hcount 1 2).bind fun _ => (h.collect _).bind fun items => Halts.sumFrom _ _
  | enumerate => exact (hcount 1 2).bind fun _ => h.callEnumerate _ _
  | next => exact (hcount 1 2).bind fun _ => h.callNext _ _

/-! ## Methods -/

theorem callListMethod (id : ListId) (name : String) (arguments : List Value) :
    Halts b (callListMethod ev id name arguments) (callListMethod ev' id name arguments) := by
  unfold MeteredScript.callListMethod
  split
  · exact (Halts.checkCount _ _ _ _).bind fun _ => (Halts.modifyHeap _).bind fun _ => Halts.pure _
  · refine (Halts.checkCount _ _ _ _).bind fun _ => (h.collect _).bind fun items => ?_
    exact (Halts.modifyHeap _).bind fun _ => Halts.pure _
  · exact (Halts.checkCount _ _ _ _).bind fun _ => Halts.popItem id _
  · exact Halts.fail _

theorem callSetMethod (id : SetId) (name : String) (arguments : List Value) :
    Halts b (callSetMethod ev id name arguments) (callSetMethod ev' id name arguments) := by
  unfold MeteredScript.callSetMethod
  split
  · exact (Halts.checkCount _ _ _ _).bind fun _ => (Halts.addItems id _).bind fun _ => Halts.pure _
  · refine (Halts.checkCount _ _ _ _).bind fun _ => (h.collect _).bind fun items => ?_
    exact (Halts.addItems id _).bind fun _ => Halts.pure _
  · refine (Halts.checkCount _ _ _ _).bind fun _ => (Halts.ofTypeFault _).bind fun key => ?_
    refine (Halts.requireMember id key _).bind fun _ => ?_
    exact (Halts.modifyHeap _).bind fun _ => Halts.pure _
  · refine (Halts.checkCount _ _ _ _).bind fun _ => (Halts.ofTypeFault _).bind fun key => ?_
    exact (Halts.modifyHeap _).bind fun _ => Halts.pure _
  · exact Halts.fail _

theorem callStringMethod (s : String) (name : String) (arguments : List Value) :
    Halts b (callStringMethod ev s name arguments) (callStringMethod ev' s name arguments) := by
  unfold MeteredScript.callStringMethod
  split
  · refine (Halts.checkCount _ _ _ _).bind fun _ => ?_
    split
    · exact Halts.pure _
    · exact Halts.fail _
  · refine (Halts.checkCount _ _ _ _).bind fun _ => (h.collect _).bind fun items => ?_
    exact (Halts.ofTypeFault _).bind fun parts => Halts.pure _
  · exact (Halts.checkCount _ _ _ _).bind fun _ => Halts.pure _
  · exact Halts.fail _

theorem closeGenerator (id : GeneratorId) :
    Halts b (closeGenerator ev id) (closeGenerator ev' id) := by
  have hset := Halts.complete (b := b) id (.returned .none)
  have hexit : Halts b
      (do answerExit id (← Eval.attempt (ev.resume id (.throw (.bare .generatorExit)))))
      (do answerExit id (← Eval.attempt (ev'.resume id (.throw (.bare .generatorExit))))) := by
    refine (h.resume id _).attempt_bind fun result _ hne => ?_
    unfold answerExit
    split
    · exact Halts.fail _
    · exact Halts.pure ()
    · refine HaltsOf.ite hset (HaltsOf.throw ?_)
      rintro rfl
      exact hne rfl
  refine HaltsOf.bind (HaltsOf.generatorState id) fun state _ => ?_
  match state with
  | .notStarted _ => exact hset
  | .completed _ => exact Halts.pure ()
  | .suspended _ _ | .running => exact hexit

theorem callGeneratorMethod (id : GeneratorId) (receiver : Value) (name : String)
    (arguments : List Value) :
    Halts b (callGeneratorMethod ev id receiver name arguments)
      (callGeneratorMethod ev' id receiver name arguments) := by
  unfold MeteredScript.callGeneratorMethod
  split
  · exact (Halts.checkCount _ _ _ _).bind fun _ => h.resume id _
  · refine (Halts.checkCount _ _ _ _).bind fun _ => ?_
    exact (Halts.ofTypeFault _).bind fun exception => h.resume id _
  · refine (Halts.checkCount _ _ _ _).bind fun _ => ?_
    exact (h.closeGenerator id).bind fun _ => Halts.pure _
  · exact Halts.fail _

/-- **A call of a method ends.** -/
theorem callMethod (receiver : Value) (name : String) (arguments : List Value) :
    Halts b (callMethod ev receiver name arguments) (callMethod ev' receiver name arguments) := by
  cases receiver with
  | list id => exact h.callListMethod id name arguments
  | set id => exact h.callSetMethod id name arguments
  | dict id => exact Halts.callDictMethod id name arguments
  | str s => exact h.callStringMethod s name arguments
  | generator id _ => exact h.callGeneratorMethod id _ name arguments
  | _ => exact Halts.fail _

/-! ## Functions -/

theorem callBody (body : FunctionBody) (s : ScopeId) :
    Halts b (callBody ev body s) (callBody ev' body s) := by
  have hbody : Halts b (runBody ev body s) (runBody ev' body s) := by
    cases body with
    | block block => exact (h.execBlock s block).bind fun _ => Halts.pure _
    | expr e => exact h.eval e s
  refine hbody.inFrame.bind fun result hr => ?_
  match result, hr.2 with
  | .error (.returns v), _ => exact Halts.pure v
  | .error .endless, hne => exact absurd rfl hne
  | .ok v, hne | .error (.fault _), hne | .error .breaks, hne | .error .continues, hne
  | .error .gasExhausted, hne => exact Halts.ofStop hne

/-- **A call of a function ends.** -/
theorem callFunction (id : FunctionId) (name : String) (arguments : List Value) :
    Halts b (callFunction ev id name arguments) (callFunction ev' id name arguments) := by
  refine (Halts.function id).bind fun f => (Halts.ofTypeFault _).bind fun bound => ?_
  have hcall (body : FunctionBody) : Halts b
      (do
        let scope ← Eval.newScope .function (some f.closure)
        MeteredScript.defineAll scope bound
        MeteredScript.callBody ev body scope)
      (do
        let scope ← Eval.newScope .function (some f.closure)
        MeteredScript.defineAll scope bound
        MeteredScript.callBody ev' body scope) :=
    (Halts.newScope _ _).bind fun s => (Halts.defineAll s bound).bind fun _ => h.callBody body s
  obtain ⟨parameters, body, closure, isGenerator⟩ := f
  match isGenerator, body with
  | true, .block body =>
    refine (Halts.newGenerator _ _ body).bind fun generator => ?_
    exact (Halts.defineAll _ bound).bind fun _ => Halts.pure _
  | true, .expr _ | false, .block _ | false, .expr _ => exact hcall _

/-- **A call of a value ends.** -/
theorem callValue (callee : Value) (arguments : List Value) :
    Halts b (callValue ev callee arguments) (callValue ev' callee arguments) := by
  cases callee with
  | function id name => exact h.callFunction id name arguments
  | builtin f => exact h.callBuiltin f arguments
  | method _ receiver name => exact h.callMethod receiver name arguments
  | exceptionClass kind =>
    exact (Halts.makeException kind arguments).bind fun e => Halts.newException e
  | _ => exact Halts.fail _

end Terminating

end MeteredScript
