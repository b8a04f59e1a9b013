import MeteredScript.Proofs.Coupling.Iteration

/-!
# Two calls of something built in

Attributes, built-in functions and methods. None of them looks at a name of
the script, but for the attributes of its classes.
-/

namespace MeteredScript

namespace Coupling

variable {c : Coupling}

theorem Sim.require (p : Prop) [Decidable p] (f : Fault) :
    c.Sim (Eval.require p f) (Eval.require p f) :=
  Sim.ite (Sim.pure ()) (Sim.fail f)

theorem Sim.checkCount (function : String) (arguments : List Value) (least most : Nat) :
    c.Sim (checkCount function arguments least most)
      (checkCount function arguments least most) :=
  Sim.ite (Sim.pure ()) (Sim.fail _)

theorem Sim.integerArgument (function : String) (v : Value) :
    c.Sim (integerArgument function v) (integerArgument function v) := by
  unfold MeteredScript.integerArgument
  cases v.asInt? with
  | some n => exact Sim.pure n
  | none => exact Sim.fail _

namespace Lawful

variable (hc : c.Lawful)

include hc

/-! ## Attributes -/

theorem boundMethod (receiver : Value) (name : String) :
    c.Sim (Eval.boundMethod receiver name) (Eval.boundMethod receiver name) :=
  Sim.ite (Sim.bind hc.newSerial fun serial => Sim.pure (Value.method serial receiver name))
    (Sim.fail _)

theorem classAttribute (className : String) (s : ScopeId) {name : String}
    (hname : ¬ c.hidden name) :
    c.Sim (Eval.classAttribute className s name) (Eval.classAttribute className s name) := by
  refine Sim.bind (hc.own? s hname) fun v => ?_
  cases v with
  | some v => exact Sim.pure v
  | none => exact Sim.fail _

theorem getAttribute (object : Value) {name : String} (hname : ¬ c.hidden name) :
    c.Sim (Eval.getAttribute object name) (Eval.getAttribute object name) := by
  unfold Eval.getAttribute
  split
  · exact Sim.ite (Sim.pure _) (hc.classAttribute _ _ hname)
  · exact Sim.ite (Sim.pure _) (Sim.ite (Sim.pure _) (hc.boundMethod _ _))
  · split
    · exact Sim.pure _
    · exact hc.boundMethod _ _

/-! ## Functions of values alone -/

theorem progression (step stop next : Int64) (items : Array Value) :
    c.Sim (progression step stop next items) (progression step stop next items) := by
  fun_induction MeteredScript.progression step stop next items with
  | case1 next items _ ih =>
    refine Sim.bind hc.tick fun _ => ?_
    split
    · exact ih _ ‹_›
    · exact Sim.pure _
  | case2 next items => exact Sim.pure items

theorem rangeList (start stop step : Int64) :
    c.Sim (rangeList start stop step) (rangeList start stop step) := by
  refine Sim.bind (Sim.require _ _) fun _ => ?_
  exact Sim.bind (hc.progression _ _ _ _) fun items => hc.place (.list items)

theorem callRange (arguments : List Value) :
    c.Sim (callRange arguments) (callRange arguments) := by
  refine Sim.bind (Sim.checkCount _ _ _ _) fun _ => ?_
  refine Sim.bind (Sim.mapM (Sim.integerArgument _) arguments) fun bounds => ?_
  match bounds with
  | [] => exact hc.rangeList _ _ _
  | [stop] => exact hc.rangeList _ _ _
  | [start, stop] => exact hc.rangeList _ _ _
  | [start, stop, step] => exact hc.rangeList _ _ _
  | _ :: _ :: _ :: _ :: _ => exact hc.rangeList _ _ _

theorem callLen (v : Value) : c.Sim (callLen v) (callLen v) := by
  refine Sim.bind hc.heap fun heap => ?_
  cases v.length? heap with
  | some n => exact Sim.pure _
  | none => exact Sim.fail _

omit hc in
theorem callInt (v : Value) : c.Sim (callInt v) (callInt v) := by
  cases v with
  | int n => exact Sim.pure _
  | bool b => exact Sim.pure _
  | str s =>
    unfold MeteredScript.callInt
    dsimp only
    split
    · exact Sim.pure _
    · exact Sim.fail _
  | _ => exact Sim.fail _

theorem callPrint (arguments : List Value) :
    c.Sim (callPrint arguments) (callPrint arguments) := by
  refine Sim.bind (Sim.mapM hc.text arguments) fun texts => ?_
  exact Sim.bind (hc.print _) fun _ => Sim.pure _

theorem placeSet (items : Array Value) :
    c.Sim (placeSet items) (placeSet items) :=
  Sim.bind (Sim.ofTypeFault _) fun table => hc.place (.set table)

theorem placeDict (entries : List (Value × Value)) :
    c.Sim (placeDict entries) (placeDict entries) :=
  Sim.bind (Sim.ofTypeFault _) fun table => hc.place (.dict table)

theorem sumFrom (total : Value) (items : List Value) :
    c.Sim (sumFrom total items) (sumFrom total items) := by
  induction items generalizing total with
  | nil => exact Sim.pure total
  | cons item rest ih =>
    refine Sim.bind hc.heap fun heap => Sim.bind (Sim.ofFault _) fun result => ?_
    exact Sim.bind (hc.place result) fun sum => ih sum

theorem callType (v : Value) : c.Sim (callType v) (callType v) := by
  unfold MeteredScript.callType
  split
  · exact Sim.pure _
  · exact Sim.pure _
  · exact Sim.bind (hc.newScope _ _).sim fun scope => Sim.pure _

end Lawful

/-! ## Functions that go through an iterable -/

namespace Couples

variable {ev ev' : Evaluator} (h : c.Couples ev ev')

include h

theorem pairOf (item : Value) : c.Sim (pairOf ev item) (pairOf ev' item) := by
  refine Sim.bind (h.collect item) fun items => ?_
  match items.toList with
  | [key, value] => exact Sim.pure _
  | [] => exact Sim.fail _
  | [_] => exact Sim.fail _
  | _ :: _ :: _ :: _ => exact Sim.fail _

theorem callDict (v : Value) : c.Sim (callDict ev v) (callDict ev' v) := by
  cases v with
  | dict id => exact Sim.bind h.heap fun heap => h.placeDict _
  | _ =>
    refine Sim.bind (h.collect _) fun items => ?_
    exact Sim.bind (Sim.mapM h.pairOf _) fun entries => h.placeDict entries

theorem extremeItems (function : String) (arguments : List Value) :
    c.Sim (extremeItems ev function arguments)
      (extremeItems ev' function arguments) := by
  match arguments with
  | [] => exact Sim.fail _
  | [iterable] => exact Sim.map _ (h.collect iterable)
  | _ :: _ :: _ => exact Sim.pure _

theorem callExtreme (function : String) (greatest : Bool) (arguments : List Value) :
    c.Sim (callExtreme ev function greatest arguments)
      (callExtreme ev' function greatest arguments) := by
  refine Sim.bind (h.extremeItems function arguments) fun items => ?_
  cases items with
  | nil => exact Sim.fail _
  | cons first rest => exact Sim.bind h.heap fun heap => Sim.ofStop _

theorem callSorted (v : Value) : c.Sim (callSorted ev v) (callSorted ev' v) := by
  refine Sim.bind (h.collect v) fun items => Sim.bind h.heap fun heap => ?_
  exact Sim.bind (Sim.ofStop _) fun sorted => h.place _

theorem callEnumerate (v : Value) (start : Option Value) :
    c.Sim (callEnumerate ev v start) (callEnumerate ev' v start) := by
  have hstart : c.Sim (firstPosition start) (firstPosition start) := by
    cases start with
    | none => exact Sim.pure 0
    | some n => exact Sim.integerArgument _ n
  refine Sim.bind hstart fun start => Sim.bind (h.collect v) fun items => ?_
  exact Sim.bind (Sim.ofFault _) fun numbered => h.place _

theorem convertTo (target : Builtin) (v : Value) :
    c.Sim (convertTo ev target v) (convertTo ev' target v) := by
  cases target with
  | list => exact Sim.bind (h.collect v) fun items => h.place (.list items)
  | tuple => exact Sim.bind (h.collect v) fun items => Sim.pure _
  | set => exact Sim.bind (h.collect v) fun items => h.placeSet items
  | dict => exact h.callDict v
  | str => exact Sim.bind (h.text v) fun text => Sim.pure _
  | int => exact Lawful.callInt v
  | bool => exact Sim.bind (h.isTruthy v) fun b => Sim.pure _
  | _ => exact Sim.pure _

theorem callConversion (target : Builtin) (arguments : List Value) :
    c.Sim (callConversion ev target arguments)
      (callConversion ev' target arguments) := by
  refine Sim.bind (Sim.checkCount _ _ _ _) fun _ => ?_
  cases arguments.head? with
  | none => exact h.place _
  | some v => exact h.convertTo target v

theorem callNext (v : Value) (fallback : Option Value) :
    c.Sim (callNext ev v fallback) (callNext ev' v fallback) := by
  cases v with
  | generator id name =>
    cases fallback with
    | none => exact h.resume id _
    | some fallback => exact Sim.bind (h.nextYielded? id) fun v => Sim.pure _
  | _ => exact Sim.fail _

/-- **Two calls of a built-in function do the same.** -/
theorem callBuiltin (b : Builtin) (arguments : List Value) :
    c.Sim (callBuiltin ev b arguments) (callBuiltin ev' b arguments) := by
  have hcount (least most : Nat) :=
    Sim.checkCount (c := c) b.name arguments least most
  cases b with
  | print => exact h.callPrint arguments
  | range => exact h.callRange arguments
  | min => exact h.callExtreme _ false arguments
  | max => exact h.callExtreme _ true arguments
  | list => exact h.callConversion _ arguments
  | tuple => exact h.callConversion _ arguments
  | set => exact h.callConversion _ arguments
  | dict => exact h.callConversion _ arguments
  | str => exact h.callConversion _ arguments
  | int => exact h.callConversion _ arguments
  | bool => exact h.callConversion _ arguments
  | len => exact Sim.bind (hcount 1 1) fun _ => h.callLen _
  | repr => exact Sim.bind (hcount 1 1) fun _ => Sim.bind (h.repr _) fun text => Sim.pure _
  | sorted => exact Sim.bind (hcount 1 1) fun _ => h.callSorted _
  | type => exact Sim.bind (hcount 1 1) fun _ => h.callType _
  | sum =>
    exact Sim.bind (hcount 1 2) fun _ => Sim.bind (h.collect _) fun items => h.sumFrom _ _
  | enumerate => exact Sim.bind (hcount 1 2) fun _ => h.callEnumerate _ _
  | next => exact Sim.bind (hcount 1 2) fun _ => h.callNext _ _

end Couples

end Coupling

end MeteredScript
