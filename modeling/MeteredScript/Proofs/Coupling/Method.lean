import MeteredScript.Evaluation.Call
import MeteredScript.Proofs.Coupling.Builtin

/-!
# Two calls

Methods of built-in types, functions of a script, and calls of any value. A
call of a function runs in a scope of its own, which is new in both runs.
-/

namespace MeteredScript

namespace Coupling

variable {c : Coupling}

namespace Lawful

variable (hc : c.Lawful)

include hc

/-! ## Methods that look at values alone -/

theorem popItem (id : ListId) (index : Option Value) :
    c.Sim (popItem id index) (popItem id index) := by
  have hindex : c.Sim (popIndex index) (popIndex index) := by
    cases index with
    | none => exact Sim.pure (-1)
    | some v => exact Sim.map _ (Sim.integerArgument _ v)
  refine Sim.bind hc.heap fun heap => Sim.bind (Sim.require _ _) fun _ => ?_
  refine Sim.bind hindex fun n => ?_
  cases resolvePosition (heap.list id).size n with
  | none => exact Sim.fail _
  | some i =>
    exact Sim.bind hc.heap fun heap => Sim.bind (hc.modifyHeap _) fun _ => Sim.pure _

theorem addItems (id : SetId) (items : List Value) :
    c.Sim (addItems id items) (addItems id items) := by
  induction items with
  | nil => exact Sim.pure ()
  | cons item rest ih =>
    exact Sim.bind (Sim.ofTypeFault _) fun key => Sim.bind (hc.modifyHeap _) fun _ => ih

theorem requireMember (id : SetId) (key : HashKey) (item : Value) :
    c.Sim (requireMember id key item) (requireMember id key item) := by
  refine Sim.bind hc.heap fun heap => Sim.ite (Sim.pure _) ?_
  exact Sim.bind (hc.reprHolding _ item) fun text => Sim.fail _

theorem callDictMethod (id : DictId) (name : String) (arguments : List Value) :
    c.Sim (callDictMethod id name arguments) (callDictMethod id name arguments) := by
  unfold MeteredScript.callDictMethod
  split
  · refine Sim.bind (Sim.checkCount _ _ _ _) fun _ => Sim.bind (Sim.ofTypeFault _) fun key => ?_
    refine Sim.bind hc.heap fun heap => ?_
    cases (heap.dict id).find? key with
    | none => exact Sim.pure _
    | some entry => exact Sim.pure _
  · exact Sim.bind (Sim.checkCount _ _ _ _) fun _ => Sim.bind hc.heap fun heap => hc.place _
  · exact Sim.bind (Sim.checkCount _ _ _ _) fun _ => Sim.bind hc.heap fun heap => hc.place _
  · exact Sim.bind (Sim.checkCount _ _ _ _) fun _ => Sim.bind hc.heap fun heap => hc.place _
  · exact Sim.fail _

end Lawful

namespace Couples

variable {ev ev' : Evaluator} (h : c.Couples ev ev')

include h

/-! ## Methods that go through an iterable -/

theorem callListMethod (id : ListId) (name : String) (arguments : List Value) :
    c.Sim (callListMethod ev id name arguments) (callListMethod ev' id name arguments) := by
  unfold MeteredScript.callListMethod
  split
  · refine Sim.bind (Sim.checkCount _ _ _ _) fun _ => ?_
    exact Sim.bind (h.modifyHeap _) fun _ => Sim.pure _
  · refine Sim.bind (Sim.checkCount _ _ _ _) fun _ => Sim.bind (h.collect _) fun items => ?_
    exact Sim.bind (h.modifyHeap _) fun _ => Sim.pure _
  · exact Sim.bind (Sim.checkCount _ _ _ _) fun _ => h.popItem id _
  · exact Sim.fail _

theorem callSetMethod (id : SetId) (name : String) (arguments : List Value) :
    c.Sim (callSetMethod ev id name arguments) (callSetMethod ev' id name arguments) := by
  unfold MeteredScript.callSetMethod
  split
  · refine Sim.bind (Sim.checkCount _ _ _ _) fun _ => ?_
    exact Sim.bind (h.addItems id _) fun _ => Sim.pure _
  · refine Sim.bind (Sim.checkCount _ _ _ _) fun _ => Sim.bind (h.collect _) fun items => ?_
    exact Sim.bind (h.addItems id _) fun _ => Sim.pure _
  · refine Sim.bind (Sim.checkCount _ _ _ _) fun _ => Sim.bind (Sim.ofTypeFault _) fun key => ?_
    refine Sim.bind (h.requireMember id key _) fun _ => ?_
    exact Sim.bind (h.modifyHeap _) fun _ => Sim.pure _
  · refine Sim.bind (Sim.checkCount _ _ _ _) fun _ => Sim.bind (Sim.ofTypeFault _) fun key => ?_
    exact Sim.bind (h.modifyHeap _) fun _ => Sim.pure _
  · exact Sim.fail _

theorem callStringMethod (s : String) (name : String) (arguments : List Value) :
    c.Sim (callStringMethod ev s name arguments) (callStringMethod ev' s name arguments) := by
  unfold MeteredScript.callStringMethod
  split
  · refine Sim.bind (Sim.checkCount _ _ _ _) fun _ => ?_
    split
    · exact Sim.pure _
    · exact Sim.fail _
  · refine Sim.bind (Sim.checkCount _ _ _ _) fun _ => Sim.bind (h.collect _) fun items => ?_
    exact Sim.bind (Sim.ofTypeFault _) fun parts => Sim.pure _
  · exact Sim.bind (Sim.checkCount _ _ _ _) fun _ => Sim.pure _
  · exact Sim.fail _

theorem callGeneratorMethod (id : GeneratorId) (receiver : Value) (name : String)
    (arguments : List Value) :
    c.Sim (callGeneratorMethod ev id receiver name arguments)
      (callGeneratorMethod ev' id receiver name arguments) := by
  unfold MeteredScript.callGeneratorMethod
  split
  · exact Sim.bind (Sim.checkCount _ _ _ _) fun _ => h.resume id _
  · refine Sim.bind (Sim.checkCount _ _ _ _) fun _ => ?_
    exact Sim.bind (Sim.ofTypeFault _) fun exception => h.resume id _
  · refine Sim.bind (Sim.checkCount _ _ _ _) fun _ => ?_
    exact Sim.bind (h.close id) fun _ => Sim.pure _
  · exact Sim.fail _

/-- **Two calls of a method do the same.** -/
theorem callMethod (receiver : Value) (name : String) (arguments : List Value) :
    c.Sim (callMethod ev receiver name arguments) (callMethod ev' receiver name arguments) := by
  cases receiver with
  | list id => exact h.callListMethod id name arguments
  | set id => exact h.callSetMethod id name arguments
  | dict id => exact h.callDictMethod id name arguments
  | str s => exact h.callStringMethod s name arguments
  | generator id _ => exact h.callGeneratorMethod id _ name arguments
  | _ => exact Sim.fail _

/-! ## Functions -/

theorem execBlock {s : ScopeId} {block : Block}
    (hb : c.Shows (blockNames block)) :
    c.Sim (ev.execBlock s block) (ev'.execBlock s block) := by
  induction block with
  | nil => exact Sim.pure ()
  | cons st rest ih =>
    rw [blockNames, shows_append] at hb
    exact Sim.bind (h.exec hb.1) fun _ => ih hb.2

theorem runBody {s : ScopeId} {body : FunctionBody}
    (hb : c.Shows body.names) : c.Sim (runBody ev body s) (runBody ev' body s) := by
  cases body with
  | block block => exact Sim.bind (h.execBlock hb) fun _ => Sim.pure _
  | expr e => exact h.eval hb

omit h in
/-- What a call binds are parameters of the function. -/
theorem shows_of_matchArguments {parameters : List (String × Option Value)}
    (hp : c.Shows (parameters.map Prod.fst)) (arguments : List Value) :
    c.Shows ((matchArguments parameters arguments).1.map Prod.fst) := by
  induction parameters generalizing arguments with
  | nil => cases arguments <;> exact shows_nil c
  | cons parameter parameters ih =>
    obtain ⟨name, fallback⟩ := parameter
    rw [List.map_cons, shows_cons] at hp
    cases arguments with
    | cons v arguments =>
      rw [matchArguments, List.map_cons, shows_cons]
      exact ⟨hp.1, ih hp.2 arguments⟩
    | nil =>
      cases fallback with
      | some fallback =>
        rw [matchArguments, List.map_cons, shows_cons]
        exact ⟨hp.1, ih hp.2 []⟩
      | none => exact ih hp.2 []

theorem defineAll {s : ScopeId} {bound : List (String × Value)}
    (hb : c.Shows (bound.map Prod.fst)) : c.Sim (defineAll s bound) (defineAll s bound) := by
  induction bound with
  | nil => exact Sim.pure ()
  | cons binding rest ih =>
    rw [List.map_cons, shows_cons] at hb
    exact Sim.bind (h.define _ hb.1) fun _ => ih hb.2

omit h in
theorem bindArguments_shown {name : String} {parameters : List (String × Option Value)}
    (hp : c.Shows (parameters.map Prod.fst)) {arguments : List Value}
    {bound : List (String × Value)} (hb : bindArguments name parameters arguments = .ok bound) :
    c.Shows (bound.map Prod.fst) := by
  have hshown := shows_of_matchArguments hp arguments
  unfold bindArguments at hb
  split at hb
  · cases hb
  · split at hb
    · rename_i heq
      injection hb with hb
      rw [heq] at hshown
      exact hb ▸ hshown
    · cases hb

theorem callBody {s : ScopeId} {body : FunctionBody}
    (hb : c.Shows body.names) : c.Sim (callBody ev body s) (callBody ev' body s) := by
  refine SimTo.bindOf (h.inFrame (h.runBody hb)) (fun result _ => ?_) (fun result hend => ?_)
    fun _ _ => trivial
  · match result with
    | .ok v => exact Sim.ofStop _
    | .error (.returns v) => exact Sim.pure v
    | .error (.fault _) | .error .breaks | .error .continues | .error .gasExhausted
    | .error .endless => exact Sim.ofStop _
  · rw [hend.eq]
    exact Unwinds.throw

/-- A call that runs the body of a function. -/
theorem callInScope (closure : ScopeId) {bound : List (String × Value)}
    (hbound : c.Shows (bound.map Prod.fst)) {body : FunctionBody} (hbody : c.Shows body.names) :
    c.Sim
      (do
        let scope ← Eval.newScope .function (some closure)
        MeteredScript.defineAll scope bound
        MeteredScript.callBody ev body scope)
      (do
        let scope ← Eval.newScope .function (some closure)
        MeteredScript.defineAll scope bound
        MeteredScript.callBody ev' body scope) := by
  refine Sim.bind (h.newScope _ _) fun scope => ?_
  exact Sim.bind (h.defineAll hbound) fun _ => h.callBody hbody

/-- **Two calls of a function do the same.** -/
theorem callFunction (id : FunctionId) (name : String) (arguments : List Value) :
    c.Sim (callFunction ev id name arguments) (callFunction ev' id name arguments) := by
  refine SimOf.bind (h.function id) fun f hf => ?_
  obtain ⟨parameters, body, closure, isGenerator⟩ := f
  obtain ⟨hparameters, hbody⟩ := shows_append.1 hf
  have hbound : c.SimOf (fun bound => c.Shows (bound.map Prod.fst))
      (Eval.ofTypeFault (bindArguments name parameters arguments))
      (Eval.ofTypeFault (bindArguments name parameters arguments)) :=
    SimOf.ofTypeFault (fun _ => bindArguments_shown hparameters) fun hl _ => hl.shows _
  refine SimOf.bind hbound fun bound hbound => ?_
  match isGenerator, body with
  | true, .block body =>
    refine Sim.bind (h.newGenerator _ _ hbody) fun generator => ?_
    exact Sim.bind (h.defineAll hbound) fun _ => Sim.pure _
  | true, .expr body => exact h.callInScope closure hbound hbody
  | false, .block body => exact h.callInScope closure hbound hbody
  | false, .expr body => exact h.callInScope closure hbound hbody

theorem makeException (kind : ExceptionKind) (arguments : List Value) :
    c.Sim (makeException kind arguments) (makeException kind arguments) := by
  unfold MeteredScript.makeException
  split
  · exact Sim.pure _
  · exact Sim.pure _
  · exact Sim.bind (h.text _) fun text => Sim.pure _
  · exact Sim.bind (h.repr _) fun text => Sim.pure _

/-- **Two calls of a value do the same.** -/
theorem callValue (callee : Value) (arguments : List Value) :
    c.Sim (callValue ev callee arguments) (callValue ev' callee arguments) := by
  cases callee with
  | function id name => exact h.callFunction id name arguments
  | builtin b => exact h.callBuiltin b arguments
  | method _ receiver name => exact h.callMethod receiver name arguments
  | exceptionClass kind =>
    exact Sim.bind (h.makeException kind arguments) fun e => h.newException e
  | _ => exact Sim.fail _

end Couples

end Coupling

end MeteredScript
