import MeteredScript.Evaluation.Expression
import MeteredScript.Proofs.Conduct.Container

/-!
# Expressions under a rule

Expressions have no statements in them, so they keep to a rule wherever they stand. What they
call may have: the body of a function is run in a frame of its own, to which a `return` is an
answer, and a strict rule keeps placed bodies from ending with a `break` or `continue`.
-/

namespace MeteredScript

namespace Conduct

variable {c : Conduct} {ev : Evaluator}

namespace Lawful

variable (law : c.Lawful)

include law

/-! ## Names and attributes -/

theorem lookup (scope : ScopeId) (name : String) : c.Governs (Eval.lookup scope name) := by
  have found : c.Governs (Eval.find? scope name) := .read (fun _ => rfl) fun _ _ _ => trivial
  refine found.bind fun v => ?_
  split
  · exact .pure _
  · split
    · exact .pure _
    · split
      · exact .pure _
      · exact law.fail _

theorem boundMethod (receiver : Value) (name : String) :
    c.Governs (Eval.boundMethod receiver name) :=
  .ite (law.newSerial.bind fun _ => .pure _) (law.fail _)

theorem getAttribute (object : Value) (name : String) :
    c.Governs (Eval.getAttribute object name) := by
  unfold Eval.getAttribute
  split
  · rename_i className scope
    have own : c.Governs (Eval.own? scope name) := .read (fun _ => rfl) fun _ _ _ => trivial
    refine .ite (Governs.pure _) (own.bind fun v => ?_)
    split
    · exact .pure _
    · exact law.fail _
  · exact .ite (Governs.pure _) (.ite (Governs.pure _) (law.boundMethod _ _))
  · split
    · exact .pure _
    · exact law.boundMethod _ _

theorem setAttribute (object : Value) (name : String) (v : Value) :
    c.Governs (Eval.setAttribute object name v) := by
  unfold Eval.setAttribute
  split
  · exact law.define _ _ _
  · exact law.fail _

theorem loadSlot (scope : ScopeId) (slot : Slot) : c.Governs (loadSlot scope slot) := by
  match slot with
  | .name id => exact law.lookup scope id
  | .attribute object name => exact law.getAttribute object name
  | .item container key => exact law.ask fun _ => .itemAt container key

theorem storeSlot (scope : ScopeId) (v : Value) (slot : Slot) :
    c.Governs (storeSlot scope v slot) := by
  match slot with
  | .name id => exact law.define scope id v
  | .attribute object name => exact law.setAttribute object name v
  | .item container key => exact law.storeItem container key v

theorem augmentedValue (op : BinaryOp) (l r : Value) : c.Governs (augmentedValue op l r) := by
  refine (law.attempt (law.binaryValue op l r)).bind fun result ends => ?_
  split
  · exact law.fail _
  · exact ofStop ends

theorem unaryValue (op : UnaryOp) (v : Value) : c.Governs (unaryValue op v) := by
  cases op with
  | not => exact (isTruthy v).bind fun _ => .pure _
  | neg => exact law.ofFault _

theorem makeException (kind : ExceptionKind) (arguments : List Value) :
    c.Governs (makeException kind arguments) := by
  unfold MeteredScript.makeException
  split
  · exact .pure _
  · exact .pure _
  · exact (law.text _).bind fun _ => .pure _
  · exact (law.repr _).bind fun _ => .pure _

theorem defineAll (scope : ScopeId) (bound : List (String × Value)) :
    c.Governs (defineAll scope bound) := by
  induction bound with
  | nil => exact .pure ()
  | cons b rest ih => exact (law.define scope b.1 b.2).bind fun _ => ih

theorem bindCaptures (scope : ScopeId) (captures : List (String × Value)) :
    c.Governs (bindCaptures scope captures) := by
  induction captures with
  | nil => exact .pure ()
  | cons b rest ih => exact (law.define scope b.1 b.2).bind fun _ => ih

/-- The body of a generator expression is placed. -/
theorem newGeneratorExpression (scope : ScopeId) (element : Expr) (first : Clause)
    (rest : List Clause) (outer : Value) :
    c.Governs (newGeneratorExpression scope (generatorBody element first rest) outer) :=
  have body : (GeneratorState.notStarted (generatorBody element first rest)).placed = true :=
    placed_generatorBody element first rest
  (law.newScope _ _).bind fun _ => (law.startIteration _).bind fun _ =>
    (law.define _ _ _).bind fun _ =>
      (law.setGeneratorState _ fun _ => body).bind fun _ => .pure _

end Lawful

namespace Binds

/-! ## Targets -/

theorem unpackItems (h : c.Binds ev) (v : Value) (targets : Nat) :
    c.Governs (unpackItems ev v targets) :=
  (h.collect v).bind fun _ => (h.require _ _).bind fun _ => (h.require _ _).bind fun _ => .pure _

mutual

theorem assignTarget (h : c.Binds ev) (scope : ScopeId) :
    ∀ (target : Expr) (v : Value), c.Governs (assignTarget ev scope target v)
  | .name id, v => h.define scope id v
  | .tuple targets, v | .list targets, v =>
    (h.unpackItems v _).bind fun items => h.assignEach scope targets items
  | .attribute object name, v => (h.eval object scope).bind fun o => h.setAttribute o name v
  | .subscript object index, v =>
    (h.eval object scope).bind fun _ => (h.eval index scope).bind fun _ => h.storeItem _ _ v
  | .int _, _ | .str _, _ | .bool _, _ | .none, _ | .format _, _ | .set _, _ | .dict _, _
  | .call .., _ | .binary .., _ | .logical .., _ | .unary .., _ | .compare .., _
  | .conditional .., _ | .lambda .., _ | .comprehension .., _ | .yield _, _ => h.fail _

theorem assignEach (h : c.Binds ev) (scope : ScopeId) :
    ∀ (targets : List Expr) (vs : List Value), c.Governs (assignEach ev scope targets vs)
  | target :: targets, v :: vs =>
    (h.assignTarget scope target v).bind fun _ => h.assignEach scope targets vs
  | [], _ | _ :: _, [] => .pure ()

end

variable (h : c.Binds ev)

include h

theorem assignAll (scope : ScopeId) (v : Value) (targets : List Expr) :
    c.Governs (assignAll ev scope v targets) := by
  induction targets with
  | nil => exact .pure ()
  | cons target targets ih => exact (h.assignTarget scope target v).bind fun _ => ih

theorem resolveSlot (scope : ScopeId) (target : Expr) :
    c.Governs (resolveSlot ev scope target) := by
  unfold MeteredScript.resolveSlot
  split
  · exact .pure _
  · exact (h.eval _ scope).bind fun _ => .pure _
  · exact (h.eval _ scope).bind fun _ => (h.eval _ scope).bind fun _ => .pure _
  · exact h.fail _

theorem augmentTarget (scope : ScopeId) (target : Expr) (op : BinaryOp) (operand : Expr) :
    c.Governs (augmentTarget ev scope target op operand) :=
  (h.resolveSlot scope target).bind fun slot => (h.loadSlot scope slot).bind fun current =>
    (h.eval operand scope).bind fun r => .ite
      ((h.combineInPlace op current r).bind fun _ => h.storeSlot scope current slot)
      ((h.augmentedValue op current r).bind fun v => h.storeSlot scope v slot)

/-! ## Parts of expressions -/

theorem evalAll (scope : ScopeId) (es : List Expr) : c.Governs (ev.evalAll scope es) := by
  induction es with
  | nil => exact .pure []
  | cons e es ih => exact (h.eval e scope).bind fun _ => ih.bind fun _ => .pure _

theorem holds (scope : ScopeId) (condition : Expr) : c.Governs (ev.holds scope condition) :=
  (h.eval condition scope).bind fun _ => Lawful.isTruthy _

theorem allHold (scope : ScopeId) (conditions : List Expr) :
    c.Governs (ev.allHold scope conditions) := by
  induction conditions with
  | nil => exact .pure true
  | cons condition rest ih => exact (h.holds scope condition).bind fun _ => .ite ih (Governs.pure _)

theorem evalParts (scope : ScopeId) (text : String) (parts : List FormatPart) :
    c.Governs (evalParts ev scope text parts) := by
  induction parts generalizing text with
  | nil => exact .pure text
  | cons part rest ih =>
    cases part with
    | text part => exact ih _
    | value e => exact (h.eval e scope).bind fun _ => (h.text _).bind fun _ => ih _

theorem evalEntry (scope : ScopeId) (key value : Expr) :
    c.Governs (evalEntry ev scope key value) :=
  (h.eval key scope).bind fun _ => (h.eval value scope).bind fun _ => .pure _

theorem evalEntries (scope : ScopeId) (entries : List (Expr × Expr)) :
    c.Governs (evalEntries ev scope entries) := by
  induction entries with
  | nil => exact .pure []
  | cons entry rest ih =>
    exact (h.evalEntry scope entry.1 entry.2).bind fun _ => ih.bind fun _ => .pure _

theorem evalParameters (scope : ScopeId) (parameters : List Parameter) :
    c.Governs (evalParameters ev scope parameters) := by
  have fallback (e : Option Expr) : c.Governs (evalFallback ev scope e) := by
    cases e with
    | none => exact .pure none
    | some e => exact (h.eval e scope).bind fun _ => .pure _
  induction parameters with
  | nil => exact .pure []
  | cons p rest ih => exact (fallback p.fallback).bind fun _ => ih.bind fun _ => .pure _

theorem linkHolds (op : CompareOp) (l r : Value) : c.Governs (linkHolds ev op l r) := by
  have member (item : Value) (id : GeneratorId) : c.Governs (memberOfGenerator ev item id) := by
    refine h.iterate (fun _ stops => stops) (fun _ yielded => ?_) _ _ _
    exact h.tick.bind fun _ => Lawful.heap.bind fun heap => (h.ofAnswer _).bind fun _ =>
      .ite (Governs.pure _) (Governs.pure _)
  unfold MeteredScript.linkHolds
  split
  · exact member _ _
  · exact (member _ _).map _
  · exact h.ask fun _ => .related _ _ _

theorem chainHolds (scope : ScopeId) (l : Value) (links : List (CompareOp × Expr)) :
    c.Governs (chainHolds ev scope l links) := by
  induction links generalizing l with
  | nil => exact .pure true
  | cons link links ih =>
    exact (h.eval link.2 scope).bind fun r => (h.linkHolds link.1 l r).bind fun _ =>
      .ite (ih r) (Governs.pure _)

/-! ## Comprehensions -/

theorem collectElements {α : Type} (scope : ScopeId) {element : Eval α}
    (hx : c.Governs element) (clauses : List Clause) (outer : Option Value) (elements : Array α) :
    c.Governs (collectElements ev scope element clauses outer elements) := by
  induction clauses generalizing outer elements with
  | nil => exact hx.bind fun _ => .pure _
  | cons clause rest ih =>
    have iterable : c.Governs (clauseIterable ev scope clause outer) := by
      cases outer with
      | none => exact h.eval _ scope
      | some v => exact .pure v
    refine iterable.bind fun v => (h.startIteration v).bind fun cursor =>
      h.iterate (fun _ => id) (fun elements item => ?_) _ cursor elements
    exact h.tick.bind fun _ => (h.assignTarget scope _ item).bind fun _ =>
      (h.allHold scope _).bind fun _ =>
        .ite ((ih none elements).bind fun _ => .pure _) (Governs.pure _)

theorem evalComprehension (scope : ScopeId) (form : ComprehensionForm) (clauses : List Clause) :
    c.Governs (evalComprehension ev scope form clauses) := by
  cases clauses with
  | nil => exact h.fail _
  | cons first rest =>
    refine (h.eval first.iterable scope).bind fun outer => ?_
    cases form with
    | generator element => exact h.newGeneratorExpression scope element first rest outer
    | list element =>
      exact (h.newScope _ _).bind fun inner =>
        (h.collectElements inner (h.eval element inner) _ _ _).bind fun _ => h.place _
    | set element =>
      exact (h.newScope _ _).bind fun inner =>
        (h.collectElements inner (h.eval element inner) _ _ _).bind fun _ => h.placeSet _
    | dict key value =>
      exact (h.newScope _ _).bind fun inner =>
        (h.collectElements inner (h.evalEntry inner key value) _ _ _).bind fun _ => h.placeDict _

/-! ## Calls -/

section Blocks

variable {inLoop : Bool}

theorem execBlock (scope : ScopeId) {body : Block}
    (placed : c.strict → blockPlaced inLoop body = true) :
    c.Stands inLoop (ev.execBlock scope body) := by
  induction body with
  | nil => exact .pure ()
  | cons s rest ih =>
    simp only [blockPlaced, Bool.and_eq_true, imp_and] at placed
    exact (h.exec scope placed.1).bind fun _ => ih placed.2

theorem execOptional (scope : ScopeId) {body : Option Block}
    (placed : c.strict → optionalBlockPlaced inLoop body = true) :
    c.Stands inLoop (ev.execOptional scope body) := by
  cases body with
  | none => exact .pure ()
  | some body => exact h.execBlock scope (by simpa only [optionalBlockPlaced] using placed)

end Blocks

/-- **What a `return` gets to is the call**, and the rest is what a rule lets out of a body. -/
theorem callBody {body : FunctionBody} (scope : ScopeId)
    (placed : c.strict → body.placed = true) : c.Governs (callBody ev body scope) := by
  have ran : c.Stands false (runBody ev body scope) := by
    cases body with
    | block body => exact (h.execBlock scope placed).bind fun _ => .pure _
    | expr e => exact h.stands (h.eval e scope) false
  refine (h.inFrame ran).bind fun result ends => ?_
  split
  · exact .pure trivial
  · rename_i other
    refine Lawful.ofStop ?_
    cases result with
    | ok v => trivial
    | error s => exact h.stops (fun v same => other v (by rw [same])) ends

theorem callFunction (id : FunctionId) (name : String) (arguments : List Value) :
    c.Governs (callFunction ev id name arguments) := by
  refine (h.function id).bind fun f placed => (h.ofTypeFault _).bind fun bound => ?_
  split
  · rename_i isBlock
    rw [isBlock] at placed
    exact (h.newGenerator _ _ placed).bind fun _ => (h.defineAll _ _).bind fun _ => .pure _
  · rename_i isBody _
    exact (h.newScope _ _).bind fun scope => (h.defineAll scope _).bind fun _ =>
      h.callBody scope placed

section Host

variable (aborts : c.Governs Eval.abort)

include aborts

/-- **Calls keep to a rule**, of whatever they are. -/
theorem callValue (callee : Value) (arguments : List Value) :
    c.Governs (callValue ev callee arguments) := by
  unfold MeteredScript.callValue
  split
  · exact h.callFunction _ _ arguments
  · exact h.callBuiltin _ arguments
  · exact h.callMethod (fun _ _ _ => aborts) arguments
  · exact (h.makeException _ arguments).bind fun _ => h.newException _
  · exact h.fail _

/-! ## All expressions -/

theorem evalForm (scope : ScopeId) (e : Expr) : c.Governs (evalForm ev scope e) := by
  match e with
  | .int _ | .str _ | .bool _ | .none => exact .pure _
  | .format parts => exact (h.evalParts scope "" parts).bind fun _ => .pure _
  | .list items => exact (h.evalAll scope items).bind fun _ => h.place _
  | .tuple items => exact (h.evalAll scope items).bind fun _ => .pure _
  | .set items => exact (h.evalAll scope items).bind fun _ => h.placeSet _
  | .dict entries => exact (h.evalEntries scope entries).bind fun _ => h.placeDict _
  | .name id => exact h.lookup scope id
  | .attribute object name => exact (h.eval object scope).bind fun o => h.getAttribute o name
  | .subscript object index =>
    exact (h.eval object scope).bind fun container => (h.eval index scope).bind fun key =>
      h.ask fun _ => .itemAt container key
  | .call callee arguments =>
    exact (h.eval callee scope).bind fun f => (h.evalAll scope arguments).bind fun _ =>
      h.callValue aborts f _
  | .binary left op right =>
    exact (h.eval left scope).bind fun _ => (h.eval right scope).bind fun _ => h.binaryValue op _ _
  | .logical left op right =>
    exact (h.eval left scope).bind fun _ => (Lawful.isTruthy _).bind fun _ =>
      .ite (Governs.pure _) (h.eval right scope)
  | .unary op operand => exact (h.eval operand scope).bind fun _ => h.unaryValue op _
  | .compare first links =>
    exact (h.eval first scope).bind fun _ => (h.chainHolds scope _ links).bind fun _ => .pure _
  | .conditional condition whenTrue whenFalse =>
    exact (h.holds scope condition).bind fun _ =>
      .ite (h.eval whenTrue scope) (h.eval whenFalse scope)
  | .lambda parameters body =>
    exact (h.evalParameters scope parameters).bind fun _ => h.newFunction _ fun _ => rfl
  | .comprehension form clauses => exact h.evalComprehension scope form clauses
  | .yield _ => exact h.fail _

/-- **Evaluating an expression keeps to a rule.** -/
theorem evalExpr (e : Expr) (scope : ScopeId) : c.Governs (evalExpr ev e scope) :=
  h.tick.bind fun _ => h.evalForm aborts scope e

end Host

end Binds

end Conduct

end MeteredScript
