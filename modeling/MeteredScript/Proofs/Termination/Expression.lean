import MeteredScript.Evaluation.Matching
import MeteredScript.Proofs.Termination.Call

/-!
# Expressions come to an end

Assignments, comprehensions and the search for the case of a `match` statement, with
`evalExpr` on top of them. A relation between values is the one place where a question about
them is put outside of calls, and membership in a generator is a loop.
-/

namespace MeteredScript

open Eval

namespace Eval.Halts

variable {b : Nat}

theorem storeItem (container key value : Value) :
    Halts b (storeItem container key value) (storeItem container key value) :=
  heap.bind fun _ => (ofFault _).bind fun _ => modifyHeap _

theorem item (container key : Value) :
    Halts b (do Eval.ofStop (itemAt (← Eval.heap) container key))
      (do Eval.ofStop (itemAt (← Eval.heap) container key)) :=
  ask fun _ => .itemAt container key

theorem binaryValue (op : BinaryOp) (l r : Value) :
    Halts b (binaryValue op l r) (binaryValue op l r) := by
  have hcharge : Halts b (chargeRepetition op l r) (chargeRepetition op l r) := by
    refine heap.bind fun h => (ofFault _).bind fun length => ?_
    cases length with
    | some length => exact charge length
    | none => exact pure ()
  exact hcharge.bind fun _ => heap.bind fun h => (ofFault _).bind fun result => place result

theorem repeatInPlace (id : ListId) (count : Value) :
    Halts b (repeatInPlace id count) (repeatInPlace id count) := by
  unfold MeteredScript.repeatInPlace
  cases count.asInt? with
  | none => exact fail _
  | some n =>
    refine heap.bind fun h => (ofFault _).bind fun length => ?_
    exact (charge _).bind fun _ => modifyHeap _

theorem augmentedValue (op : BinaryOp) (l r : Value) :
    Halts b (augmentedValue op l r) (augmentedValue op l r) := by
  refine (binaryValue op l r).attempt_bind fun result _ hne => ?_
  split
  · exact fail _
  · exact ofStop hne

theorem bindCaptures (s : ScopeId) (captures : List (String × Value)) :
    Halts b (bindCaptures s captures) (bindCaptures s captures) := by
  induction captures with
  | nil => exact pure ()
  | cons capture rest ih => exact (define _ _ _).bind fun _ => ih

theorem loadSlot (s : ScopeId) (slot : Slot) : Halts b (loadSlot s slot) (loadSlot s slot) := by
  match slot with
  | .name id => exact lookup s id
  | .attribute object name => exact getAttribute object name
  | .item container key => exact item container key

theorem storeSlot (s : ScopeId) (value : Value) (slot : Slot) :
    Halts b (storeSlot s value slot) (storeSlot s value slot) := by
  match slot with
  | .name id => exact define s id value
  | .attribute object name => exact setAttribute object name value
  | .item container key => exact storeItem container key value

theorem newGeneratorExpression (s : ScopeId) (body : Block) (outer : Value) :
    Halts b (newGeneratorExpression s body outer) (newGeneratorExpression s body outer) := by
  refine (newScope _ _).bind fun inner => (startIteration outer).bind fun _ => ?_
  have hset : Halts b (Eval.setGeneratorState ⟨inner⟩ (.notStarted body))
      (Eval.setGeneratorState ⟨inner⟩ (.notStarted body)) :=
    setGeneratorState ⟨inner⟩ trivial
  exact (define _ _ _).bind fun _ => hset.bind fun _ => pure _

theorem unaryValue (op : UnaryOp) (v : Value) : Halts b (unaryValue op v) (unaryValue op v) := by
  cases op with
  | not => exact (isTruthy v).bind fun _ => pure _
  | neg => exact ofFault _

end Eval.Halts

namespace Terminating

variable {b : Nat} {ev ev' : Evaluator}

section Parts

variable (h : Terminating b ev ev') (s : ScopeId)

include h

theorem execOptional (block : Option Block) :
    Halts b (ev.execOptional s block) (ev'.execOptional s block) := by
  cases block with
  | none => exact Halts.pure ()
  | some block => exact h.execBlock s block

theorem evalAll (es : List Expr) : Halts b (ev.evalAll s es) (ev'.evalAll s es) := by
  induction es with
  | nil => exact Halts.pure []
  | cons e es ih => exact (h.eval e s).bind fun v => ih.bind fun vs => Halts.pure (v :: vs)

theorem allHold (conditions : List Expr) :
    Halts b (ev.allHold s conditions) (ev'.allHold s conditions) := by
  induction conditions with
  | nil => exact Halts.pure true
  | cons condition rest ih =>
    exact (h.holds s condition).bind fun _ => HaltsOf.ite ih (Halts.pure false)

omit s in
theorem unpackItems (value : Value) (targets : Nat) :
    Halts b (unpackItems ev value targets) (unpackItems ev' value targets) := by
  refine (h.collect value).bind fun items => ?_
  exact (Halts.require _ _).bind fun _ => (Halts.require _ _).bind fun _ => Halts.pure _

end Parts

/-! ## Targets -/

mutual

/-- **An assignment to a target ends.** -/
theorem assignTarget (h : Terminating b ev ev') {s : ScopeId} : ∀ (target : Expr) (value : Value),
    Halts b (assignTarget ev s target value) (assignTarget ev' s target value)
  | .name id, value => Halts.define s id value
  | .tuple targets, value | .list targets, value =>
    (h.unpackItems value targets.length).bind fun values => assignEach h targets values
  | .attribute object name, value =>
    (h.eval object s).bind fun o => Halts.setAttribute o name value
  | .subscript object index, value =>
    (h.eval object s).bind fun container => (h.eval index s).bind fun key =>
      Halts.storeItem container key value
  | .int _, _ | .str _, _ | .bool _, _ | .none, _ | .format _, _ | .set _, _ | .dict _, _
  | .call _ _, _ | .binary _ _ _, _ | .logical _ _ _, _ | .unary _ _, _ | .compare _ _, _
  | .conditional _ _ _, _ | .lambda _ _, _ | .comprehension _ _, _ | .yield _, _ => Halts.fail _

theorem assignEach (h : Terminating b ev ev') {s : ScopeId} :
    ∀ (targets : List Expr) (values : List Value),
      Halts b (assignEach ev s targets values) (assignEach ev' s targets values)
  | target :: targets, value :: values =>
    (assignTarget h target value).bind fun _ => assignEach h targets values
  | [], _ => Halts.pure ()
  | _ :: _, [] => Halts.pure ()

end

variable (h : Terminating b ev ev') (s : ScopeId)

include h

theorem assignAll (value : Value) (targets : List Expr) :
    Halts b (assignAll ev s value targets) (assignAll ev' s value targets) := by
  induction targets with
  | nil => exact Halts.pure ()
  | cons target targets ih => exact (h.assignTarget target value).bind fun _ => ih

/-! ## Augmented assignment -/

theorem resolveSlot (target : Expr) :
    Halts b (resolveSlot ev s target) (resolveSlot ev' s target) := by
  match target with
  | .name id => exact Halts.pure _
  | .attribute object name => exact (h.eval object s).bind fun _ => Halts.pure _
  | .subscript object index =>
    exact (h.eval object s).bind fun _ => (h.eval index s).bind fun _ => Halts.pure _
  | .int _ | .str _ | .bool _ | .none | .format _ | .list _ | .tuple _ | .set _ | .dict _
  | .call _ _ | .binary _ _ _ | .logical _ _ _ | .unary _ _ | .compare _ _
  | .conditional _ _ _ | .lambda _ _ | .comprehension _ _ | .yield _ => exact Halts.fail _

omit s in
theorem combineInPlace (op : BinaryOp) (target operand : Value) :
    Halts b (combineInPlace ev op target operand) (combineInPlace ev' op target operand) := by
  unfold MeteredScript.combineInPlace
  split
  · exact (h.collect _).bind fun items => Halts.modifyHeap _
  · exact Halts.repeatInPlace _ _
  · refine Halts.heap.bind fun heap => ?_
    split
    · exact Halts.modifyHeap _
    · exact Halts.fail _
  · exact Halts.heap.bind fun heap => Halts.modifyHeap _
  · exact Halts.fail _

/-- **An augmented assignment ends.** -/
theorem augmentTarget (target : Expr) (op : BinaryOp) (operand : Expr) :
    Halts b (augmentTarget ev s target op operand) (augmentTarget ev' s target op operand) := by
  refine (h.resolveSlot s target).bind fun slot => (Halts.loadSlot s slot).bind fun current => ?_
  refine (h.eval operand s).bind fun r => HaltsOf.ite ?_ ?_
  · exact (h.combineInPlace op current r).bind fun _ => Halts.storeSlot s current slot
  · exact (Halts.augmentedValue op current r).bind fun v => Halts.storeSlot s v slot

/-! ## Pattern matching -/

theorem selectCase (subject : Value) (cases : List Case) :
    Halts b (selectCase ev s subject cases) (selectCase ev' s subject cases) := by
  have hguard (guard : Option Expr) : Halts b (guardHolds ev s guard) (guardHolds ev' s guard) := by
    cases guard with
    | none => exact Halts.pure true
    | some guard => exact h.holds s guard
  induction cases with
  | nil => exact Halts.pure none
  | cons case rest ih =>
    refine Halts.heap.bind fun heap => ?_
    cases hc : case.pattern.captures? heap subject with
    | none => simpa only [hc] using ih
    | some captures =>
      refine (Halts.bindCaptures s captures).bind fun _ => (hguard case.guard).bind fun _ => ?_
      exact HaltsOf.ite (Halts.pure _) ih

/-! ## Comprehensions -/

/-- **The clauses of a comprehension end**: each is a loop inside the one before it. -/
theorem collectElements {α : Type} {element element' : Eval α} (he : Halts b element element')
    (clauses : List Clause) (outer : Option Value) (elements : Array α) :
    Halts b (collectElements ev s element clauses outer elements)
      (collectElements ev' s element' clauses outer elements) := by
  induction clauses generalizing outer elements with
  | nil => exact he.bind fun v => Halts.pure _
  | cons clause rest ih =>
    have houter : Halts b (clauseIterable ev s clause outer)
        (clauseIterable ev' s clause outer) := by
      cases outer with
      | some v => exact Halts.pure v
      | none => exact h.eval clause.iterable s
    refine houter.bind fun v => (Halts.startIteration v).bind fun cursor => ?_
    refine h.iterate (fun elements item => ?_) h.enough h.rounds_le cursor elements
    refine (h.assignTarget clause.target item).bind fun _ => ?_
    refine (h.allHold s clause.conditions).bind fun _ => HaltsOf.ite ?_ (Halts.pure _)
    exact (ih none elements).bind fun elements => Halts.pure _

theorem evalEntry (key value : Expr) :
    Halts b (evalEntry ev s key value) (evalEntry ev' s key value) :=
  (h.eval key s).bind fun k => (h.eval value s).bind fun v => Halts.pure (k, v)

theorem evalComprehension (form : ComprehensionForm) (clauses : List Clause) :
    Halts b (evalComprehension ev s form clauses) (evalComprehension ev' s form clauses) := by
  cases clauses with
  | nil => exact Halts.fail _
  | cons first rest =>
    refine (h.eval first.iterable s).bind fun outer => ?_
    cases form with
    | generator element => exact Halts.newGeneratorExpression s _ outer
    | list element =>
      refine (Halts.newScope _ _).bind fun inner => ?_
      exact (h.collectElements inner (h.eval element inner) _ _ _).bind fun _ => Halts.place _
    | set element =>
      refine (Halts.newScope _ _).bind fun inner => ?_
      exact (h.collectElements inner (h.eval element inner) _ _ _).bind fun _ => Halts.placeSet _
    | dict key value =>
      refine (Halts.newScope _ _).bind fun inner => ?_
      exact (h.collectElements inner (h.evalEntry inner key value) _ _ _).bind fun _ =>
        Halts.placeDict _

/-! ## Parts of expressions -/

omit s in
/-- **Membership in a generator ends.** The items that it yields are compared one by one. -/
theorem memberOfGenerator (item : Value) (id : GeneratorId) :
    Halts b (memberOfGenerator ev item id) (memberOfGenerator ev' item id) := by
  refine h.iterate (fun found yielded => ?_) h.enough h.rounds_le _ _
  have hequal : Halts b (do Eval.ofAnswer ((← Eval.heap).equal? yielded item))
      (do Eval.ofAnswer ((← Eval.heap).equal? yielded item)) :=
    Halts.askFor fun _ => Heap.unanswered_of_equal?
  simpa only [bind_assoc] using hequal.bind fun equal =>
    HaltsOf.ite (Halts.pure (ForInStep.done true)) (Halts.pure (ForInStep.yield false))

omit s in
theorem linkHolds (op : CompareOp) (l r : Value) :
    Halts b (linkHolds ev op l r) (linkHolds ev' op l r) := by
  unfold MeteredScript.linkHolds
  split
  · exact h.memberOfGenerator _ _
  · exact Halts.map _ (h.memberOfGenerator _ _)
  · exact Halts.ask fun _ => .related op l r

theorem chainHolds (l : Value) (links : List (CompareOp × Expr)) :
    Halts b (chainHolds ev s l links) (chainHolds ev' s l links) := by
  induction links generalizing l with
  | nil => exact Halts.pure true
  | cons link links ih =>
    refine (h.eval link.2 s).bind fun r => (h.linkHolds link.1 l r).bind fun _ => ?_
    exact HaltsOf.ite (ih r) (Halts.pure false)

theorem evalParts (text : String) (parts : List FormatPart) :
    Halts b (evalParts ev s text parts) (evalParts ev' s text parts) := by
  induction parts generalizing text with
  | nil => exact Halts.pure text
  | cons part rest ih =>
    cases part with
    | text part => exact ih (text ++ part)
    | value e => exact (h.eval e s).bind fun v => (Halts.text v).bind fun part => ih (text ++ part)

theorem evalEntries (entries : List (Expr × Expr)) :
    Halts b (evalEntries ev s entries) (evalEntries ev' s entries) := by
  induction entries with
  | nil => exact Halts.pure []
  | cons entry rest ih =>
    exact (h.evalEntry s entry.1 entry.2).bind fun entry => ih.bind fun entries =>
      Halts.pure (entry :: entries)

theorem evalParameters (parameters : List Parameter) :
    Halts b (evalParameters ev s parameters) (evalParameters ev' s parameters) := by
  have hfallback (fallback : Option Expr) :
      Halts b (evalFallback ev s fallback) (evalFallback ev' s fallback) := by
    cases fallback with
    | none => exact Halts.pure none
    | some e => exact (h.eval e s).bind fun v => Halts.pure (some v)
  induction parameters with
  | nil => exact Halts.pure []
  | cons p rest ih =>
    exact (hfallback p.fallback).bind fun v => ih.bind fun ps => Halts.pure ((p.name, v) :: ps)

/-! ## All expressions -/

theorem evalForm (e : Expr) : Halts b (evalForm ev s e) (evalForm ev' s e) := by
  match e with
  | .int _ | .str _ | .bool _ | .none => exact Halts.pure _
  | .format parts => exact (h.evalParts s "" parts).bind fun text => Halts.pure _
  | .list items => exact (h.evalAll s items).bind fun vs => Halts.place _
  | .tuple items => exact (h.evalAll s items).bind fun vs => Halts.pure _
  | .set items => exact (h.evalAll s items).bind fun vs => Halts.placeSet _
  | .dict entries => exact (h.evalEntries s entries).bind fun vs => Halts.placeDict vs
  | .name id => exact Halts.lookup s id
  | .attribute object name => exact (h.eval object s).bind fun o => Halts.getAttribute o name
  | .subscript object index =>
    exact (h.eval object s).bind fun container => (h.eval index s).bind fun key =>
      Halts.item container key
  | .call callee arguments =>
    exact (h.eval callee s).bind fun f => (h.evalAll s arguments).bind fun vs => h.callValue f vs
  | .binary left op right =>
    exact (h.eval left s).bind fun l => (h.eval right s).bind fun r => Halts.binaryValue op l r
  | .logical left op right =>
    refine (h.eval left s).bind fun l => (Halts.isTruthy l).bind fun b => ?_
    exact HaltsOf.ite (Halts.pure l) (h.eval right s)
  | .unary op operand => exact (h.eval operand s).bind fun v => Halts.unaryValue op v
  | .compare first links =>
    exact (h.eval first s).bind fun l => (h.chainHolds s l links).bind fun b => Halts.pure _
  | .conditional condition whenTrue whenFalse =>
    refine (h.holds s condition).bind fun b => ?_
    exact HaltsOf.ite (h.eval whenTrue s) (h.eval whenFalse s)
  | .lambda parameters body =>
    exact (h.evalParameters s parameters).bind fun ps => Halts.newFunction _ _
  | .comprehension form clauses => exact h.evalComprehension s form clauses
  | .yield _ => exact Halts.fail _

end Terminating

end MeteredScript
