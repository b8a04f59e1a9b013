import MeteredScript.Evaluation.Expression
import MeteredScript.Proofs.Coupling.Assignment

/-!
# Two evaluations of an expression

One lemma for each part that expressions are made of, and `evalExpr` on top of
them.
-/

namespace MeteredScript

namespace Coupling

variable {c : Coupling}

theorem Lawful.unaryValue (hc : c.Lawful) (op : UnaryOp) (v : Value) :
    c.Sim (unaryValue op v) (unaryValue op v) := by
  cases op with
  | not => exact Sim.bind (hc.isTruthy v) fun b => Sim.pure _
  | neg => exact Sim.ofFault _

namespace Couples

variable {ev ev' : Evaluator}

/-! ## Comprehensions -/

section Comprehension

variable (h : c.Couples ev ev')

include h

theorem clauseIterable {s : ScopeId} {clause : Clause}
    (hn : c.Shows clause.iterable.names) (outer : Option Value) :
    c.Sim (clauseIterable ev s clause outer) (clauseIterable ev' s clause outer) := by
  cases outer with
  | some v => exact Sim.pure v
  | none => exact h.eval hn

/-- **Two comprehensions collect the same elements.** -/
theorem collectElements {α : Type} {s : ScopeId} {element element' : Eval α}
    (he : c.Sim element element') {clauses : List Clause} (hn : c.Shows (clausesNames clauses))
    (outer : Option Value) (elements : Array α) :
    c.Sim (collectElements ev s element clauses outer elements)
      (collectElements ev' s element' clauses outer elements) := by
  induction clauses generalizing outer elements with
  | nil => exact Sim.bind he fun v => Sim.pure _
  | cons clause rest ih =>
    obtain ⟨target, iterable, conditions⟩ := clause
    simp only [clausesNames, shows_append] at hn
    obtain ⟨⟨⟨htarget, hiterable⟩, hconditions⟩, hrest⟩ := hn
    refine Sim.bind (h.clauseIterable hiterable outer) fun v => ?_
    refine Sim.bind (h.startIteration v) fun cursor => ?_
    refine h.iterate (fun elements item => ?_) h.rounds cursor elements
    refine Sim.bind h.tick fun _ => Sim.bind (h.assignTarget target item htarget) fun _ => ?_
    refine Sim.bind (h.allHold hconditions) fun b => Sim.ite ?_ (Sim.pure _)
    exact Sim.bind (ih hrest none elements) fun elements => Sim.pure _

theorem evalEntry {s : ScopeId} {key value : Expr} (hk : c.Shows key.names)
    (hv : c.Shows value.names) :
    c.Sim (evalEntry ev s key value) (evalEntry ev' s key value) :=
  Sim.bind (h.eval hk) fun k => Sim.bind (h.eval hv) fun v => Sim.pure (k, v)

/-- **Two comprehensions have the same value.** -/
theorem evalComprehension {s : ScopeId} {form : ComprehensionForm}
    (hf : c.Shows form.names) {clauses : List Clause} (hn : c.Shows (clausesNames clauses)) :
    c.Sim (evalComprehension ev s form clauses) (evalComprehension ev' s form clauses) := by
  cases clauses with
  | nil => exact Sim.fail _
  | cons first rest =>
    have hiterable : c.Shows first.iterable.names := by
      obtain ⟨target, iterable, conditions⟩ := first
      simp only [clausesNames, shows_append] at hn
      exact hn.1.1.2
    refine Sim.bind (h.eval hiterable) fun outer => ?_
    cases form with
    | generator element => exact h.newGeneratorExpression s outer hf hn
    | list element =>
      refine Sim.bind (h.newScope _ _) fun inner => ?_
      exact Sim.bind (h.collectElements (h.eval hf) hn _ _) fun elements => h.place _
    | set element =>
      refine Sim.bind (h.newScope _ _) fun inner => ?_
      exact Sim.bind (h.collectElements (h.eval hf) hn _ _) fun elements => h.placeSet _
    | dict key value =>
      obtain ⟨hk, hv⟩ := shows_append.1 hf
      refine Sim.bind (h.newScope _ _) fun inner => ?_
      refine Sim.bind (h.collectElements (h.evalEntry hk hv) hn _ _) fun entries => ?_
      exact h.placeDict _

end Comprehension

/-! ## Parts of expressions -/

section Parts

variable (h : c.Couples ev ev')

include h

theorem memberOfGenerator (item : Value) (id : GeneratorId) :
    c.Sim (memberOfGenerator ev item id) (memberOfGenerator ev' item id) := by
  refine h.iterate (fun found yielded => ?_) h.rounds _ _
  refine Sim.bind h.tick fun _ => Sim.bind h.heap fun heap => ?_
  exact Sim.bind (Sim.ofAnswer _) fun equal => Sim.ite (Sim.pure _) (Sim.pure _)

theorem linkHolds (op : CompareOp) (l r : Value) :
    c.Sim (linkHolds ev op l r) (linkHolds ev' op l r) := by
  unfold MeteredScript.linkHolds
  split
  · exact h.memberOfGenerator _ _
  · exact Sim.map _ (h.memberOfGenerator _ _)
  · exact Sim.bind h.heap fun heap => Sim.ofStop _

theorem chainHolds {s : ScopeId} {links : List (CompareOp × Expr)}
    (hn : c.Shows (linksNames links)) (l : Value) :
    c.Sim (chainHolds ev s l links) (chainHolds ev' s l links) := by
  induction links generalizing l with
  | nil => exact Sim.pure true
  | cons link links ih =>
    obtain ⟨op, operand⟩ := link
    rw [linksNames, shows_append] at hn
    refine Sim.bind (h.eval hn.1) fun r => Sim.bind (h.linkHolds op l r) fun holds => ?_
    exact Sim.ite (ih hn.2 r) (Sim.pure false)

theorem evalParts {s : ScopeId} {parts : List FormatPart}
    (hn : c.Shows (partsNames parts)) (text : String) :
    c.Sim (evalParts ev s text parts) (evalParts ev' s text parts) := by
  induction parts generalizing text with
  | nil => exact Sim.pure text
  | cons part rest ih =>
    cases part with
    | text part => exact ih hn (text ++ part)
    | value e =>
      rw [partsNames, shows_append] at hn
      refine Sim.bind (h.eval hn.1) fun v => Sim.bind (h.text v) fun part => ?_
      exact ih hn.2 (text ++ part)

theorem evalEntries {s : ScopeId} {entries : List (Expr × Expr)}
    (hn : c.Shows (entriesNames entries)) :
    c.Sim (evalEntries ev s entries) (evalEntries ev' s entries) := by
  induction entries with
  | nil => exact Sim.pure []
  | cons entry rest ih =>
    obtain ⟨key, value⟩ := entry
    simp only [entriesNames, shows_append] at hn
    refine Sim.bind (h.evalEntry hn.1.1 hn.1.2) fun entry => ?_
    exact Sim.bind (ih hn.2) fun entries => Sim.pure (entry :: entries)

theorem evalFallback {s : ScopeId} {fallback : Option Expr}
    (hn : c.Shows (optionalNames fallback)) :
    c.Sim (evalFallback ev s fallback) (evalFallback ev' s fallback) := by
  cases fallback with
  | none => exact Sim.pure none
  | some e => exact Sim.bind (h.eval hn) fun v => Sim.pure (some v)

/-- The parameters of a definition are evaluated to parameters of the same
names. -/
theorem evalParameters {s : ScopeId} {parameters : List Parameter}
    (hn : c.Shows (parametersNames parameters)) :
    c.SimOf (fun ps => c.Shows (ps.map Prod.fst)) (evalParameters ev s parameters)
      (evalParameters ev' s parameters) := by
  have ht (hl : c.Lenient) (ps : List (String × Option Value)) := hl.shows (ps.map Prod.fst)
  induction parameters with
  | nil => exact SimOf.pure (shows_nil c) ht
  | cons p rest ih =>
    obtain ⟨name, fallback⟩ := p
    simp only [parametersNames, List.cons_append, shows_cons, shows_append] at hn
    obtain ⟨hname, hfallback, hrest⟩ := hn
    refine SimOf.bindOf (h.evalFallback hfallback) (fun v _ => ?_) ht
    refine SimOf.bindOf (ih hrest) (fun ps hps => SimOf.pure ?_ ht) ht
    exact shows_cons.2 ⟨hname, hps⟩

/-! ## All expressions -/

theorem evalForm {s : ScopeId} {e : Expr} (hn : c.Shows e.names) :
    c.Sim (evalForm ev s e) (evalForm ev' s e) := by
  match e, hn with
  | .int _, _ | .str _, _ | .bool _, _ | .none, _ => exact Sim.pure _
  | .format parts, hn => exact Sim.bind (h.evalParts hn "") fun text => Sim.pure _
  | .list items, hn => exact Sim.bind (h.evalAll hn) fun vs => h.place _
  | .tuple items, hn => exact Sim.bind (h.evalAll hn) fun vs => Sim.pure _
  | .set items, hn => exact Sim.bind (h.evalAll hn) fun vs => h.placeSet _
  | .dict entries, hn => exact Sim.bind (h.evalEntries hn) fun vs => h.placeDict vs
  | .name id, hn => exact h.lookup (shows_cons.1 hn).1
  | .attribute object name, hn =>
    rw [Expr.names, shows_cons] at hn
    exact Sim.bind (h.eval hn.2) fun o => h.getAttribute o hn.1
  | .subscript object index, hn =>
    rw [Expr.names, shows_append] at hn
    refine Sim.bind (h.eval hn.1) fun container => Sim.bind (h.eval hn.2) fun key => ?_
    exact Sim.bind h.heap fun heap => Sim.ofStop _
  | .call callee arguments, hn =>
    rw [Expr.names, shows_append] at hn
    refine Sim.bind (h.eval hn.1) fun f => Sim.bind (h.evalAll hn.2) fun vs => ?_
    exact h.callValue f vs
  | .binary left op right, hn =>
    rw [Expr.names, shows_append] at hn
    refine Sim.bind (h.eval hn.1) fun l => Sim.bind (h.eval hn.2) fun r => ?_
    exact h.binaryValue op l r
  | .logical left op right, hn =>
    rw [Expr.names, shows_append] at hn
    refine Sim.bind (h.eval hn.1) fun l => Sim.bind (h.isTruthy l) fun b => ?_
    exact Sim.ite (Sim.pure l) (h.eval hn.2)
  | .unary op operand, hn => exact Sim.bind (h.eval hn) fun v => h.unaryValue op v
  | .compare first links, hn =>
    rw [Expr.names, shows_append] at hn
    refine Sim.bind (h.eval hn.1) fun l => ?_
    exact Sim.bind (h.chainHolds hn.2 l) fun b => Sim.pure _
  | .conditional condition whenTrue whenFalse, hn =>
    simp only [Expr.names, shows_append] at hn
    obtain ⟨⟨hcondition, htrue⟩, hfalse⟩ := hn
    refine Sim.bind (h.holds hcondition) fun b => ?_
    exact Sim.ite (h.eval htrue) (h.eval hfalse)
  | .lambda parameters body, hn =>
    rw [Expr.names, shows_append] at hn
    refine SimOf.bind (h.evalParameters hn.1) fun ps hps => ?_
    exact h.newFunction _ (shows_append.2 ⟨hps, hn.2⟩)
  | .comprehension form clauses, hn =>
    rw [Expr.names, shows_append] at hn
    exact h.evalComprehension hn.1 hn.2
  | .yield _, _ => exact Sim.fail _

/-- **Two evaluations of an expression do the same.** -/
theorem evalExpr {s : ScopeId} {e : Expr} (hn : c.Shows e.names) :
    c.Sim (evalExpr ev e s) (evalExpr ev' e s) :=
  Sim.bind h.tick fun _ => h.evalForm hn

end Parts

end Couples

end Coupling

end MeteredScript
