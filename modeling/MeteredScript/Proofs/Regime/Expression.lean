import MeteredScript.Evaluation.Expression
import MeteredScript.Proofs.Regime.Assignment
import MeteredScript.Proofs.Regime.Parts

/-!
# Expressions under a regime

Evaluating an expression needs no right to write to the scope it is evaluated
in. Where it does write, in the clauses of a comprehension and in the body of
a call, a new scope was entered before.
-/

namespace MeteredScript

/-- **The expressions whose values the clauses of a comprehension set attributes
of.** -/
def Expr.clauseObjects : Expr → List Expr
  | .comprehension _ clauses => clauses.flatMap (·.target.attributeObjects)
  | _ => []

/-- **What a comprehension does with the value of its first iterable.** -/
def evalClauses (ev : Evaluator) (scope : ScopeId) (form : ComprehensionForm) (first : Clause)
    (rest : List Clause) (outer : Value) : Eval Value :=
  match form with
  | .generator element => newGeneratorExpression scope (generatorBody element first rest) outer
  | .list element => do
    let inner ← Eval.newScope .comprehension (some scope)
    Eval.place (.list (← collectElements ev inner (ev.eval element inner) (first :: rest) outer #[]))
  | .set element => do
    let inner ← Eval.newScope .comprehension (some scope)
    placeSet (← collectElements ev inner (ev.eval element inner) (first :: rest) outer #[])
  | .dict key value => do
    let inner ← Eval.newScope .comprehension (some scope)
    let entries ← collectElements ev inner (evalEntry ev inner key value) (first :: rest) outer #[]
    placeDict entries.toList

theorem evalComprehension_cons (ev : Evaluator) (scope : ScopeId) (form : ComprehensionForm)
    (first : Clause) (rest : List Clause) : evalComprehension ev scope form (first :: rest) =
      ev.eval first.iterable scope >>= evalClauses ev scope form first rest := by
  cases form <;> rfl

/-- The value is given, so the expression that it is the value of is not looked at again. -/
theorem evalClauses_mapIterable (ev : Evaluator) (scope : ScopeId) (form : ComprehensionForm)
    (f : Expr → Expr) (first : Clause) (rest : List Clause) :
    evalClauses ev scope form (first.mapIterable f) rest = evalClauses ev scope form first rest := by
  cases form <;> rfl

namespace Regime

variable {R : Regime} {Objects : Expr → Prop} {g : R.Stage} {w : R.World}

theorem Keeps.unaryValue (op : UnaryOp) (v : Value) :
    R.Keeps g w (unaryValue op v) (unaryValue op v) := by
  cases op with
  | not => exact (Keeps.isTruthy v).bind fun _ _ _ _ => .pure (within_bool _)
  | neg => exact .ofFault (within_negated v)

namespace Keeping

variable {ev ev' : Evaluator} (h : R.Keeping Objects ev ev') {s : ScopeId}

include h

/-! ## Comprehensions -/

theorem clauseIterable (runs : R.runs g s) (c : Clause) {outer : Option Value}
    (ho : Within (R.named w) outer) :
    R.Keeps g w (clauseIterable ev s c outer) (clauseIterable ev' s c outer) := by
  cases outer with
  | some v => exact .pure (within_some.1 ho)
  | none => exact h.eval runs

/-- **The clauses of a comprehension** write to the scope they run in. -/
theorem collectElements {α : Type} [Holder α] {element element' : Eval α}
    (runs : R.runs g s) (writes : R.writes g s) (he : R.Keeps g w element element')
    {clauses : List Clause} (ht : ∀ c ∈ clauses, ∀ o ∈ c.target.attributeObjects, Objects o)
    {outer : Option Value} (ho : Within (R.named w) outer)
    {elements : Array α} (hes : Within (R.named w) elements) :
    R.Keeps g w (collectElements ev s element clauses outer elements)
      (collectElements ev' s element' clauses outer elements) := by
  induction clauses generalizing w outer elements with
  | nil => exact he.bind fun _ _ hw hv => .pure (within_push.2 ⟨hes.grow hw, hv⟩)
  | cons c rest ih =>
    rw [List.forall_mem_cons] at ht
    refine (h.clauseIterable runs c ho).bind fun w₁ v hw₁ hv => ?_
    refine (Keeps.startIteration hv).bind fun w₂ cursor hw₂ hc => ?_
    have started := R.grows_trans hw₁ hw₂
    rw [h.rounds]
    refine h.iterate (fun w₃ elements item hw₃ hes hitem => ?_) _ hc (hes.grow started)
    refine Keeps.tick.bind fun w₄ _ hw₄ _ => ?_
    refine (h.assignTarget runs writes c.target ht.1 (hitem.grow hw₄)).bind fun w₅ _ hw₅ _ => ?_
    refine (h.allHold runs c.conditions).bind fun w₆ _ hw₆ _ => ?_
    have turned := R.grows_trans hw₄ (R.grows_trans hw₅ hw₆)
    refine .ite ?_ (.pure (within_yield.2 (hes.grow turned)))
    have here := he.grow (R.grows_trans started (R.grows_trans hw₃ turned))
    exact (ih here ht.2 within_optionNone (hes.grow turned)).bind fun _ _ _ hes =>
      .pure (within_yield.2 hes)

omit h in
theorem evalEntry_of_eval {key key' value value' : Expr}
    (hk : R.Keeps g w (ev.eval key s) (ev'.eval key' s))
    (hv : R.Keeps g w (ev.eval value s) (ev'.eval value' s)) :
    R.Keeps g w (evalEntry ev s key value) (evalEntry ev' s key' value') :=
  hk.bind fun _ _ hw hk => (hv.grow hw).bind fun _ _ hw' hv =>
    .pure (within_pair.2 ⟨hk.grow hw', hv⟩)

/-- **What is done with the first iterable** is done in a new scope. -/
theorem evalClauses (s : ScopeId) (form : ComprehensionForm) {first : Clause} {rest : List Clause}
    (ht : ∀ c ∈ first :: rest, ∀ o ∈ c.target.attributeObjects, Objects o) {outer : Value}
    (ho : Within (R.named w) outer) :
    R.Keeps g w (evalClauses ev s form first rest outer)
      (evalClauses ev' s form first rest outer) := by
  have collected {α : Type} [Holder α] {element element' : ScopeId → Eval α}
      (he : ∀ {g' s'}, R.runs g' s' → R.Keeps g' w (element s') (element' s'))
      {f : Array α → Eval Value} (hf : ∀ g' w' es, Within (R.named w') es →
        R.Keeps g' w' (f es) (f es)) :
      R.Keeps g w
        (Eval.newScope .comprehension (some s) >>= fun inner =>
          MeteredScript.collectElements ev inner (element inner) (first :: rest) outer #[] >>= f)
        (Eval.newScope .comprehension (some s) >>= fun inner =>
          MeteredScript.collectElements ev' inner (element' inner) (first :: rest) outer #[]
            >>= f) := by
    refine .inScope fun g' inner runs writes => ?_
    exact (h.collectElements runs writes (he runs) ht (within_some.2 ho)
      within_emptyArray).bind fun w' es _ hes => hf g' w' es hes
  cases form with
  | generator element => exact .newGeneratorExpression s _ ho
  | list element => exact collected h.eval fun _ _ _ hes => .placeList hes
  | set element => exact collected h.eval fun _ _ _ hes => .placeSet hes
  | dict key value =>
    exact collected (fun runs => evalEntry_of_eval (h.eval runs) (h.eval runs)) fun _ _ _ hes =>
      .placeDict (within_array.1 hes)

/-! ## Parts of expressions -/

theorem memberOfGenerator (item : Value) (id : GeneratorId) :
    R.Keeps g w (memberOfGenerator ev item id) (memberOfGenerator ev' item id) := by
  unfold MeteredScript.memberOfGenerator
  rw [h.rounds]
  refine h.iterate (fun _ _ yielded _ _ _ => ?_) _ (within_generatorCursor id) (within_plain _)
  refine Keeps.tick.bind fun _ _ _ _ => .bind_heap fun _ heap _ _ => ?_
  refine (Keeps.ofAnswer (within_plain _)).bind fun _ _ _ _ => ?_
  exact .ite (.pure (within_done.2 (within_plain true))) (.pure (within_yield.2 (within_plain false)))

theorem linkHolds (op : CompareOp) (l r : Value) :
    R.Keeps g w (linkHolds ev op l r) (linkHolds ev' op l r) := by
  unfold MeteredScript.linkHolds
  split
  · exact h.memberOfGenerator _ _
  · exact (h.memberOfGenerator _ _).map _ fun _ _ _ _ => within_plain _
  · exact .bind_heap fun _ heap _ _ => .ofStop (within_related heap op l _)

end Keeping

/-! ## Other parts

From here on the second run may evaluate other parts, which do the same as those of the
first. -/

section Parts

variable {ev ev' : Evaluator} {s : ScopeId} {f : Expr → Expr}

theorem Keeping.chainHolds_map (h : R.Keeping Objects ev ev') (l : Value)
    {links : List (CompareOp × Expr)}
    (hf : ∀ e ∈ links.map Prod.snd, R.Keeps g w (ev.eval e s) (ev'.eval (f e) s)) :
    R.Keeps g w (chainHolds ev s l links) (chainHolds ev' s l (links.map (Prod.map id f))) := by
  induction links generalizing w l with
  | nil => exact .pure (within_plain true)
  | cons link links ih =>
    rw [List.map_cons, List.forall_mem_cons] at hf
    refine hf.1.bind fun _ r hw₁ _ => (h.linkHolds link.1 l r).bind fun _ _ hw₂ _ => ?_
    refine .ite (ih r fun e member => ?_) (.pure (within_plain false))
    exact (hf.2 e member).grow (R.grows_trans hw₁ hw₂)

theorem evalParts_map (text : String) {parts : List FormatPart}
    (hf : ∀ e ∈ parts.flatMap FormatPart.exprs, R.Keeps g w (ev.eval e s) (ev'.eval (f e) s)) :
    R.Keeps g w (evalParts ev s text parts)
      (evalParts ev' s text (parts.map (FormatPart.map f))) := by
  induction parts generalizing w text with
  | nil => exact .pure (within_plain text)
  | cons part rest ih =>
    rw [List.flatMap_cons, List.forall_mem_append] at hf
    cases part with
    | text part => exact ih _ hf.2
    | value e =>
      refine (hf.1 e List.mem_cons_self).bind fun _ v hw₁ _ => (Keeps.text v).bind ?_
      exact fun _ _ hw₂ _ => ih _ fun e member => (hf.2 e member).grow (R.grows_trans hw₁ hw₂)

theorem evalEntries_map {entries : List (Expr × Expr)}
    (hf : ∀ e ∈ entries.flatMap fun entry => [entry.1, entry.2],
      R.Keeps g w (ev.eval e s) (ev'.eval (f e) s)) :
    R.Keeps g w (evalEntries ev s entries)
      (evalEntries ev' s (entries.map (Prod.map f f))) := by
  induction entries generalizing w with
  | nil => exact .pure within_nil
  | cons entry rest ih =>
    rw [List.flatMap_cons, List.forall_mem_append] at hf
    refine (Keeping.evalEntry_of_eval (hf.1 _ (by simp)) (hf.1 _ (by simp))).bind fun _ _ hw he => ?_
    refine (ih fun e member => (hf.2 e member).grow hw).bind fun _ _ hw hes => ?_
    exact .pure (within_cons.2 ⟨he.grow hw, hes⟩)

theorem evalFallback_map {fallback : Option Expr}
    (hf : ∀ e ∈ fallback.toList, R.Keeps g w (ev.eval e s) (ev'.eval (f e) s)) :
    R.Keeps g w (evalFallback ev s fallback) (evalFallback ev' s (fallback.map f)) := by
  cases fallback with
  | none => exact .pure within_optionNone
  | some e =>
    exact (hf e (by simp)).bind fun _ _ _ hv => .pure (within_some.2 hv)

theorem evalParameters_map {parameters : List Parameter}
    (hf : ∀ e ∈ parameters.flatMap fun p => p.fallback.toList,
      R.Keeps g w (ev.eval e s) (ev'.eval (f e) s)) :
    R.Keeps g w (evalParameters ev s parameters)
      (evalParameters ev' s (parameters.map (Parameter.map f))) := by
  induction parameters generalizing w with
  | nil => exact .pure within_nil
  | cons p rest ih =>
    rw [List.flatMap_cons, List.forall_mem_append] at hf
    refine (evalFallback_map hf.1).bind fun _ _ hw hv => ?_
    refine (ih fun e member => (hf.2 e member).grow hw).bind fun _ _ hw hps => ?_
    exact .pure (within_cons.2 ⟨within_pair.2 ⟨within_plain p.name, hv.grow hw⟩, hps⟩)

theorem Keeping.evalParameters (h : R.Keeping Objects ev ev') (runs : R.runs g s)
    (parameters : List Parameter) :
    R.Keeps g w (evalParameters ev s parameters) (evalParameters ev' s parameters) := by
  have same : R.Keeps g w (MeteredScript.evalParameters ev s parameters)
      (MeteredScript.evalParameters ev' s (parameters.map (Parameter.map id))) :=
    evalParameters_map fun _ _ => h.eval runs
  rwa [Parameter.map_id, List.map_id] at same

/-! ## All expressions -/

/-- **An expression does the same if its parts do.** -/
theorem Keeping.evalForm_mapParts (h : R.Keeping Objects ev ev') {e : Expr}
    (hname : ∀ id, e = .name id → R.Keeps g w (Eval.lookup s id) (Eval.lookup s id))
    (hf : ∀ p ∈ e.parts, R.Keeps g w (ev.eval p s) (ev'.eval (f p) s))
    (ht : ∀ o ∈ e.clauseObjects, Objects o) :
    R.Keeps g w (evalForm ev s e) (evalForm ev' s (e.mapParts f)) := by
  match e, hname, hf, ht with
  | .int _, _, _, _ | .str _, _, _, _ | .bool _, _, _, _ | .none, _, _, _ => exact .pure (by simp)
  | .format parts, _, hf, _ => exact (evalParts_map "" hf).bind fun _ _ _ _ => .pure (within_str _)
  | .list items, _, hf, _ => exact (evalAll_map hf).bind fun _ _ _ hvs => .placeList hvs
  | .tuple items, _, hf, _ =>
    exact (evalAll_map hf).bind fun _ _ _ hvs => .pure (within_tuple.2 (within_list.1 hvs))
  | .set items, _, hf, _ => exact (evalAll_map hf).bind fun _ _ _ hvs => .placeSet hvs
  | .dict entries, _, hf, _ => exact (evalEntries_map hf).bind fun _ _ _ hes => .placeDict hes
  | .name id, hname, _, _ => exact hname id rfl
  | .attribute object name, _, hf, _ =>
    exact (hf object List.mem_cons_self).bind fun _ _ _ ho => .getAttribute ho name
  | .subscript object index, _, hf, _ =>
    simp only [Expr.parts, List.forall_mem_cons] at hf
    refine hf.1.bind fun _ container hw₁ hc => (hf.2.1.grow hw₁).bind fun _ key hw _ => ?_
    refine .bind_heap fun _ heap hw' upheld => .ofStop ?_
    exact within_itemAt upheld (hc.grow (R.grows_trans hw hw'))
  | .call callee arguments, _, hf, _ =>
    simp only [Expr.parts, List.forall_mem_cons] at hf
    refine hf.1.bind fun _ callee hw₁ _ => ?_
    refine (evalAll_map fun e member => (hf.2 e member).grow hw₁).bind fun _ _ _ hvs => ?_
    exact h.callValue callee hvs
  | .binary left op right, _, hf, _ =>
    simp only [Expr.parts, List.forall_mem_cons] at hf
    exact hf.1.bind fun _ l hw₁ hl => (hf.2.1.grow hw₁).bind fun _ r hw hr =>
      .binaryValue op (hl.grow hw) hr
  | .logical left op right, _, hf, _ =>
    simp only [Expr.parts, List.forall_mem_cons] at hf
    exact hf.1.bind fun _ l hw₁ hl => (Keeps.isTruthy l).bind fun _ _ hw _ =>
      .ite (.pure (hl.grow hw)) (hf.2.1.grow (R.grows_trans hw₁ hw))
  | .unary op operand, _, hf, _ =>
    exact (hf operand List.mem_cons_self).bind fun _ v _ _ => .unaryValue op v
  | .compare first links, _, hf, _ =>
    simp only [Expr.parts, List.forall_mem_cons] at hf
    refine hf.1.bind fun _ l hw₁ _ => ?_
    refine (h.chainHolds_map l fun e member => (hf.2 e member).grow hw₁).bind fun _ _ _ _ => ?_
    exact .pure (within_bool _)
  | .conditional condition whenTrue whenFalse, _, hf, _ =>
    simp only [Expr.parts, List.forall_mem_cons] at hf
    exact (holds_of_eval hf.1).bind fun _ _ hw _ => .ite (hf.2.1.grow hw) (hf.2.2.1.grow hw)
  | .lambda parameters body, _, hf, _ =>
    exact (evalParameters_map hf).bind fun _ _ _ hps =>
      .newFunction _ (within_functionRecord.2 hps)
  | .comprehension _ [], _, _, _ => exact .fail (within_typeFault _)
  | .comprehension form (first :: rest), _, hf, ht =>
    rw [Expr.mapParts, MeteredScript.evalForm, MeteredScript.evalForm, evalComprehension_cons,
      evalComprehension_cons]
    refine (hf first.iterable List.mem_cons_self).bind fun _ outer _ ho => ?_
    rw [evalClauses_mapIterable]
    exact h.evalClauses s form (fun c member o ho => ht o (List.mem_flatMap.2 ⟨c, member, ho⟩)) ho
  | .yield _, _, _, _ => exact .fail (within_typeFault _)

end Parts

namespace Keeping

variable {ev ev' : Evaluator} (h : R.Keeping Objects ev ev') {s : ScopeId}

include h

theorem evalForm (runs : R.runs g s) {e : Expr} (ht : ∀ o ∈ e.clauseObjects, Objects o) :
    R.Keeps g w (evalForm ev s e) (evalForm ev' s e) := by
  simpa using h.evalForm_mapParts (f := id) (fun id _ => .lookup runs id)
    (fun _ _ => h.eval runs) ht

/-- **Evaluating an expression keeps a regime**, whoever may write to the scope
of the evaluation. -/
theorem evalExpr (runs : R.runs g s) {e : Expr} (ht : ∀ o ∈ e.clauseObjects, Objects o) :
    R.Keeps g w (evalExpr ev e s) (evalExpr ev' e s) :=
  Keeps.tick.bind fun _ _ _ _ => h.evalForm runs ht

end Keeping

end Regime

end MeteredScript
