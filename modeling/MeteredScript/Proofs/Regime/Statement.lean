import MeteredScript.Host.Session
import MeteredScript.Proofs.Regime.Expression

/-!
# Statements under a regime

A statement runs in a scope that it may write to. The body of a class runs in
a new scope, and from then on there is a class object that leads to it.
-/

namespace MeteredScript

variable {S : ScopeId → Prop}

/-- **The expressions whose values a statement sets attributes of**, not counting
the statements in it. -/
def StmtForm.attributeObjects : StmtForm → List Expr
  | .assign targets _ => exprsAttributeObjects targets
  | .augmented target _ _ => target.attributeObjects
  | .forLoop target _ _ _ => target.attributeObjects
  | _ => []

/-- How a round ended is all that is seen of it. -/
theorem Within.roundEnd {result : Except Stop Unit} (h : Within S result) :
    Within S (roundEnd result) := by
  match result, h with
  | .ok (), _ | .error .continues, _ => exact within_ok.2 (within_plain true)
  | .error .breaks, _ => exact within_ok.2 (within_plain false)
  | .error (.fault _), h | .error (.returns _), h | .error .gasExhausted, h
  | .error .endless, h => exact h

namespace Regime

variable {R : Regime} {Objects : Expr → Prop} {g : R.Stage} {w : R.World}

/-- The name of a handler is bound where the handler runs. -/
theorem Keeps.bindException {s : ScopeId} (writes : R.writes g s) (handler : Handler) {f : Fault}
    (hf : Within (R.named w) f) :
    R.Keeps g w (bindException s handler f) (bindException s handler f) := by
  unfold MeteredScript.bindException
  cases handler.name with
  | none => exact .pure (within_plain ())
  | some name =>
    exact (Keeps.newException hf.toException).bind fun _ _ _ he => .define writes he

namespace Keeping

variable {ev ev' : Evaluator} (h : R.Keeping Objects ev ev') {s : ScopeId}

include h

/-! ## Loops -/

section Loops

variable (runs : R.runs g s) (writes : R.writes g s)

include runs writes

theorem runRound (body : Block) :
    R.Keeps g w (runRound ev s body) (runRound ev' s body) :=
  (h.execBlock runs writes body).attempt.bind fun _ _ _ hr => .ofStop (Within.roundEnd hr)

theorem runWhile (condition : Expr) (body : Block) (n : Nat) :
    R.Keeps g w (runWhile ev s condition body n) (runWhile ev' s condition body n) := by
  induction n generalizing w with
  | zero => exact .throw within_endless
  | succ n ih =>
    refine Keeps.tick.bind fun _ _ _ _ => (h.holds runs condition).bind fun _ _ _ _ => ?_
    refine .ite ?_ (.pure (within_plain true))
    exact (h.runRound runs writes body).bind fun _ _ _ _ => .ite ih (.pure (within_plain false))

theorem runFor {target : Expr} (ht : ∀ o ∈ target.attributeObjects, Objects o) (body : Block)
    {cursor : Cursor}
    (hc : Within (R.named w) cursor) :
    R.Keeps g w (runFor ev s target body cursor) (runFor ev' s target body cursor) := by
  unfold MeteredScript.runFor
  rw [h.rounds]
  refine h.iterate (fun _ _ item _ _ hitem => ?_) _ hc (within_plain true)
  refine Keeps.tick.bind fun _ _ hw _ => ?_
  refine (h.assignTarget runs writes target ht (hitem.grow hw)).bind fun _ _ _ _ => ?_
  refine (h.runRound runs writes body).bind fun _ _ _ _ => ?_
  exact .ite (.pure (within_yield.2 (within_plain true))) (.pure (within_done.2 (within_plain false)))

end Loops

/-! ## Exceptions -/

theorem findHandler (runs : R.runs g s) (kind : ExceptionKind) (handlers : List Handler) :
    R.Keeps g w (findHandler ev s kind handlers) (findHandler ev' s kind handlers) := by
  induction handlers generalizing w with
  | nil => exact .pure (within_plain none)
  | cons handler rest ih =>
    obtain ⟨catches, name, body⟩ := handler
    cases catches with
    | none => exact .pure (within_plain (some _))
    | some e =>
      refine (h.eval runs).bind fun _ expected _ _ => .bind_ofTypeFault fun _ _ => ?_
      exact .ite (.pure (within_plain (some _))) ih

theorem raisedFault (runs : R.runs g s) (exception : Option Expr) :
    R.Keeps g w (raisedFault ev s exception) (raisedFault ev' s exception) := by
  cases exception with
  | some e =>
    refine (h.eval runs).bind fun _ v _ hv => .bind_ofTypeFault fun raised made => ?_
    have hraised := within_exceptionOf hv
    rw [made, within_ok] at hraised
    exact .pure (within_raised.2 hraised)
  | none =>
    exact Keeps.handled?.bind fun _ _ _ hf => .pure (hf.getD within_nothingToReraise)

section Handlers

variable (runs : R.runs g s) (writes : R.writes g s)

include runs writes

theorem handleFault (handlers : List Handler) {f : Fault} (hf : Within (R.named w) f) :
    R.Keeps g w (handleFault ev s handlers f) (handleFault ev' s handlers f) := by
  refine (h.findHandler runs f.exceptionKind handlers).bind fun _ handler hw _ => ?_
  cases handler with
  | none => exact .fail (hf.grow hw)
  | some handler =>
    refine (Keeps.bindException writes handler (hf.grow hw)).bind fun _ _ hw' _ => ?_
    exact .whileHandling (hf.grow (R.grows_trans hw hw')) (h.execBlock runs writes handler.body)

theorem runGuarded (body : Block) (handlers : List Handler) (orElse : Option Block) :
    R.Keeps g w (runGuarded ev s body handlers orElse)
      (runGuarded ev' s body handlers orElse) := by
  refine (h.execBlock runs writes body).attempt.bind fun _ result _ hr => ?_
  match result, hr with
  | .ok (), _ => exact h.execOptional runs writes orElse
  | .error (.fault f), hf => exact h.handleFault runs writes handlers hf
  | .error (.returns _), hs | .error .breaks, hs | .error .continues, hs
  | .error .gasExhausted, hs | .error .endless, hs => exact .throw hs

theorem runTry (body : Block) (handlers : List Handler) (orElse cleanup : Option Block) :
    R.Keeps g w (runTry ev s body handlers orElse cleanup)
      (runTry ev' s body handlers orElse cleanup) :=
  (h.runGuarded runs writes body handlers orElse).attempt.bind fun _ _ _ hr =>
    (h.execOptional runs writes cleanup).bind fun _ _ hw _ => .ofStop (hr.grow hw)

/-! ## Definitions -/

theorem defineFunction (name : String) (parameters : List Parameter) (body : Block) :
    R.Keeps g w (defineFunction ev s name parameters body)
      (defineFunction ev' s name parameters body) :=
  (h.evalParameters runs parameters).bind fun _ _ _ hps =>
    (Keeps.newFunction name (within_functionRecord.2 hps)).bind fun _ _ _ hf => .define writes hf

omit runs in
/-- **A class**: its body writes to the new scope, and its name is bound in the
one around. -/
theorem defineClass (name : String) (body : Block) :
    R.Keeps g w (defineClass ev s name body) (defineClass ev' s name body) :=
  .openClass (fun _ _ runs writes => h.execBlock runs writes body) fun _ _ _ _ named _ =>
    .define writes (within_classObject.2 named)

/-! ## All statements -/

theorem execForm {form : StmtForm} (ht : ∀ o ∈ form.attributeObjects, Objects o) :
    R.Keeps g w (execForm ev s form) (execForm ev' s form) := by
  cases form with
  | expr value => exact (h.eval runs).bind fun _ _ _ _ => .pure (within_plain ())
  | assign targets value =>
    exact (h.eval runs).bind fun _ _ _ hv => h.assignAll runs writes hv ht
  | augmented target op value => exact h.augmentTarget runs writes ht op value
  | branch condition body orElse =>
    exact (h.holds runs condition).bind fun _ _ _ _ =>
      .ite (h.execBlock runs writes body) (h.execOptional runs writes orElse)
  | whileLoop condition body orElse =>
    unfold MeteredScript.execForm
    rw [h.rounds]
    exact (h.runWhile runs writes condition body _).bind fun _ _ _ _ =>
      .ite (h.execOptional runs writes orElse) (.pure (within_plain ()))
  | forLoop target iterable body orElse =>
    refine (h.eval runs).bind fun _ v _ hv => (Keeps.startIteration hv).bind fun _ _ _ hc => ?_
    exact (h.runFor runs writes ht body hc).bind fun _ _ _ _ =>
      .ite (h.execOptional runs writes orElse) (.pure (within_plain ()))
  | function name parameters body => exact h.defineFunction runs writes name parameters body
  | classDef name body => exact h.defineClass writes name body
  | returns value =>
    cases value with
    | none => exact .throw (within_returns.2 within_none)
    | some e => exact (h.eval runs).bind fun _ _ _ hv => .throw (within_returns.2 hv)
  | attempt body handlers orElse cleanup =>
    exact h.runTry runs writes body handlers orElse cleanup
  | raise exception => exact (h.raisedFault runs exception).bind fun _ _ _ hf => .fail hf
  | select subject cases =>
    exact (h.eval runs).bind fun _ v _ hv => (h.selectCase runs writes hv cases).bind fun _ b _ _ =>
      h.execOptional runs writes b
  | breaks => exact .throw within_breaks
  | continues => exact .throw within_continues
  | pass => exact .pure (within_plain ())

/-- **Running a statement keeps a regime.** -/
theorem execStmt {st : Stmt} (ht : ∀ o ∈ st.form.attributeObjects, Objects o) :
    R.Keeps g w (execStmt ev st s) (execStmt ev' st s) :=
  Keeps.tick.bind fun _ _ _ _ => h.execForm runs writes ht

/-- **Running a script keeps a regime.** -/
theorem execModule (block : Block) {last : Value} (hl : Within (R.named w) last) :
    R.Keeps g w (execModule ev s last block) (execModule ev' s last block) := by
  induction block generalizing w last with
  | nil => exact .pure hl
  | cons st rest ih =>
    obtain ⟨location, form⟩ := st
    cases form with
    | expr e => exact (h.eval runs).bind fun _ _ _ hv => ih hv
    | _ => exact (h.exec runs writes).bind fun _ _ _ _ => ih within_none

end Handlers

end Keeping

end Regime

end MeteredScript
