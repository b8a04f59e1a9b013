import MeteredScript.Host.Session
import MeteredScript.Proofs.Termination.Expression

/-!
# Statements come to an end

Handlers and definitions, with `execForm` on top of them and `execModule` for a whole
script. A run without end is caught by no handler and no `finally` block.
-/

namespace MeteredScript

open Eval

theorem Eval.Halts.bindException {b : Nat} (s : ScopeId) (handler : Handler) (f : Fault) :
    Halts b (bindException s handler f) (bindException s handler f) := by
  obtain ⟨catching, name, body⟩ := handler
  cases name with
  | none => exact Halts.pure ()
  | some name => exact (Halts.newException _).bind fun e => Halts.define s name e

namespace Terminating

variable {b : Nat} {ev ev' : Evaluator} (h : Terminating b ev ev') (s : ScopeId)

include h

theorem runFor (target : Expr) (body : Block) (cursor : Cursor) :
    Halts b (runFor ev s target body cursor) (runFor ev' s target body cursor) := by
  refine h.iterate (fun _ item => ?_) h.enough h.rounds_le cursor true
  refine (h.assignTarget target item).bind fun _ => (h.runRound s body).bind fun again => ?_
  exact HaltsOf.ite (Halts.pure _) (Halts.pure _)

/-! ## Exceptions -/

theorem findHandler (kind : ExceptionKind) (handlers : List Handler) :
    Halts b (findHandler ev s kind handlers) (findHandler ev' s kind handlers) := by
  induction handlers with
  | nil => exact Halts.pure none
  | cons handler rest ih =>
    obtain ⟨catching, name, body⟩ := handler
    cases catching with
    | none => exact Halts.pure _
    | some e =>
      refine (h.eval e s).bind fun expected => (Halts.ofTypeFault _).bind fun caught => ?_
      exact HaltsOf.ite (Halts.pure _) ih

theorem handleFault (handlers : List Handler) (f : Fault) :
    Halts b (handleFault ev s handlers f) (handleFault ev' s handlers f) := by
  refine (h.findHandler s _ handlers).bind fun found => ?_
  cases found with
  | none => exact Halts.fail f
  | some handler =>
    refine (Halts.bindException s handler f).bind fun _ => ?_
    exact (h.execBlock s handler.body).whileHandling f

theorem runGuarded (body : Block) (handlers : List Handler) (orElse : Option Block) :
    Halts b (runGuarded ev s body handlers orElse) (runGuarded ev' s body handlers orElse) := by
  refine (h.execBlock s body).attempt_bind fun result _ hne => ?_
  match result, hne with
  | .ok (), _ => exact h.execOptional s orElse
  | .error (.fault f), _ => exact h.handleFault s handlers f
  | .error .endless, hne => exact absurd rfl hne
  | .error (.returns _), _ | .error .breaks, _ | .error .continues, _
  | .error .gasExhausted, _ => exact HaltsOf.throw (by simp)

/-- **A `try` statement ends.** -/
theorem runTry (body : Block) (handlers : List Handler) (orElse cleanup : Option Block) :
    Halts b (runTry ev s body handlers orElse cleanup)
      (runTry ev' s body handlers orElse cleanup) := by
  refine (h.runGuarded s body handlers orElse).attempt_bind fun outcome _ hne => ?_
  exact (h.execOptional s cleanup).bind fun _ => Halts.ofStop hne

theorem raisedFault (exception : Option Expr) :
    Halts b (raisedFault ev s exception) (raisedFault ev' s exception) := by
  cases exception with
  | none => exact Halts.handled?.bind fun f => Halts.pure _
  | some e =>
    exact (h.eval e s).bind fun v => (Halts.ofTypeFault _).bind fun exception => Halts.pure _

/-! ## Definitions -/

theorem defineFunction (name : String) (parameters : List Parameter) (body : Block) :
    Halts b (defineFunction ev s name parameters body)
      (defineFunction ev' s name parameters body) := by
  refine (h.evalParameters s parameters).bind fun ps => ?_
  exact (Halts.newFunction name _).bind fun f => Halts.define s name f

theorem defineClass (name : String) (body : Block) :
    Halts b (defineClass ev s name body) (defineClass ev' s name body) := by
  refine (Halts.newScope _ _).bind fun inner => ?_
  exact (h.execBlock inner body).bind fun _ => Halts.define s name _

/-! ## All statements -/

theorem execForm (form : StmtForm) : Halts b (execForm ev s form) (execForm ev' s form) := by
  cases form with
  | expr value => exact (h.eval value s).bind fun _ => Halts.pure ()
  | assign targets value => exact (h.eval value s).bind fun v => h.assignAll s v targets
  | augmented target op value => exact h.augmentTarget s target op value
  | branch condition body orElse =>
    refine (h.holds s condition).bind fun _ => ?_
    exact HaltsOf.ite (h.execBlock s body) (h.execOptional s orElse)
  | whileLoop condition body orElse =>
    refine (h.runWhile s condition body h.enough h.rounds_le).bind fun finished => ?_
    exact HaltsOf.ite (h.execOptional s orElse) (Halts.pure ())
  | forLoop target iterable body orElse =>
    refine (h.eval iterable s).bind fun v => (Halts.startIteration v).bind fun cursor => ?_
    refine (h.runFor s target body cursor).bind fun finished => ?_
    exact HaltsOf.ite (h.execOptional s orElse) (Halts.pure ())
  | function name parameters body => exact h.defineFunction s name parameters body
  | classDef name body => exact h.defineClass s name body
  | returns e =>
    cases e with
    | none => exact HaltsOf.throw (by simp)
    | some e => exact (h.eval e s).bind fun v => HaltsOf.throw (by simp)
  | attempt body handlers orElse cleanup => exact h.runTry s body handlers orElse cleanup
  | raise exception => exact (h.raisedFault s exception).bind fun f => Halts.fail f
  | select subject cases =>
    exact (h.eval subject s).bind fun v => (h.selectCase s v cases).bind fun body =>
      h.execOptional s body
  | breaks | continues => exact HaltsOf.throw (by simp)
  | pass => exact Halts.pure ()

/-- **A script ends.** -/
theorem execModule (last : Value) (body : Block) :
    Halts b (execModule ev s last body) (execModule ev' s last body) := by
  induction body generalizing last with
  | nil => exact Halts.pure last
  | cons st rest ih =>
    have hexec : Halts b
        (do ev.exec st s; MeteredScript.execModule ev s .none rest)
        (do ev'.exec st s; MeteredScript.execModule ev' s .none rest) :=
      (h.exec st s).bind fun _ => ih .none
    obtain ⟨span, form⟩ := st
    cases form with
    | expr e => exact (h.eval e s).bind fun v => ih v
    | _ => exact hexec

end Terminating

end MeteredScript
