import MeteredScript.Host.Session
import MeteredScript.Proofs.Coupling.Expression

/-!
# Two runs of a statement

Loops, handlers and definitions, with `execStmt` on top of them and
`execModule` for a whole script. A statement may bind names in its scope, and a
stop passes through it in both runs or in neither.
-/

namespace MeteredScript

/-- The names that occur in what a handler does with the exception that it
catches. -/
def Handler.names (handler : Handler) : List String :=
  handler.name.toList ++ blockNames handler.body

namespace Evaluator.Idles

variable {ev : Evaluator} (h : ev.Idles)

include h

theorem execBlock (s : ScopeId) (block : Block) :
    ev.execBlock s block = if block.isEmpty then pure () else throw .endless := by
  cases block with
  | nil => rfl
  | cons st rest =>
    rw [Evaluator.execBlock, h]
    rfl

theorem execOptional (s : ScopeId) (block : Option Block) :
    ev.execOptional s block = if (block.getD []).isEmpty then pure () else throw .endless := by
  cases block with
  | none => rfl
  | some block => exact h.execBlock s block

/-- A `try` statement is run only if there is nothing in it. -/
theorem runTry (s : ScopeId) (body : Block) (handlers : List Handler)
    (orElse cleanup : Option Block) :
    runTry ev s body handlers orElse cleanup =
      if body.isEmpty ∧ (orElse.getD []).isEmpty ∧ (cleanup.getD []).isEmpty then pure ()
      else throw .endless := by
  rw [MeteredScript.runTry, runGuarded, h.execBlock, h.execOptional, h.execOptional]
  cases body.isEmpty <;> cases (orElse.getD []).isEmpty <;> cases (cleanup.getD []).isEmpty <;> rfl

end Evaluator.Idles

namespace Coupling

variable {c : Coupling}

namespace Couples

variable {ev ev' : Evaluator} (h : c.Couples ev ev')

include h

/-! ## Loops -/

theorem runRound {s : ScopeId} {body : Block} (hb : c.Shows (blockNames body)) :
    c.Sim (runRound ev s body) (runRound ev' s body) :=
  SimOf.attempt_bindOf (h.execBlock hb) (fun result _ => Sim.ofStop (roundEnd result))
    Unwinds.throw fun _ _ => trivial

section While

variable {s : ScopeId} {condition : Expr} (hcondition : c.Shows condition.names)
  {body : Block} (hb : c.Shows (blockNames body))

include hcondition hb

/-- One round of a `while` loop, given that the rounds after it do the same. -/
theorem runWhile_succ {n n' : Nat}
    (hn : c.Sim (runWhile ev s condition body n) (runWhile ev' s condition body n')) :
    c.Sim (runWhile ev s condition body (n + 1)) (runWhile ev' s condition body (n' + 1)) := by
  refine Sim.bind h.tick fun _ => ?_
  refine Sim.bind (h.holds hcondition) fun b => Sim.ite ?_ (Sim.pure true)
  exact Sim.bind (h.runRound hb) fun again => Sim.ite hn (Sim.pure false)

theorem runWhile_self (n : Nat) :
    c.Sim (runWhile ev s condition body n) (runWhile ev' s condition body n) := by
  induction n with
  | zero => exact Sim.throw .endless
  | succ n ih => exact h.runWhile_succ hcondition hb ih

theorem runWhile {n n' : Nat} (hn : c.Rounds n n') :
    c.Sim (runWhile ev s condition body n) (runWhile ev' s condition body n') := by
  induction hn with
  | done => exact Sim.throw .endless
  | left n hp => exact SimOf.endless_left hp (h.runWhile_self hcondition hb n)
  | right n hp => exact SimOf.endless_right hp (h.runWhile_self hcondition hb n)
  | more _ ih => exact h.runWhile_succ hcondition hb ih

end While

theorem runFor {s : ScopeId} {target : Expr} (ht : c.Shows target.names)
    {body : Block} (hb : c.Shows (blockNames body)) (cursor : Cursor) :
    c.Sim (runFor ev s target body cursor) (runFor ev' s target body cursor) := by
  refine h.iterate (fun _ item => ?_) h.rounds cursor true
  refine Sim.bind h.tick fun _ => Sim.bind (h.assignTarget target item ht) fun _ => ?_
  exact Sim.bind (h.runRound hb) fun again => Sim.ite (Sim.pure _) (Sim.pure _)

/-! ## Exceptions -/

/-- Both runs find the same handler, one that is written there. -/
theorem findHandler {s : ScopeId} (kind : ExceptionKind)
    {handlers : List Handler} (hn : c.Shows (handlersNames handlers)) :
    c.SimOf (fun found => ∀ handler ∈ found, c.Shows handler.names)
      (findHandler ev s kind handlers) (findHandler ev' s kind handlers) := by
  have ht (hl : c.Lenient) (found : Option Handler) : ∀ handler ∈ found, c.Shows handler.names :=
    fun handler _ => hl.shows handler.names
  induction handlers with
  | nil => exact SimOf.pure (by simp) ht
  | cons handler rest ih =>
    obtain ⟨catching, name, body⟩ := handler
    simp only [handlersNames, shows_append] at hn
    obtain ⟨⟨⟨hcatching, hname⟩, hbody⟩, hrest⟩ := hn
    have hfound : ∀ handler ∈ some (Handler.mk catching name body), c.Shows handler.names := by
      rintro _ ⟨⟩
      exact shows_append.2 ⟨hname, hbody⟩
    cases catching with
    | none => exact SimOf.pure hfound ht
    | some e =>
      refine SimOf.bindOf (h.eval hcatching) (fun expected _ => ?_) ht
      refine SimOf.bindOf (Sim.ofTypeFault _) (fun b _ => ?_) ht
      cases b with
      | true => exact SimOf.pure hfound ht
      | false => exact ih hrest

theorem bindException {s : ScopeId} {handler : Handler}
    (hn : c.Shows handler.name.toList) (f : Fault) :
    c.Sim (bindException s handler f) (bindException s handler f) := by
  obtain ⟨catching, name, body⟩ := handler
  cases name with
  | none => exact Sim.pure ()
  | some name =>
    exact Sim.bind (h.newException _) fun e => h.define e (shows_cons.1 hn).1

theorem handleFault {s : ScopeId} {handlers : List Handler}
    (hn : c.Shows (handlersNames handlers)) (f : Fault) :
    c.Sim (handleFault ev s handlers f) (handleFault ev' s handlers f) := by
  refine SimOf.bind (h.findHandler _ hn) fun found hfound => ?_
  cases found with
  | none => exact Sim.fail f
  | some handler =>
    obtain ⟨hname, hbody⟩ := shows_append.1 (hfound handler rfl)
    refine Sim.bind (h.bindException hname f) fun _ => ?_
    exact h.whileHandling f (h.execBlock hbody)

theorem runGuarded {s : ScopeId} {body : Block} (hb : c.Shows (blockNames body))
    {handlers : List Handler} (hh : c.Shows (handlersNames handlers)) {orElse : Option Block}
    (ho : c.Shows (optionalBlockNames orElse)) :
    c.Sim (runGuarded ev s body handlers orElse) (runGuarded ev' s body handlers orElse) := by
  refine SimOf.attempt_bindOf (h.execBlock hb) (fun result _ => ?_) Unwinds.throw
    fun _ _ => trivial
  match result with
  | .ok () => exact h.execOptional ho
  | .error (.fault f) => exact h.handleFault hh f
  | .error (.returns _) | .error .breaks | .error .continues | .error .gasExhausted
  | .error .endless => exact Sim.throw _

omit h in
/-- Where no statement is run without gas, no block is. -/
theorem execBlock_unwinds (hu : ∀ st s, c.Unwinds (fun _ => False) (ev.exec st s)) {s : ScopeId}
    (block : Block) : c.Unwinds (fun _ => True) (ev.execBlock s block) := by
  cases block with
  | nil => exact Unwinds.pure trivial
  | cons st rest => exact Unwinds.bind (hu st s) fun _ => False.elim

omit h in
theorem execOptional_unwinds (hu : ∀ st s, c.Unwinds (fun _ => False) (ev.exec st s))
    {s : ScopeId} (block : Option Block) :
    c.Unwinds (fun _ => True) (ev.execOptional s block) := by
  cases block with
  | none => exact Unwinds.pure trivial
  | some block => exact execBlock_unwinds hu block

/-- **Two runs of a `try` statement do the same.** The `finally` block of a statement that
ran out of gas does nothing. -/
theorem runTry {s : ScopeId} {body : Block} (hb : c.Shows (blockNames body))
    {handlers : List Handler} (hh : c.Shows (handlersNames handlers))
    {orElse cleanup : Option Block} (ho : c.Shows (optionalBlockNames orElse))
    (hc : c.Shows (optionalBlockNames cleanup)) :
    c.Sim (runTry ev s body handlers orElse cleanup)
      (runTry ev' s body handlers orElse cleanup) := by
  rcases h.unwinds with hu | ⟨hev, hev'⟩
  · refine SimOf.attempt_bindOf (h.runGuarded hb hh ho) (fun outcome _ => ?_) ?_
      fun _ _ => trivial
    · exact Sim.bind (h.execOptional hc) fun _ => Sim.ofStop outcome
    · exact Unwinds.bind (execOptional_unwinds hu cleanup) fun _ _ => Unwinds.throw
  · rw [hev.runTry, hev'.runTry]
    exact Sim.ite (Sim.pure ()) (Sim.throw _)

theorem raisedFault {s : ScopeId} {exception : Option Expr}
    (hn : c.Shows (optionalNames exception)) :
    c.Sim (raisedFault ev s exception) (raisedFault ev' s exception) := by
  cases exception with
  | none => exact Sim.bind h.handled? fun f => Sim.pure _
  | some e =>
    refine Sim.bind (h.eval hn) fun v => ?_
    exact Sim.bind (Sim.ofTypeFault _) fun exception => Sim.pure _

/-! ## Definitions -/

theorem defineFunction {s : ScopeId} {name : String}
    (hname : ¬ c.hidden name) {parameters : List Parameter}
    (hp : c.Shows (parametersNames parameters)) {body : Block} (hb : c.Shows (blockNames body)) :
    c.Sim (defineFunction ev s name parameters body)
      (defineFunction ev' s name parameters body) := by
  refine SimOf.bind (h.evalParameters hp) fun ps hps => ?_
  refine Sim.bind (h.newFunction name (shows_append.2 ⟨hps, hb⟩)) fun f => ?_
  exact h.define f hname

theorem defineClass {s : ScopeId} {name : String} (hname : ¬ c.hidden name)
    {body : Block} (hb : c.Shows (blockNames body)) :
    c.Sim (defineClass ev s name body) (defineClass ev' s name body) := by
  refine Sim.bind (h.newScope _ _) fun inner => ?_
  exact Sim.bind (h.execBlock hb) fun _ => h.define _ hname

/-! ## All statements -/

theorem execForm {s : ScopeId} {form : StmtForm} (hn : c.Shows form.names) :
    c.Sim (execForm ev s form) (execForm ev' s form) := by
  match form, hn with
  | .expr value, hn => exact Sim.bind (h.eval hn) fun _ => Sim.pure ()
  | .assign targets value, hn =>
    rw [StmtForm.names, shows_append] at hn
    exact Sim.bind (h.eval hn.2) fun v => h.assignAll v hn.1
  | .augmented target op value, hn =>
    rw [StmtForm.names, shows_append] at hn
    exact h.augmentTarget op hn.1 hn.2
  | .branch condition body orElse, hn =>
    simp only [StmtForm.names, shows_append] at hn
    obtain ⟨⟨hcondition, hbody⟩, horElse⟩ := hn
    refine Sim.bind (h.holds hcondition) fun b => ?_
    exact Sim.ite (h.execBlock hbody) (h.execOptional horElse)
  | .whileLoop condition body orElse, hn =>
    simp only [StmtForm.names, shows_append] at hn
    obtain ⟨⟨hcondition, hbody⟩, horElse⟩ := hn
    refine Sim.bind (h.runWhile hcondition hbody h.rounds) fun finished => ?_
    exact Sim.ite (h.execOptional horElse) (Sim.pure ())
  | .forLoop target iterable body orElse, hn =>
    simp only [StmtForm.names, shows_append] at hn
    obtain ⟨⟨⟨htarget, hiterable⟩, hbody⟩, horElse⟩ := hn
    refine Sim.bind (h.eval hiterable) fun v => Sim.bind (h.startIteration v) fun cursor => ?_
    refine Sim.bind (h.runFor htarget hbody cursor) fun finished => ?_
    exact Sim.ite (h.execOptional horElse) (Sim.pure ())
  | .function name parameters body, hn =>
    simp only [StmtForm.names, List.cons_append, shows_cons, shows_append] at hn
    exact h.defineFunction hn.1 hn.2.1 hn.2.2
  | .classDef name body, hn =>
    rw [StmtForm.names, shows_cons] at hn
    exact h.defineClass hn.1 hn.2
  | .returns none, _ => exact Sim.throw _
  | .returns (some e), hn => exact Sim.bind (h.eval hn) fun v => Sim.throw _
  | .attempt body handlers orElse cleanup, hn =>
    simp only [StmtForm.names, shows_append] at hn
    obtain ⟨⟨⟨hbody, hhandlers⟩, horElse⟩, hcleanup⟩ := hn
    exact h.runTry hbody hhandlers horElse hcleanup
  | .raise exception, hn => exact Sim.bind (h.raisedFault hn) fun f => Sim.fail f
  | .select subject cases, hn =>
    rw [StmtForm.names, shows_append] at hn
    refine Sim.bind (h.eval hn.1) fun v => ?_
    exact SimOf.bind (h.selectCase v hn.2) fun body hbody => h.execOptional hbody
  | .breaks, _ | .continues, _ => exact Sim.throw _
  | .pass, _ => exact Sim.pure ()

/-- **Two runs of a statement do the same.** -/
theorem execStmt {s : ScopeId} {st : Stmt} (hn : c.Shows st.names) :
    c.Sim (execStmt ev st s) (execStmt ev' st s) := by
  obtain ⟨span, form⟩ := st
  exact Sim.bind h.tick fun _ => h.execForm hn

/-- **Two runs of a script do the same.** -/
theorem execModule {s : ScopeId} {body : Block}
    (hn : c.Shows (blockNames body)) (last : Value) :
    c.Sim (execModule ev s last body) (execModule ev' s last body) := by
  induction body generalizing last with
  | nil => exact Sim.pure last
  | cons st rest ih =>
    rw [blockNames, shows_append] at hn
    have hexec : c.Sim
        (do ev.exec st s; MeteredScript.execModule ev s .none rest)
        (do ev'.exec st s; MeteredScript.execModule ev' s .none rest) :=
      Sim.bind (h.exec hn.1) fun _ => ih hn.2 .none
    obtain ⟨span, form⟩ := st
    cases form with
    | expr e => exact Sim.bind (h.eval hn.1) fun v => ih hn.2 v
    | _ => exact hexec

end Couples

end Coupling

end MeteredScript
