import MeteredScript.Proofs.Coupling.Bounded
import MeteredScript.Proofs.Dialogue.Talk

/-!
# Two conversations side by side

A coupling of evaluations is one of conversations: two bodies that are told the
same by their callers do the same, and say the same. So what makes no difference
to evaluation makes none to a conversation, such as the gas that was used before
or more room to recurse.
-/

namespace MeteredScript

namespace Coupling

variable {α β : Type} {c : Coupling} {P : α → Prop}

/-- **Two conversations do the same**, from any state they are in. -/
def Talks (c : Coupling) (t t' : Talk α) : Prop := ∀ d, c.Sim (t d) (t' d)

namespace Talks

theorem pure (a : α) : c.Talks (Pure.pure a) (Pure.pure a) := fun _ => Sim.pure _

theorem stop (s : Stop) : c.Talks (Talk.stop s : Talk α) (Talk.stop s) := fun _ => Sim.pure _

theorem endless : c.Talks (Talk.endless : Talk α) Talk.endless := fun _ => Sim.throw _

theorem endless_left (hp : c.patientLeft) {t t' : Talk α} (h : c.Talks t t') :
    c.Talks Talk.endless t' := fun d => SimOf.endless_left hp (h d)

theorem endless_right (hp : c.patientRight) {t t' : Talk α} (h : c.Talks t t') :
    c.Talks t Talk.endless := fun d => SimOf.endless_right hp (h d)

theorem bind {t t' : Talk α} {f f' : α → Talk β} (h : c.Talks t t')
    (hf : ∀ a, c.Talks (f a) (f' a)) : c.Talks (t >>= f) (t' >>= f') := by
  refine fun d => Sim.bind (h d) fun o => ?_
  match o with
  | (.ok a, d) => exact hf a d
  | (.error halt, d) => exact Sim.pure _

/-- What was evaluated has a property. -/
theorem lift_bind [c.United] {x y : Eval α} (h : c.SimOf P x y) {f f' : α → Talk β}
    (hf : ∀ a, P a → c.Talks (f a) (f' a)) :
    c.Talks (Talk.lift x >>= f) (Talk.lift y >>= f') := by
  intro d
  rw [Talk.lift_bind_apply, Talk.lift_bind_apply]
  refine SimOf.bind (SimTo.attempt h).of_united fun r hr => ?_
  match r with
  | .ok a => exact hf a (hr a rfl) d
  | .error s => exact Sim.pure _

theorem lift [c.United] {x y : Eval α} (h : c.Sim x y) : c.Talks (Talk.lift x) (Talk.lift y) := by
  refine fun d => SimOf.bind (SimTo.attempt h).of_united fun r _ => ?_
  cases r with
  | ok a => exact Sim.pure _
  | error s => exact Sim.pure _

theorem ofStop (r : Except Stop α) : c.Talks (Talk.ofStop r) (Talk.ofStop r) := by
  cases r with
  | ok a => exact pure a
  | error s => exact stop s

theorem attempt {t t' : Talk α} (h : c.Talks t t') :
    c.Talks (Talk.attempt t) (Talk.attempt t') := by
  refine fun d => Sim.bind (h d) fun o => ?_
  match o with
  | (.ok a, d) => exact Sim.pure _
  | (.error (.stop s), d) => exact Sim.pure _
  | (.error .waiting, d) => exact Sim.pure _

theorem ask (v : Value) : c.Talks (Talk.ask v) (Talk.ask v) := by
  intro d
  obtain ⟨actions, said⟩ := d
  cases actions with
  | nil => exact Sim.pure _
  | cons action actions => exact Sim.pure _

/-- What an evaluation makes of how the conversations end. -/
theorem through {t t' : Talk α} (h : c.Talks t t') {k k' : Except Halt α → Dialogue → Eval β}
    (hk : ∀ r d, c.Sim (k r d) (k' r d)) (d : Dialogue) :
    c.Sim (t.through k d) (t'.through k' d) :=
  Sim.bind (h d) fun o => hk o.1 o.2

theorem ite {p : Prop} [Decidable p] {t t' u u' : Talk α} (h : c.Talks t t')
    (h' : c.Talks u u') : c.Talks (if p then t else u) (if p then t' else u') := by
  split
  · exact h
  · exact h'

end Talks

namespace Couples

variable [c.United] {ev ev' : Evaluator} (h : c.Couples ev ev') (hn : ∀ names, c.Shows names)

include h hn

omit h hn [c.United] in
theorem handOver (v : Value) : c.Talks (Talk.handOver v) (Talk.handOver v) := by
  refine Talks.bind (Talks.ask v) fun action => ?_
  cases action with
  | send w => exact Talks.pure w
  | throw e => exact Talks.stop _

theorem yielded (scope : ScopeId) (operand : Option Expr) :
    c.Talks (Talk.yielded ev scope operand) (Talk.yielded ev' scope operand) := by
  cases operand with
  | none => exact handOver .none
  | some e => exact Talks.bind (Talks.lift (h.eval (hn _))) handOver

section Parts

variable {exec exec' : Stmt → Talk Unit} (hexec : ∀ s, c.Talks (exec s) (exec' s))

include hexec

omit h hn [c.United] in
theorem talkBlock (block : Block) :
    c.Talks (Talk.execBlock exec block) (Talk.execBlock exec' block) := by
  induction block with
  | nil => exact Talks.pure ()
  | cons s rest ih => exact Talks.bind (hexec s) fun _ => ih

omit h hn [c.United] in
theorem talkOptional (block : Option Block) :
    c.Talks (Talk.execOptional exec block) (Talk.execOptional exec' block) := by
  cases block with
  | none => exact Talks.pure ()
  | some block => exact talkBlock hexec block

omit h hn [c.United] in
theorem talkRound (body : Block) :
    c.Talks (Talk.runRound exec body) (Talk.runRound exec' body) :=
  Talks.bind (Talks.attempt (talkBlock hexec body)) fun r => Talks.ofStop (roundEnd r)

section Loops

variable {scope : ScopeId} {n n' : Nat}

theorem talkWhile_succ {condition : Expr} {body : Block}
    (ih : c.Talks (Talk.runWhile ev exec scope condition body n)
      (Talk.runWhile ev' exec' scope condition body n')) :
    c.Talks (Talk.runWhile ev exec scope condition body (n + 1))
      (Talk.runWhile ev' exec' scope condition body (n' + 1)) := by
  refine Talks.bind (Talks.lift h.tick) fun _ => ?_
  refine Talks.bind (Talks.lift (h.holds (hn _))) fun b => Talks.ite ?_ (Talks.pure true)
  exact Talks.bind (talkRound hexec body) fun again => Talks.ite ih (Talks.pure false)

theorem talkWhile (condition : Expr) (body : Block) (hrounds : c.Rounds n n') :
    c.Talks (Talk.runWhile ev exec scope condition body n)
      (Talk.runWhile ev' exec' scope condition body n') := by
  have hself (n : Nat) : c.Talks (Talk.runWhile ev exec scope condition body n)
      (Talk.runWhile ev' exec' scope condition body n) := by
    induction n with
    | zero => exact Talks.endless
    | succ n ih => exact h.talkWhile_succ hn hexec ih
  induction hrounds with
  | done => exact Talks.endless
  | left n hp => exact Talks.endless_left hp (hself n)
  | right n hp => exact Talks.endless_right hp (hself n)
  | more _ ih => exact h.talkWhile_succ hn hexec ih

theorem talkFor_succ {target : Expr} {body : Block}
    (ih : ∀ cursor, c.Talks (Talk.runFor ev exec scope target body n cursor)
      (Talk.runFor ev' exec' scope target body n' cursor)) (cursor : Cursor) :
    c.Talks (Talk.runFor ev exec scope target body (n + 1) cursor)
      (Talk.runFor ev' exec' scope target body (n' + 1) cursor) := by
  refine Talks.bind (Talks.lift (h.next? cursor)) fun next => ?_
  match next with
  | none => exact Talks.pure true
  | some (item, cursor) =>
    refine Talks.bind (Talks.lift h.tick) fun _ => ?_
    refine Talks.bind (Talks.lift (h.assignTarget target item (hn _))) fun _ => ?_
    exact Talks.bind (talkRound hexec body) fun again => Talks.ite (ih cursor) (Talks.pure false)

theorem talkFor (target : Expr) (body : Block) (hrounds : c.Rounds n n') (cursor : Cursor) :
    c.Talks (Talk.runFor ev exec scope target body n cursor)
      (Talk.runFor ev' exec' scope target body n' cursor) := by
  have hself (n : Nat) (cursor : Cursor) :
      c.Talks (Talk.runFor ev exec scope target body n cursor)
        (Talk.runFor ev' exec' scope target body n cursor) := by
    induction n generalizing cursor with
    | zero => exact Talks.endless
    | succ n ih => exact h.talkFor_succ hn hexec ih cursor
  induction hrounds generalizing cursor with
  | done => exact Talks.endless
  | left n hp => exact Talks.endless_left hp (hself n cursor)
  | right n hp => exact Talks.endless_right hp (hself n cursor)
  | more _ ih => exact h.talkFor_succ hn hexec ih cursor

end Loops

theorem talkHandle (hc : c.Steady) (scope : ScopeId) (handlers : List Handler) (f : Fault) :
    c.Talks (Talk.handleFault ev exec scope handlers f)
      (Talk.handleFault ev' exec' scope handlers f) := by
  refine Talks.bind (Talks.lift (h.findHandler f.exceptionKind (hn _)).sim) fun found => ?_
  match found with
  | none => exact Talks.stop _
  | some handler =>
    refine Talks.bind (Talks.lift (h.bindException (hn _) f)) fun _ => ?_
    refine Talks.bind (Talks.lift (hc.pushHandling f)) fun _ => ?_
    refine Talks.bind (Talks.attempt (talkBlock hexec handler.body)) fun r => ?_
    exact Talks.bind (Talks.lift hc.popHandling) fun _ => Talks.ofStop r

theorem talkGuarded (hc : c.Steady) (scope : ScopeId) (body : Block) (handlers : List Handler)
    (orElse : Option Block) :
    c.Talks (Talk.runGuarded ev exec scope body handlers orElse)
      (Talk.runGuarded ev' exec' scope body handlers orElse) := by
  refine Talks.bind (Talks.attempt (talkBlock hexec body)) fun r => ?_
  match r with
  | .ok () => exact talkOptional hexec orElse
  | .error (.fault f) => exact h.talkHandle hn hexec hc scope handlers f
  | .error (.returns _) | .error .breaks | .error .continues | .error .gasExhausted
  | .error .endless => exact Talks.stop _

theorem talkForm (hc : c.Steady) (scope : ScopeId) (form : StmtForm) :
    c.Talks (Talk.execForm ev exec scope form) (Talk.execForm ev' exec' scope form) := by
  unfold Talk.execForm
  split
  · exact Talks.bind (h.yielded hn scope _) fun _ => Talks.pure ()
  · exact Talks.bind (h.yielded hn scope _) fun v => Talks.lift (h.assignAll v (hn _))
  · refine Talks.bind (Talks.lift (h.holds (hn _))) fun b => ?_
    exact Talks.ite (talkBlock hexec _) (talkOptional hexec _)
  · refine Talks.bind (h.talkWhile hn hexec _ _ h.rounds) fun b => ?_
    exact Talks.ite (talkOptional hexec _) (Talks.pure ())
  · refine Talks.bind (Talks.lift (h.eval (hn _))) fun v => ?_
    refine Talks.bind (Talks.lift (h.startIteration v)) fun cursor => ?_
    refine Talks.bind (h.talkFor hn hexec _ _ h.rounds cursor) fun b => ?_
    exact Talks.ite (talkOptional hexec _) (Talks.pure ())
  · refine Talks.bind (Talks.attempt (h.talkGuarded hn hexec hc scope _ _ _)) fun r => ?_
    exact Talks.bind (talkOptional hexec _) fun _ => Talks.ofStop r
  · refine Talks.bind (Talks.lift (h.eval (hn _))) fun v => ?_
    exact Talks.bind (Talks.lift (h.selectCase v (hn _)).sim) fun body => talkOptional hexec body
  · exact Talks.lift (h.execForm (hn _))

end Parts

end Couples

namespace Complete

variable [c.United] (hc : c.Complete) (hn : ∀ names, c.Shows names) (scope : ScopeId)

include hc hn

theorem talk_self (n : Nat) (s : Stmt) :
    c.Talks (Talk.exec scope n s) (Talk.exec scope n s) := by
  induction n generalizing s with
  | zero => exact Talks.endless
  | succ n ih =>
    refine Talks.bind (Talks.lift (hc.charge 1)) fun _ => ?_
    exact (hc.bounded_self n).talkForm hn ih hc.toSteady scope s.form

/-- **A conversation with more room to recurse** is the same unless it was
endless. -/
theorem talk {n n' : Nat} (hrounds : c.Rounds n n') (s : Stmt) :
    c.Talks (Talk.exec scope n s) (Talk.exec scope n' s) := by
  induction hrounds generalizing s with
  | done => exact Talks.endless
  | left n hp => exact Talks.endless_left hp (hc.talk_self hn scope n s)
  | right n hp => exact Talks.endless_right hp (hc.talk_self hn scope n s)
  | more hrounds ih =>
    refine Talks.bind (Talks.lift (hc.charge 1)) fun _ => ?_
    exact (hc.bounded hrounds).talkForm hn ih hc.toSteady scope s.form

theorem talkBody {n n' : Nat} (hrounds : c.Rounds n n') (body : Block) :
    c.Talks (Talk.runBody scope n body) (Talk.runBody scope n' body) := by
  have hblock := Couples.talkBlock (hc.talk hn scope hrounds) body
  refine Talks.bind (Talks.attempt hblock) fun r => ?_
  match r with
  | .ok () => exact Talks.pure _
  | .error (.returns v) => exact Talks.pure v
  | .error (.fault _) | .error .breaks | .error .continues | .error .gasExhausted
  | .error .endless => exact Talks.stop _

end Complete

end Coupling

end MeteredScript
