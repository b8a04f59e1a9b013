import MeteredScript.Proofs.Metering.Final
import MeteredScript.Proofs.Termination.Drive

/-!
# Every run under a limit terminates

`Machine.bound` says how deep a run may recurse and how often its loops may go round. Here
another evaluator is put below that bound, any one at all (`Evaluator.above`), and nothing
changes. So with a limit to the gas no loop and no recursion goes on for ever: what a run
would do if it got to the bound is never asked.

What is left is the case in which a question about values has no answer, which has to do with
how the values are built and nothing with evaluation.
-/

namespace MeteredScript

open Eval

variable {α : Type}

/-! ## Levels of recursion -/

/-- **The evaluator that recurses a number of levels deep** and then leaves the rest to
another one. -/
def Evaluator.above (base : Evaluator) : (levels : Nat) → Evaluator
  | 0 => base
  | levels + 1 => (base.above levels).deeper

/-- A bounded evaluator with more levels is one of the evaluators above a bound. -/
theorem Evaluator.bounded_above (n k : Nat) : (bounded k).above n = bounded (k + n) := by
  induction n with
  | zero => rfl
  | succ n ih => rw [above, ih, ← Nat.add_assoc, bounded]

/-- **What two evaluators may be asked for** if the first may recurse a number of levels deep.
As in `Coupling.Lasts` a generator takes one of them to be resumed, and perhaps another one if
a value is sent to it. -/
structure TerminatingAbove (n : Nat) (ev ev' : Evaluator) : Prop where
  eval (e : Expr) (s : ScopeId) : Halts (n + 1) (ev.eval e s) (ev'.eval e s)
  exec (st : Stmt) (s : ScopeId) : Halts (n + 1) (ev.exec st s) (ev'.exec st s)
  ask (id : GeneratorId) : Halts n (ev.resume id (.send .none)) (ev'.resume id (.send .none))
  throw (id : GeneratorId) (e : Exception) :
    Halts n (ev.resume id (.throw e)) (ev'.resume id (.throw e))
  send (id : GeneratorId) (v : Value) :
    Halts (n - 1) (ev.resume id (.send v)) (ev'.resume id (.send v))
  enough : n ≤ ev.rounds
  rounds_le : ev.rounds ≤ ev'.rounds

namespace TerminatingAbove

variable {b n : Nat} {ev ev' : Evaluator}

/-- No machine affords a budget for no levels at all. -/
theorem idle (base : Evaluator) : TerminatingAbove 0 .idle base where
  eval _ _ := HaltsOf.endless (by simp)
  exec _ _ := HaltsOf.endless (by simp)
  ask _ := HaltsOf.endless (by simp)
  throw _ _ := HaltsOf.endless (by simp)
  send _ _ := HaltsOf.endless (by simp)
  enough := Nat.le_refl 0
  rounds_le := Nat.zero_le _

variable (h : TerminatingAbove n ev ev')

include h

/-- Code that resumes generators in some way. -/
theorem resuming (hb : b ≤ n + 1) {resume resume' : GeneratorId → Resume → Eval Value}
    (hresume : ∀ id r, Halts b (resume id r) (resume' id r)) :
    Terminating b (ev.resuming resume) (ev'.resuming resume') where
  eval e s := (h.eval e s).within hb
  exec st s := (h.exec st s).within hb
  resume := hresume
  enough := by
    show b ≤ 3 * ev.rounds + 2
    have := h.enough
    omega
  rounds_le := h.rounds_le

/-- Code that resumes generators in any way. -/
theorem terminating : Terminating (n - 1) ev ev' := by
  refine h.resuming (by omega) fun id r => ?_
  match r with
  | .send v => exact h.send id v
  | .throw e => exact (h.throw id e).within (by omega)

/-- **One level more.** -/
theorem deeper : TerminatingAbove (n + 1) ev.deeper ev'.deeper := by
  have hpay {α : Type} {x y : Eval α} (hx : Halts (n - 1) x y) :
      Halts (n + 2) (do Eval.tick; x) (do Eval.tick; y) := HaltsOf.pay (hx.within (by omega))
  have hquiet {id : GeneratorId} {r : Resume}
      (hr : ∀ (ev : Evaluator) targets,
        deliver (ev.resuming fun _ _ => MonadExcept.throw Stop.gasExhausted) id.scope targets r =
          deliver ev id.scope targets r) :
      Halts (n + 1) (resumeGenerator ev id r) (resumeGenerator ev' id r) := by
    refine h.terminating.resumeGenerator (by omega) id fun targets {frames} hf => ?_
    rw [← wake_resuming _ _ _ (hr ev targets), ← wake_resuming _ _ _ (hr ev' targets)]
    exact (h.resuming (Nat.le_refl _) fun _ _ => HaltsOf.throw (by simp)).wake id.scope targets hf r
  -- what resumes a generator with `None` or an exception asks nothing more of an evaluator, and
  -- a value that is sent may be unpacked first, which takes one generator to be asked
  refine ⟨fun e s => hpay (h.terminating.evalForm s e),
    fun st s => hpay (h.terminating.execForm s st.form),
    fun id => hquiet fun ev targets => deliver_none_resuming ev _ _ targets,
    fun id e => hquiet fun _ _ => rfl, fun id v => ?_, Nat.succ_le_succ h.enough,
    Nat.succ_le_succ h.rounds_le⟩
  refine h.terminating.resumeGenerator (by omega) id fun targets {frames} hf => ?_
  rw [← wake_resuming _ _ _ (deliver_asking ev _ targets (.send v)),
    ← wake_resuming _ _ _ (deliver_asking ev' _ targets (.send v))]
  exact (h.resuming (Nat.le_succ n) fun id _ => h.ask id).wake id.scope targets hf (.send v)

end TerminatingAbove

/-- **Three levels for each unit of gas are enough**, whatever is below them. -/
theorem terminatingAbove_bounded (base : Evaluator) (n : Nat) :
    TerminatingAbove n (.bounded n) (base.above n) := by
  induction n with
  | zero => exact .idle base
  | succ n ih => exact ih.deeper

/-! ## Sessions -/

/-- An evaluation that ends within a budget if all operations of its evaluator do. -/
def Terminable (x : Evaluator → Eval α) : Prop :=
  ∀ {b : Nat} {ev ev' : Evaluator}, Terminating b ev ev' → Halts b (x ev) (x ev')

namespace Session

variable {s s' : Session}

/-- **An operation of a host comes to an end.** Given are what it evaluates and its
outcome. If that is to have no end, then this is for a question that has no answer, since it
is so whatever is below the bound. -/
structure HaltsWith (s : Session) (x : Evaluator → Eval α) (o : Except Stop α × Session) :
    Prop where
  /-- It does not get to the bound, wherever that leads and however often loops may go round
  there. -/
  settled (base : Evaluator) : s.perform (x (base.above s.machine.bound)) = o
  /-- If there is no end, some question about the values that are left has no answer. -/
  asked : o.1 = .error .endless → ∃ q, ¬ o.2.machine.heap.Answers q

section Perform

variable {x : Evaluator → Eval α} (hx : Terminable x)

include hx

theorem haltsAt_perform (hs : s.machine.Definite) (base : Evaluator) :
    HaltsAt (s.machine.bound - 1) (fun _ => True) s.machine (outcome (s.perform (.boundedly x)))
      (outcome (s.perform (x (base.above s.machine.bound)))) := by
  rw [perform_eq, perform_eq, on_boundedly]
  exact hx (terminatingAbove_bounded base s.machine.bound).terminating s.machine hs

/-- **An operation under a limit comes to an end.** -/
theorem haltsWith_perform (hs : s.machine.Definite)
    (hlimit : s.machine.config.gasLimit < gasCeiling) :
    s.HaltsWith x (s.perform (.boundedly x)) := by
  have hbudget : s.machine.Affords (s.machine.bound - 1) := by
    refine ⟨hlimit, ?_⟩
    unfold Machine.bound
    omega
  refine ⟨fun base => ?_, fun hend => (haltsAt_perform hx hs .idle).asked hbudget hend⟩
  have hsame := (haltsAt_perform hx hs base).same hbudget
  simp only [outcome, Prod.mk.injEq] at hsame
  exact Prod.ext hsame.1 (congrArg (Session.mk · s.globals) hsame.2)

theorem definite_perform (hs : s.machine.Definite) :
    (s.perform (.boundedly x)).2.machine.Definite :=
  (haltsAt_perform hx hs .idle).definite

end Perform

theorem terminable_execModule (scope : ScopeId) (body : Block) :
    Terminable (fun ev => execModule ev scope .none body) :=
  fun h => h.execModule scope .none body

theorem terminable_callValue (callee : Value) (arguments : List Value) :
    Terminable (fun ev => callValue ev callee arguments) :=
  fun h => h.callValue callee arguments

theorem terminable_resume (id : GeneratorId) (r : Resume) : Terminable (fun ev => ev.resume id r) :=
  fun h => h.resume id r

theorem terminable_close (id : GeneratorId) : Terminable (fun ev => closeGenerator ev id) :=
  fun h => h.closeGenerator id

/-! ### Sessions that a host can get to -/

/-- **Operations of a host keep the frames of generators definite.** -/
theorem Step.definite (h : s.Step s') (hs : s.machine.Definite) : s'.machine.Definite := by
  cases h with
  | run body _ => exact definite_perform (terminable_execModule s.globals body) hs
  | call name arguments _ =>
    unfold Session.call
    cases s.machine.scopes.findLocal? s.globals name with
    | none => exact hs
    | some callee => exact definite_perform (terminable_callValue callee arguments) hs
  | send id value _ => exact definite_perform (terminable_resume id (.send value)) hs
  | throw id e _ => exact definite_perform (terminable_resume id (.throw e)) hs
  | close id _ => exact definite_perform (terminable_close id) hs
  | define name value => exact hs.define s.globals name value
  | clearOutput => exact hs

theorem definite_start (config : Config) : (start config).machine.Definite := by
  have hinitial : (Machine.initial config).Definite := by
    rintro ⟨i⟩ state hid
    cases hid
  exact hinitial.addScope .module none nofun

theorem Leads.definite (h : s.Leads s') (hs : s.machine.Definite) : s'.machine.Definite := by
  induction h with
  | refl => exact hs
  | step _ hstep ih => exact hstep.definite ih
  | evaluate body _ _ ih => exact definite_perform (terminable_execModule _ body) ih

theorem Reachable.definite (h : s.Reachable) : s.machine.Definite := by
  obtain ⟨config, hleads⟩ := h
  exact hleads.definite (definite_start config)

/-- **All operations of a host on a session come to an end.** -/
structure Terminates (s : Session) : Prop where
  run (body : Block) : s.HaltsWith (fun ev => execModule ev s.globals .none body) (s.run body)
  call (name : String) (arguments : List Value) {callee : Value} :
    s.global? name = some callee →
    s.HaltsWith (fun ev => callValue ev callee arguments) (s.call name arguments)
  /-- A call of a name that is not bound does nothing. -/
  unbound (name : String) (arguments : List Value) : s.global? name = none →
    s.call name arguments = (.error (.fault (.unresolvedName name)), s)
  advance (id : GeneratorId) : s.HaltsWith (fun ev => ev.resume id (.send .none)) (s.advance id)
  send (id : GeneratorId) (v : Value) :
    s.HaltsWith (fun ev => ev.resume id (.send v)) (s.send id v)
  throw (id : GeneratorId) (e : Exception) :
    s.HaltsWith (fun ev => ev.resume id (.throw e)) (s.throw id e)
  close (id : GeneratorId) : s.HaltsWith (fun ev => closeGenerator ev id) (s.close id)

end Session

/-- **Every run under a limit to its gas terminates**, in every session that a host can
get to. -/
theorem limited_runs_terminate {s : Session} (hs : s.Reachable)
    (hlimit : s.machine.config.gasLimit < gasCeiling) : s.Terminates := by
  have hm := hs.definite
  exact {
    run := fun body => Session.haltsWith_perform (Session.terminable_execModule _ body) hm hlimit
    call := fun name arguments callee hcallee => by
      rw [Session.call_of_some hcallee]
      exact Session.haltsWith_perform (Session.terminable_callValue callee arguments) hm hlimit
    unbound := fun _ arguments hnone => Session.call_of_none hnone arguments
    advance := fun id => Session.haltsWith_perform (Session.terminable_resume id _) hm hlimit
    send := fun id v => Session.haltsWith_perform (Session.terminable_resume id _) hm hlimit
    throw := fun id e => Session.haltsWith_perform (Session.terminable_resume id _) hm hlimit
    close := fun id => Session.haltsWith_perform (Session.terminable_close id) hm hlimit }

/-- A loop that goes on for ever around a generator that does so too and has a `finally` block
in which it calls itself. -/
def restless : Block :=
  let restart : Stmt := StmtForm.synthetic (.expr (.call (.name "list") [.call (.name "again") []]))
  let again : Stmt := StmtForm.synthetic (.function "again" [] [StmtForm.synthetic (.attempt
    [StmtForm.synthetic (.whileLoop (.bool true)
      [StmtForm.synthetic (.expr (.yield (some (.int 1))))] none)]
    [] none (some [restart]))])
  [again, StmtForm.synthetic (.whileLoop (.bool true)
    [StmtForm.synthetic (.forLoop (.name "item") (.call (.name "again") [])
      [StmtForm.synthetic .pass] none)] none)]

/-- Whether something stopped for the lack of gas. -/
def stopsForGas : Except Stop Value → Bool
  | .error .gasExhausted => true
  | _ => false

theorem eq_of_stopsForGas {r : Except Stop Value} (stops : stopsForGas r = true) :
    r = .error .gasExhausted := by
  cases r with
  | ok => cases stops
  | error s =>
    cases s with
    | gasExhausted => rfl
    | fault | returns | breaks | continues | endless => cases stops

/-- With fourteen units of gas it ends for the lack of gas, whatever is below the bound. -/
theorem restless_terminates :
    let s := Session.start ⟨14, 5⟩
    s.Reachable ∧ s.machine.config.gasLimit < gasCeiling ∧ ∀ base : Evaluator,
      (s.perform (execModule (base.above s.machine.bound) s.globals .none restless)).1 =
        .error .gasExhausted := by
  have hs : (Session.start ⟨14, 5⟩).Reachable := ⟨_, .refl⟩
  have hlimit : (Session.start ⟨14, 5⟩).machine.config.gasLimit < gasCeiling := by decide
  have hends := (limited_runs_terminate hs hlimit).run restless
  have hgas : stopsForGas ((Session.start ⟨14, 5⟩).run restless).1 = true := by decide +kernel
  refine ⟨hs, hlimit, fun base => ?_⟩
  rw [hends.settled base]
  exact eq_of_stopsForGas hgas

end MeteredScript
