import MeteredScript.Proofs.Coupling.Gas
import MeteredScript.Proofs.Lifecycle.Run
import MeteredScript.Proofs.Metering.Budget
import MeteredScript.Proofs.Metering.Halting

/-!
# Running out of gas is final

What a host asks for ends in one of two ways. Either every charge was paid, and then the
limit was not noticed: without one the same would have happened. Or a charge failed, and
then the operation ends with just that, whatever was open around the charge. From
the charge on nothing happens any more but that the generators whose bodies were being run
complete.

Gas is not given back, so in the same session no charge is ever paid again.
-/

namespace MeteredScript

open Coupling

variable {α : Type}

/-- The machine without a limit to the gas that may be used. -/
def Machine.unlimited (m : Machine) : Machine :=
  m.withLimit (max m.config.gasLimit Eval.gasCeiling)

/-- **Every charge was paid** in an evaluation that started on a machine and ended with an
outcome, given the outcome where there is no limit, and that of the halted run. -/
structure Paid (m : Machine) (o unlimited halted : Except Stop α × Machine) : Prop where
  /-- Where no charge can fail the outcome is the same. -/
  unlimited : unlimited = (o.1, o.2.unlimited)
  /-- The halted run was not halted. -/
  halted : o.1 ≠ .error .endless → halted = o
  /-- There was gas enough, unless there was none to begin with. -/
  unspent : ¬ m.Spent → ¬ o.2.Spent

/-- **A charge failed** in an evaluation that ended with an outcome, given the outcome of the
halted run. -/
structure Refused (o halted : Except Stop α × Machine) : Prop where
  /-- The outcome is just that. -/
  result : o.1 = .error .gasExhausted
  /-- The halted run stopped at the charge. -/
  halts : halted.1 = .error .endless
  spent : halted.2.Spent
  /-- From then on nothing was printed, no container was changed and no name was bound. -/
  still : halted.2.WindsDown o.2
  /-- The generators that were running have completed. -/
  completed (id : ScopeId) : halted.2.scopes.generator? id = some .running →
    o.2.scopes.generator? id = some .outOfGas

/-- An evaluation that does the same with evaluators that do the same. -/
def Recurses (x : Evaluator → Eval α) : Prop :=
  ∀ {c : Coupling} {ev ev' : Evaluator}, c.Couples ev ev' → (∀ names, c.Shows names) →
    c.Sim (x ev) (x ev')

namespace Recurses

variable {x : Evaluator → Eval α} (hx : Recurses x)

include hx

/-- Gas is not given back. -/
theorem burns (n : Nat) (m : Machine) : m.Burns ((x (.bounded n)).on m).2 := by
  have hc : (upToGas False False).Complete := upToGas_complete
  exact (hx (hc.bounded (.refl n)) upToGas_shows).left upToGas_lenient m

/-- **Without gas there is an end**: a run that may recurse often enough for the gas that is
left either runs out of it and ends with that, or does not notice the limit. -/
theorem unlimited_or_gasExhausted (m : Machine) {n : Nat} (hn : m.bound ≤ n) :
    let o := (x (.bounded n)).on m
    o.1 = .error .gasExhausted ∧ o.2.Spent ∨
      (x (.bounded n)).on m.unlimited = (o.1, o.2.unlimited) ∧ (¬ m.Spent → ¬ o.2.Spent) := by
  have hconfig := (hx.burns n m).1
  by_cases hm : m.config.gasLimit < Eval.gasCeiling
  · have hbudget : m.Affords (n - 1) := by
      refine ⟨hm, ?_⟩
      unfold Machine.bound at hn
      omega
    have hR : Machine.UpToLimit (max m.config.gasLimit Eval.gasCeiling) (some (n - 1)) m m
        m.unlimited := .refl (Nat.le_max_left _ _) (by rintro b ⟨⟩; exact hbudget)
    have hsim := hx (lasts (Nat.le_max_right m.config.gasLimit Eval.gasCeiling) n).couples
      upToLimit_shows
    have hagree := hsim.agree hR
    generalize (x (.bounded n)).on m = o at hconfig hagree ⊢
    generalize (x (.bounded n)).on m.unlimited = o' at hagree ⊢
    have hsame {r : Except Stop α} {k k' : Machine} (hk : k.config = m.config)
        (h : Machine.UpToLimit (max m.config.gasLimit Eval.gasCeiling) (some (n - 1)) m k k') :
        (r, k') = (r, k.unlimited) ∧ (¬ m.Spent → ¬ k.Spent) := by
      refine ⟨?_, h.unspent⟩
      rw [Machine.unlimited, hk, ← h.eq]
    cases hagree with
    | ok _ h | stop _ h | endless h => exact .inr (hsame hconfig h)
    | endlessLeft hp => cases hp
    | endlessRight hp | excused hp => exact hp.elim
    | parted ho hp => exact .inl ⟨ho.eq, hp.1⟩
  · -- no charge can fail on the machine itself
    have hsame {k : Machine} (hk : k.config = m.config) : k.unlimited = k := by
      rw [Machine.unlimited, hk, Nat.max_eq_left (by omega), ← hk]
      rfl
    have hspent : ¬ ((x (.bounded n)).on m).2.Spent := by
      unfold Machine.Spent
      rw [hconfig]
      omega
    refine .inr ⟨?_, fun _ => hspent⟩
    rw [hsame rfl, hsame hconfig]

/-- **Where the halted run stops**: nowhere, or at a machine that winds down. -/
theorem halted_or_windsDown (n : Nat) (m : Machine)
    (hne : ((x (.bounded n)).on m).1 ≠ .error .endless) :
    let o := (x (.bounded n)).on m
    let halted := (Eval.halt (x (.halting n))).on m
    halted = o ∧ ¬ (o.1 = .error .gasExhausted ∧ o.2.Spent) ∨
      o.1 = .error .gasExhausted ∧ halted.1 = .error .endless ∧ halted.2.Spent ∧
        halted.2.WindsDown o.2 := by
  have hsim := untilHalted_sees (hx (untilHalted_halting n) untilHalted_shows)
  have hagree := hsim.agree (w := ()) (m := m) rfl
  have hhalt : ∀ k, (Eval.halt (x (.halting n))).on m = (.error .gasExhausted, k) → ¬ k.Spent := by
    intro k hk hspent
    by_cases hend : ((x (.halting n)).on m).1 = .error .gasExhausted ∧
        ((x (.halting n)).on m).2.Spent
    · rw [Eval.on_halt_of_spent (Prod.ext hend.1 rfl) hend.2] at hk
      cases hk
    · rw [Eval.on_halt_of_ne hend] at hk
      rw [hk] at hend
      exact hend ⟨rfl, hspent⟩
  dsimp only
  generalize (x (.bounded n)).on m = o at hne hagree ⊢
  generalize (Eval.halt (x (.halting n))).on m = o' at hagree hhalt ⊢
  cases hagree with
  | ok _ h =>
    obtain rfl := h
    exact .inl ⟨rfl, fun h => by cases h.1⟩
  | stop _ h =>
    obtain rfl := h
    refine .inl ⟨rfl, fun h => hhalt _ (Prod.ext h.1 rfl) h.2⟩
  | endless | endlessLeft => exact absurd rfl hne
  | endlessRight hp | excused hp => exact hp.elim
  | parted ho hp =>
    refine .inr ⟨ho.eq, ?_, hp.2.2.1, hp.2.2.2⟩
    have hhalted := hp.1
    obtain ⟨r', k'⟩ := o'
    match r', hhalted with
    | .error .endless, _ => rfl

/-- **Every charge is paid, or the lack of gas is what an evaluation ends with**, if no
generator is running to begin with. -/
theorem paid_or_refused {m : Machine} (hm : m.runs [] = true) {n : Nat} (hn : m.bound ≤ n) :
    Paid m ((x (.bounded n)).on m) ((x (.bounded n)).on m.unlimited)
        ((Eval.halt (x (.halting n))).on m) ∨
      Refused ((x (.bounded n)).on m) ((Eval.halt (x (.halting n))).on m) := by
  have hrefused (hhalted : ((x (.bounded n)).on m).1 = .error .gasExhausted ∧
        ((Eval.halt (x (.halting n))).on m).1 = .error .endless ∧
        ((Eval.halt (x (.halting n))).on m).2.Spent ∧
        ((Eval.halt (x (.halting n))).on m).2.WindsDown ((x (.bounded n)).on m).2) :
      Refused ((x (.bounded n)).on m) ((Eval.halt (x (.halting n))).on m) := by
    obtain ⟨hr, hhalts, hspent, hstill⟩ := hhalted
    refine ⟨hr, hhalts, hspent, hstill, fun id hid => ?_⟩
    -- no generator is running in the end, so the ones that were have completed
    have htracked := tracked_of_sim hm
      (hx (tracked_tracking (fun _ => MonadExcept.throw Stop.endless) n []) keeping_shows)
      (by rw [hr]; simp)
    refine (hstill.scopes.generator?_eq id).resolve_left fun hsame => ?_
    rw [hid] at hsame
    exact List.not_mem_nil ((htracked.2.running ⟨id⟩).1 hsame)
  rcases hx.unlimited_or_gasExhausted m hn with ⟨hr, hspent⟩ | ⟨hunlimited, hunspent⟩
  · refine .inr (hrefused ?_)
    exact (hx.halted_or_windsDown n m (by rw [hr]; simp)).resolve_left fun h => h.2 ⟨hr, hspent⟩
  · by_cases hne : ((x (.bounded n)).on m).1 = .error .endless
    · exact .inl ⟨hunlimited, fun h => absurd hne h, hunspent⟩
    · rcases hx.halted_or_windsDown n m hne with ⟨hsame, -⟩ | hhalted
      · exact .inl ⟨hunlimited, fun _ => hsame, hunspent⟩
      · exact .inr (hrefused hhalted)

end Recurses

/-! ## Sessions -/

namespace Session

variable {s s' : Session}

/-- **Every charge is paid in an operation of a host, or the lack of gas is what it ends
with.** Given are what it evaluates and how it ends. -/
def PaidOrRefused (s : Session) (x : Evaluator → Eval α) (o : Except Stop α × Session) : Prop :=
  let halted := (Eval.halt (x (.halting s.machine.bound))).on s.machine
  Paid s.machine (outcome o) ((x (.bounded s.machine.bound)).on s.machine.unlimited) halted ∨
    Refused (outcome o) halted

theorem paidOrRefused_perform (hs : s.machine.runs [] = true) {x : Evaluator → Eval α}
    (hx : Recurses x) : s.PaidOrRefused x (s.perform (.boundedly x)) := by
  unfold PaidOrRefused
  rw [perform_eq, Eval.on_boundedly]
  exact hx.paid_or_refused hs (Nat.le_refl _)

theorem burns_perform {x : Evaluator → Eval α} (hx : Recurses x) :
    s.machine.Burns (s.perform (.boundedly x)).2.machine := by
  rw [perform_eq, Eval.on_boundedly]
  exact hx.burns _ _

theorem recurses_execModule (s : ScopeId) (body : Block) :
    Recurses (fun ev => execModule ev s .none body) :=
  fun h hn => h.execModule (hn _) _

theorem recurses_callValue (callee : Value) (arguments : List Value) :
    Recurses (fun ev => callValue ev callee arguments) :=
  fun h _ => h.callValue callee arguments

theorem recurses_resume (id : GeneratorId) (r : Resume) : Recurses (fun ev => ev.resume id r) :=
  fun h _ => h.resume id r

theorem recurses_close (id : GeneratorId) : Recurses (fun ev => closeGenerator ev id) :=
  fun h _ => h.close id

/-- **No operation of a host gives gas back.** -/
theorem Step.burns (h : s.Step s') : s.machine.Burns s'.machine := by
  cases h with
  | run body _ => exact burns_perform (recurses_execModule s.globals body)
  | call name arguments _ =>
    unfold Session.call
    cases s.machine.scopes.findLocal? s.globals name with
    | none => exact .refl _
    | some callee => exact burns_perform (recurses_callValue callee arguments)
  | send id value _ => exact burns_perform (recurses_resume id (.send value))
  | throw id e _ => exact burns_perform (recurses_resume id (.throw e))
  | close id _ => exact burns_perform (recurses_close id)
  | define _ _ => exact .of_eq rfl rfl
  | clearOutput => exact .of_eq rfl rfl

/-- **Running out of gas is final** in a session. -/
structure GasIsFinal (s : Session) : Prop where
  run (body : Block) : s.PaidOrRefused (fun ev => execModule ev s.globals .none body) (s.run body)
  call (name : String) (arguments : List Value) {callee : Value} :
    s.global? name = some callee →
    s.PaidOrRefused (fun ev => callValue ev callee arguments) (s.call name arguments)
  /-- A call of a name that is not bound does nothing. -/
  unbound (name : String) (arguments : List Value) : s.global? name = none →
    s.call name arguments = (.error (.fault (.unresolvedName name)), s)
  advance (id : GeneratorId) : s.PaidOrRefused (fun ev => ev.resume id (.send .none)) (s.advance id)
  send (id : GeneratorId) (v : Value) :
    s.PaidOrRefused (fun ev => ev.resume id (.send v)) (s.send id v)
  throw (id : GeneratorId) (e : Exception) :
    s.PaidOrRefused (fun ev => ev.resume id (.throw e)) (s.throw id e)
  close (id : GeneratorId) : s.PaidOrRefused (fun ev => closeGenerator ev id) (s.close id)
  /-- Once a charge failed each later one does, whatever is evaluated and however many
  operations are in between. -/
  later {s' : Session} {α : Type} {x : Evaluator → Eval α} (amount bound : Nat) : s.machine.Spent →
    Relation.ReflTransGen Step s s' → Recurses x →
    ((Eval.charge amount).on ((x (.bounded bound)).on s'.machine).2).1 = .error .gasExhausted

end Session

/-- **Running out of gas is final and cannot be caught**, in every session that a host can
get to. -/
theorem gas_exhaustion_is_final {s : Session} (hs : s.Reachable) : s.GasIsFinal := by
  obtain ⟨config, hleads⟩ := hs
  have hm : s.machine.runs [] = true :=
    Machine.runs_iff.2 (hleads.tracked (Session.runs_start config)).running
  exact
    { run := fun body => Session.paidOrRefused_perform hm (Session.recurses_execModule _ body)
      call := fun name arguments callee hcallee => by
        rw [Session.call_of_some hcallee]
        exact Session.paidOrRefused_perform hm (Session.recurses_callValue callee arguments)
      unbound := fun _ arguments hnone => Session.call_of_none hnone arguments
      advance := fun id => Session.paidOrRefused_perform hm (Session.recurses_resume id _)
      send := fun id v => Session.paidOrRefused_perform hm (Session.recurses_resume id _)
      throw := fun id e => Session.paidOrRefused_perform hm (Session.recurses_resume id _)
      close := fun id => Session.paidOrRefused_perform hm (Session.recurses_close id)
      later := fun {s' _ x} amount bound hspent hsteps hx => by
        have hburns : s.machine.Burns s'.machine := by
          induction hsteps with
          | refl => exact .refl _
          | tail _ hstep ih => exact ih.trans hstep.burns
        rw [(hspent.mono (hburns.trans (hx.burns bound s'.machine))).on_charge] }

/-- Draws from a generator that goes on for ever and has a `finally` block, in the body of a
`try` statement that catches everything and has one too. -/
def stubborn : Block :=
  let print (line : String) : Stmt :=
    StmtForm.synthetic (.expr (.call (.name "print") [.str line]))
  let ticks : Stmt := StmtForm.synthetic (.function "ticks" [] [StmtForm.synthetic (.attempt
    [StmtForm.synthetic (.whileLoop (.bool true)
      [StmtForm.synthetic (.expr (.yield (some (.int 1))))] none)]
    [] none (some [print "closed"]))])
  [ticks, StmtForm.synthetic (.attempt
    [StmtForm.synthetic (.forLoop (.name "tick") (.call (.name "ticks") [])
      [StmtForm.synthetic .pass] none)]
    [⟨none, none, [print "caught"]⟩] none (some [print "done"]))]

/-- With fourteen units of gas nothing is printed at all, and the generator has completed. -/
theorem gas_exhaustion_ends_stubborn :
    let s := Session.start ⟨14, 5⟩
    s.Reachable ∧ (s.run stubborn).1 = .error .gasExhausted ∧
      (s.run stubborn).2.machine.transcript.lines = #[] ∧
      (s.run stubborn).2.machine.scopes.generator? ⟨1⟩ = some .outOfGas := by
  have hs : (Session.start ⟨14, 5⟩).Reachable := ⟨_, .refl⟩
  have hspent : ((Session.start ⟨14, 5⟩).run stubborn).2.machine.Spent := by decide +kernel
  have hunspent : ¬ (Session.start ⟨14, 5⟩).machine.Spent := by decide
  have hrefused := ((gas_exhaustion_is_final hs).run stubborn).resolve_left
    fun hpaid => hpaid.unspent hunspent hspent
  refine ⟨hs, hrefused.result, ?_, hrefused.completed ⟨1⟩ rfl⟩
  have hstill := hrefused.still.transcript
  exact (congrArg Transcript.lines hstill).trans rfl

end MeteredScript
