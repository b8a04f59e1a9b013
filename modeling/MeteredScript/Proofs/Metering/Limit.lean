import Mathlib
import MeteredScript.Proofs.Coupling.Bracket
import MeteredScript.Proofs.Task

/-!
# The gas limit only cuts a run short

Two runs that start on the same machine, but for the gas that may be used, do the
same up to the charge that fails in one of them. After it they have parted. The run
that ran out of gas prints nothing any more, and what was printed stays printed in
the other one. So the lines of the first are the first lines of the second.

Nothing is said about a run without end.
-/

namespace MeteredScript

/-- The machine with another gas limit. -/
def Machine.withLimit (m : Machine) (limit : Nat) : Machine :=
  { m with config := { m.config with gasLimit := limit } }

/-- Nothing that was printed is taken back. -/
def Machine.Prints (m n : Machine) : Prop := m.transcript.lines.toList <+: n.transcript.lines.toList

theorem Machine.Prints.of_eq {m n : Machine} (h : n.transcript = m.transcript) : m.Prints n := by
  unfold Prints
  exact h ▸ List.prefix_rfl

/-- **So much gas is left at most** that a budget has three units for each charge that
can be made, the one that fails included. -/
def Machine.Affords (budget : Nat) (m : Machine) : Prop :=
  m.config.gasLimit < Eval.gasCeiling ∧ 3 * (m.config.gasLimit - m.gas) + 3 ≤ budget

/-- **Machines that differ only in the gas that may be used**, of which there is no
less on the right, and to which another machine led. Perhaps there is a budget for that
machine. -/
structure Machine.UpToLimit (limit : Nat) (budget : Option Nat) (w m m' : Machine) : Prop where
  eq : m' = m.withLimit limit
  le : m.config.gasLimit ≤ limit
  burns : w.Burns m
  unspent : ¬ w.Spent → ¬ m.Spent
  affords : ∀ b ∈ budget, w.Affords b

namespace Machine.UpToLimit

variable {limit : Nat} {budget : Option Nat} {w m m' n : Machine}

theorem refl (hle : m.config.gasLimit ≤ limit) (hb : ∀ b ∈ budget, m.Affords b) :
    UpToLimit limit budget m m (m.withLimit limit) :=
  ⟨rfl, hle, .refl m, id, hb⟩

/-- The gas is all that matters. -/
theorem of_eq (h : UpToLimit limit budget w m m') (hc : n.config = m.config)
    (hg : n.gas = m.gas) : UpToLimit limit budget w n (n.withLimit limit) := by
  refine ⟨rfl, hc ▸ h.le, h.burns.trans (.of_eq hc hg), fun hw => ?_, h.affords⟩
  have hm := h.unspent hw
  unfold Spent at hm ⊢
  rwa [hc, hg]

end Machine.UpToLimit

namespace Coupling

variable {α : Type} {limit : Nat} {budget : Option Nat} {P : α → Prop}

/-- **Two runs with different gas limits**, the lower one on the left. Nothing is said
about a left run without end if there is no budget. -/
def upToLimit (limit : Nat) (budget : Option Nat) : Coupling where
  World := Machine
  Related := Machine.UpToLimit limit budget
  Left _ _ := True
  Right := Machine.Prints
  Excused _ _ := False
  patientLeft := budget.isNone = true
  patientRight := False
  hidden _ := False
  Parted _ m m' := m.Spent ∧ m.Prints m'
  Endless := Machine.UpToLimit limit budget
  left_refl _ := trivial
  left_trans _ _ := trivial
  right_refl _ := List.prefix_rfl
  right_trans := List.IsPrefix.trans
  excused_mono h _ _ := h
  shown_of_excused h _ _ := h
  spent_of_parted h := h.1
  parted_windsDown h hdown := by
    refine ⟨h.1.mono hdown.burns, ?_⟩
    rw [Machine.Prints, hdown.transcript]
    exact h.2
  parted_right h hright := ⟨h.1, h.2.trans hright⟩
  shown_of_parted _ _ := not_false
  endless_of_related h := h

theorem upToLimit_shows (names : List String) : (upToLimit limit budget).Shows names := by
  simp [Shows, upToLimit]

/-- An evaluation that does not use gas does the same whatever the limit is. -/
theorem upToLimit_blind {x : Eval α} (hP : ∀ a, P a)
    (hx : ∀ (m : Machine) limit,
      x.on (m.withLimit limit) = ((x.on m).1, (x.on m).2.withLimit limit))
    (hmeter : ∀ m : Machine, (x.on m).2.config = m.config ∧ (x.on m).2.gas = m.gas)
    (hprints : ∀ m : Machine, m.Prints (x.on m).2) : (upToLimit limit budget).SimOf P x x where
  total _ := hP
  left _ _ := trivial
  right _ := hprints
  agree {w m m'} h := by
    have hn := h.of_eq (hmeter m).1 (hmeter m).2
    obtain rfl := h.eq
    rw [hx m limit]
    generalize x.on m = o at hn ⊢
    obtain ⟨r, n⟩ := o
    cases r with
    | ok a => exact .ok (hP a) hn
    | error s =>
      by_cases hs : s = .endless
      · subst hs
        exact .endless hn
      · exact .stop hs hn

/-- One that prints nothing, in particular. -/
theorem upToLimit_quiet {x : Eval α} (hP : ∀ a, P a)
    (hx : ∀ (m : Machine) limit,
      x.on (m.withLimit limit) = ((x.on m).1, (x.on m).2.withLimit limit))
    (hmeter : ∀ m : Machine, (x.on m).2.config = m.config ∧ (x.on m).2.gas = m.gas)
    (hprints : ∀ m : Machine, (x.on m).2.transcript = m.transcript) :
    (upToLimit limit budget).SimOf P x x :=
  upToLimit_blind hP hx hmeter fun m => .of_eq (hprints m)

theorem upToLimit_modify {f : Machine → Machine}
    (hf : ∀ (m : Machine) limit, f (m.withLimit limit) = (f m).withLimit limit)
    (hmeter : ∀ m : Machine, (f m).config = m.config ∧ (f m).gas = m.gas)
    (hprints : ∀ m : Machine, (f m).transcript = m.transcript) :
    (upToLimit limit budget).Sim (modify f : Eval Unit) (modify f) :=
  upToLimit_quiet (fun _ => trivial)
    (fun m limit => by rw [Eval.on_modify, Eval.on_modify, hf]) hmeter hprints

theorem prints_charge (amount : Nat) (m : Machine) : m.Prints ((Eval.charge amount).on m).2 := by
  rw [Eval.on_charge]
  exact .of_eq rfl

/-- **Two runs part at a charge** that only the right one can pay. -/
theorem upToLimit_charge (amount : Nat) :
    (upToLimit limit budget).Sim (Eval.charge amount) (Eval.charge amount) := by
  refine ⟨fun _ _ => trivial, fun _ _ => trivial, fun _ => prints_charge amount,
    fun {w m m'} h => ?_⟩
  have hburns := h.burns.trans (m.burns_charge amount)
  have hle := h.le
  obtain rfl := h.eq
  rw [Eval.on_charge] at hburns
  rw [Eval.on_charge, Eval.on_charge]
  by_cases hpay : m.config.gasLimit < min (m.gas + amount) Eval.gasCeiling
  · rw [if_pos hpay]
    refine .parted rfl ⟨?_, .of_eq rfl⟩
    unfold Machine.Spent
    dsimp only
    omega
  · have hpay' : ¬ (m.withLimit limit).config.gasLimit <
        min ((m.withLimit limit).gas + amount) Eval.gasCeiling := by
      show ¬ limit < min (m.gas + amount) Eval.gasCeiling
      omega
    rw [if_neg hpay, if_neg hpay']
    refine .ok trivial ⟨rfl, hle, hburns, fun _ => ?_, h.affords⟩
    unfold Machine.Spent
    dsimp only
    omega

theorem upToLimit_newScope (kind : ScopeKind) (parent : Option ScopeId) :
    (upToLimit limit budget).Sim (Eval.newScope kind parent) (Eval.newScope kind parent) :=
  upToLimit_quiet (fun _ => trivial) (fun _ _ => rfl) (fun _ => ⟨rfl, rfl⟩) fun _ => rfl

theorem upToLimit_define (s : ScopeId) (name : String) (v : Value) :
    (upToLimit limit budget).Sim (Eval.define s name v) (Eval.define s name v) :=
  upToLimit_modify (fun _ _ => rfl) (fun _ => ⟨rfl, rfl⟩) fun _ => rfl

theorem upToLimit_setGeneratorState (id : GeneratorId) (state : GeneratorState) :
    (upToLimit limit budget).Sim (Eval.setGeneratorState id state) (Eval.setGeneratorState id state) :=
  upToLimit_modify (fun _ _ => rfl) (fun _ => ⟨rfl, rfl⟩) fun _ => rfl

theorem upToLimit_handling (f : List Fault → List Fault) :
    (upToLimit limit budget).Sim (modify fun m => { m with handling := f m.handling } : Eval Unit)
      (modify fun m => { m with handling := f m.handling }) :=
  upToLimit_modify (fun _ _ => rfl) (fun _ => ⟨rfl, rfl⟩) fun _ => rfl

theorem upToLimit_lawful : (upToLimit limit budget).Lawful where
  heap_eq := by rintro w m _ ⟨rfl, -, -, -, -⟩; rfl
  handled_eq := by rintro w m _ ⟨rfl, -, -, -, -⟩; rfl
  function_eq := by rintro w m _ ⟨rfl, -, -, -, -⟩ id; rfl
  function_shown _ _ := upToLimit_shows _
  own_eq := by rintro w m _ ⟨rfl, -, -, -, -⟩ s name _; rfl
  find_eq := by rintro w m _ ⟨rfl, -, -, -, -⟩ s name _; rfl
  charge := upToLimit_charge
  modifyHeap f := upToLimit_modify (fun _ _ => rfl) (fun _ => ⟨rfl, rfl⟩) fun _ => rfl
  place r := upToLimit_quiet (fun _ => trivial) (fun _ _ => rfl) (fun _ => ⟨rfl, rfl⟩) fun _ => rfl
  newSerial := upToLimit_quiet (fun _ => trivial) (fun _ _ => rfl) (fun _ => ⟨rfl, rfl⟩) fun _ => rfl
  newFunction name f _ :=
    upToLimit_quiet (fun _ => trivial) (fun _ _ => rfl) (fun _ => ⟨rfl, rfl⟩) fun _ => rfl
  print line := by
    refine upToLimit_blind (fun _ => trivial) (fun _ _ => rfl) (fun _ => ⟨rfl, rfl⟩) fun m => ?_
    show m.transcript.lines.toList <+: (m.transcript.lines.push line).toList
    rw [Array.toList_push]
    exact List.prefix_append _ _
  abort := upToLimit_modify (fun _ _ => rfl) (fun _ => ⟨rfl, rfl⟩) fun _ => rfl
  define v _ := upToLimit_define _ _ v
  setAttribute object name v _ := by
    match object with
    | .classObject _ scope => exact upToLimit_define scope name v
    | .int _ | .str _ | .bool _ | .none | .list _ | .tuple _ | .set _ | .dict _ | .function _ _
    | .builtin _ | .method _ _ _ | .generator _ _ | .exceptionClass _ | .exception _ _ _ _ =>
      exact Sim.fail _
  newScope := upToLimit_newScope
  newGenerator kind parent body _ :=
    upToLimit_quiet (fun _ => trivial) (fun _ _ => rfl) (fun _ => ⟨rfl, rfl⟩) fun _ => rfl
  newGeneratorExpression scope element first rest outer _ _ := by
    have hheap : (upToLimit limit budget).Sim Eval.heap Eval.heap :=
      upToLimit_quiet (fun _ => trivial) (fun _ _ => rfl) (fun _ => ⟨rfl, rfl⟩) fun _ => rfl
    refine Sim.bind (upToLimit_newScope _ _) fun inner => ?_
    refine Sim.bind (Sim.bind hheap fun h => Sim.ofFault _) fun _ => ?_
    refine Sim.bind (upToLimit_define _ _ _) fun _ => ?_
    exact Sim.bind (upToLimit_setGeneratorState _ _) fun _ => Sim.pure _
  inFrame h := by
    refine SimOf.inFrame (by rintro w m _ ⟨rfl, -, -, -, -⟩; rfl) (fun f => ?_) h
    exact upToLimit_modify (fun _ _ => rfl) (fun _ => ⟨rfl, rfl⟩) fun _ => rfl
  whileHandling f _ _ h := Sim.whileHandling upToLimit_handling f h

/-- **The gas limit makes no difference** until a charge fails. -/
theorem upToLimit_whole : (upToLimit limit budget).Whole where
  toLawful := upToLimit_lawful
  pushHandling f := upToLimit_handling (f :: ·)
  popHandling := upToLimit_handling List.tail
  withHandled faults _ _ h :=
    SimOf.withHandled upToLimit_handling (by rintro w m _ ⟨rfl, -, -, -, -⟩; rfl) faults h
  setGeneratorState id state _ := upToLimit_setGeneratorState id state
  generatorState _ :=
    upToLimit_quiet (fun _ => upToLimit_shows _) (fun _ _ => rfl) (fun _ => ⟨rfl, rfl⟩) fun _ => rfl

theorem upToLimit_bounded {bound bound' : Nat} (hbound : bound ≤ bound') :
    (upToLimit limit none).Couples (.bounded bound) (.bounded bound') := by
  have hp : (upToLimit limit none).patientLeft := rfl
  exact Complete.bounded ⟨upToLimit_whole, fun _ _ _ _ => hp⟩ (.of_le hp hbound)

end Coupling

/-! ## Outcomes -/

/-- **The first outcome is the second, or was cut short**, where the second run may use
more gas. Nothing is said about an outcome without end. -/
structure CutShort {α : Type} (limit' : Nat) (o o' : Except Stop α × Machine) : Prop where
  /-- A run that did not run out of gas had enough of it: with more the result is the
  same, and so is the machine, with its bindings, what was printed and the gas used. -/
  same : o.1 ≠ .error .endless → o.1 ≠ .error .gasExhausted → o' = (o.1, o.2.withLimit limit')
  /-- A run that did run out of it printed the first lines of the other one. -/
  printed : o.1 = .error .gasExhausted → o.2.Prints o'.2

namespace Coupling

variable {α : Type} {limit : Nat}

theorem Sim.cutShort {x y : Eval α} (h : (upToLimit limit none).Sim x y) {m : Machine}
    (hle : m.config.gasLimit ≤ limit) : CutShort limit (x.on m) (y.on (m.withLimit limit)) := by
  have hagree := h.agree (w := m) (.refl hle nofun)
  generalize x.on m = o at hagree ⊢
  generalize y.on (m.withLimit limit) = o' at hagree ⊢
  cases hagree with
  | ok _ hR =>
    obtain rfl := hR.eq
    exact ⟨fun _ _ => rfl, fun _ => .of_eq rfl⟩
  | stop _ hR =>
    obtain rfl := hR.eq
    exact ⟨fun _ _ => rfl, fun _ => .of_eq rfl⟩
  | endless _ | endlessLeft _ => exact ⟨fun hne => absurd rfl hne, nofun⟩
  | endlessRight hp => exact hp.elim
  | excused he => exact he.elim
  | parted ho hp => exact ⟨fun _ hne => absurd ho.eq hne, fun _ => hp.2⟩

end Coupling

/-- **Any task is only cut short by a lower gas limit**, however deep evaluation may
recurse, as long as it is not deeper than under the higher limit. -/
theorem Task.cutShort (task : Task) {bound bound' : Nat} (hbound : bound ≤ bound') (m : Machine)
    {limit limit' : Nat} (hle : limit ≤ limit') :
    CutShort limit' ((task.run (.bounded bound)).on (m.withLimit limit))
      ((task.run (.bounded bound')).on (m.withLimit limit')) := by
  have hcouples : (Coupling.upToLimit limit' none).Couples (.bounded bound) (.bounded bound') :=
    Coupling.upToLimit_bounded hbound
  exact (hcouples.task Coupling.upToLimit_shows task).cutShort (m := m.withLimit limit) hle

/-! ## Sessions -/

namespace Session

variable {s : Session} {limit limit' : Nat}

/-- The session with another gas limit. -/
def withLimit (s : Session) (limit : Nat) : Session :=
  { s with machine := s.machine.withLimit limit }

/-- How an operation on a session ended, and on which machine. -/
def outcome {α : Type} (o : Except Stop α × Session) : Except Stop α × Machine :=
  (o.1, o.2.machine)

theorem cutShort_perform {α : Type} {x : Evaluator → Eval α}
    (hx : ∀ {ev ev' : Evaluator}, (Coupling.upToLimit limit' none).Couples ev ev' →
      (Coupling.upToLimit limit' none).Sim (x ev) (x ev')) (hle : limit ≤ limit') :
    CutShort limit' (outcome ((s.withLimit limit).perform (.boundedly x)))
      (outcome ((s.withLimit limit').perform (.boundedly x))) := by
  have hbound : (s.machine.withLimit limit).bound ≤ (s.machine.withLimit limit').bound := by
    show 4 * (limit - s.machine.gas) + 16 ≤ 4 * (limit' - s.machine.gas) + 16
    omega
  rw [perform_eq, perform_eq, Eval.on_boundedly, Eval.on_boundedly]
  exact (hx (Coupling.upToLimit_bounded hbound)).cutShort (m := s.machine.withLimit limit) hle

/-- **The gas limit only cuts operations short.** -/
structure LimitCutsShort (s : Session) (limit limit' : Nat) : Prop where
  run (body : Block) :
    CutShort limit' (outcome ((s.withLimit limit).run body))
      (outcome ((s.withLimit limit').run body))
  call (name : String) (arguments : List Value) :
    CutShort limit' (outcome ((s.withLimit limit).call name arguments))
      (outcome ((s.withLimit limit').call name arguments))
  send (id : GeneratorId) (v : Value) :
    CutShort limit' (outcome ((s.withLimit limit).send id v))
      (outcome ((s.withLimit limit').send id v))
  throw (id : GeneratorId) (e : Exception) :
    CutShort limit' (outcome ((s.withLimit limit).throw id e))
      (outcome ((s.withLimit limit').throw id e))
  close (id : GeneratorId) :
    CutShort limit' (outcome ((s.withLimit limit).close id))
      (outcome ((s.withLimit limit').close id))

end Session

/-- **The gas limit only cuts a run short**, on every session that it starts from: with a
higher limit it comes to the same, unless it ran out of gas, and then it printed the first
lines of what is printed with the higher limit. -/
theorem gas_limit_only_cuts_short (s : Session) {limit limit' : Nat} (hle : limit ≤ limit') :
    s.LimitCutsShort limit limit' where
  run body :=
    Session.cutShort_perform (fun h => h.execModule (Coupling.upToLimit_shows _) .none) hle
  call name arguments := by
    unfold Session.call
    have hglobal (limit : Nat) :
        (s.withLimit limit).machine.scopes.findLocal? (s.withLimit limit).globals name =
          s.machine.scopes.findLocal? s.globals name := rfl
    rw [hglobal, hglobal]
    cases s.machine.scopes.findLocal? s.globals name with
    | none => exact ⟨fun _ _ => rfl, nofun⟩
    | some callee => exact Session.cutShort_perform (fun h => h.callValue callee arguments) hle
  send id v := Session.cutShort_perform (fun h => h.resume id (.send v)) hle
  throw id e := Session.cutShort_perform (fun h => h.resume id (.throw e)) hle
  close id := Session.cutShort_perform (fun h => h.close id) hle

/-- Prints two lines. -/
def printsTwice : Block :=
  [StmtForm.synthetic (.expr (.call (.name "print") [.str "one"])),
    StmtForm.synthetic (.expr (.call (.name "print") [.str "two"]))]

/-- With four units of gas the second line is not printed any more, and nine are enough. -/
theorem gas_limit_cuts_printsTwice_short :
    let s := Session.start .standard
    let short := (s.withLimit 4).run printsTwice
    let long := (s.withLimit 9).run printsTwice
    let full := (s.withLimit 20).run printsTwice
    (short.1 = .error .gasExhausted ∧ short.2.machine.Prints full.2.machine) ∧
      long.1 = .ok .none ∧ full.1 = .ok .none ∧ full.2.machine = long.2.machine.withLimit 20 := by
  have hshort : (((Session.start .standard).withLimit 4).run printsTwice).1 =
      .error .gasExhausted := by cbv
  have hlong : (((Session.start .standard).withLimit 9).run printsTwice).1 = .ok .none := by cbv
  have hcut := (gas_limit_only_cuts_short (Session.start .standard)
    (show 4 ≤ 20 by decide)).run printsTwice
  have hsame := ((gas_limit_only_cuts_short (Session.start .standard)
    (show 9 ≤ 20 by decide)).run printsTwice).same
    (by rw [Session.outcome, hlong]; simp) (by rw [Session.outcome, hlong]; simp)
  rw [Session.outcome, Session.outcome, Prod.mk.injEq] at hsame
  exact ⟨⟨hshort, hcut.printed hshort⟩, hlong, hsame.1.trans hlong, hsame.2⟩

end MeteredScript
