import MeteredScript.Proofs.Coupling.Bracket
import MeteredScript.Proofs.Coupling.Bounded

/-!
# Where the gas ran out

A run in which a charge fails goes on for a while: brackets are closed, and each
`finally` block is entered and left again. To say what happens from the charge on, one has
to know the machine that it left behind. `Evaluator.halting` evaluates up to
that charge and stops there for good, so its last machine is the one.

The run and the halted run are the same up to the charge. After it, the halted
run stands still and the other one winds down.
-/

namespace MeteredScript

variable {α : Type}

/-- Stop for good when the gas has run out. -/
def Eval.halt (x : Eval α) : Eval α := fun m =>
  match x m with
  | .error .gasExhausted n =>
    if n.Spent then .error .endless n else .error .gasExhausted n
  | r => r

namespace Eval

variable {x : Eval α} {m n : Machine}

theorem on_halt_of_spent (h : x.on m = (.error .gasExhausted, n)) (hn : n.Spent) :
    (halt x).on m = (.error .endless, n) := by
  unfold on at h ⊢
  unfold halt
  cases hx : x m with
  | ok a k => simp [hx] at h
  | error s k =>
    obtain ⟨rfl, rfl⟩ : s = .gasExhausted ∧ k = n := by simpa [hx] using h
    simp [hn]

theorem on_halt_of_ne (h : ¬ ((x.on m).1 = .error .gasExhausted ∧ (x.on m).2.Spent)) :
    (halt x).on m = x.on m := by
  unfold on at h ⊢
  unfold halt
  cases hx : x m with
  | ok a k => rfl
  | error s k =>
    cases s with
    | gasExhausted =>
      have hk : ¬ k.Spent := by simpa [hx] using h
      simp [hk]
    | _ => rfl

end Eval

namespace Evaluator

/-- The evaluator that may recurse one level deeper and stops for good when the gas has
run out. -/
def deeperHalting (ev : Evaluator) : Evaluator where
  eval e scope := Eval.halt (evalExpr ev e scope)
  exec s scope := Eval.halt (execStmt ev s scope)
  resume id r := Eval.halt do
    resumeBy (driveFromWith (fun _ => Eval.halt) ev id.scope · · r) id (← Eval.generatorState id) r
  rounds := ev.rounds + 1

/-- **The evaluator that stops for good at the first charge that fails.** -/
def halting : (bound : Nat) → Evaluator
  | 0 => idle
  | bound + 1 => (halting bound).deeperHalting

end Evaluator

namespace Coupling

variable {Out P : α → Prop} {x y : Eval α}

/-- **A run beside a halted one**: both machines are the same until the gas runs out. -/
def untilHalted : Coupling where
  World := Unit
  Related _ m m' := m' = m
  Left _ _ := True
  Right _ _ := True
  Excused _ _ := False
  patientLeft := True
  patientRight := False
  hidden _ := False
  Parted halted m m' := halted = true ∧ m.Spent ∧ m'.Spent ∧ m'.WindsDown m
  left_refl _ := trivial
  left_trans _ _ := trivial
  right_refl _ := trivial
  right_trans _ _ := trivial
  excused_mono h _ _ := h
  shown_of_excused h _ _ := h
  spent_of_parted h := h.2.1
  parted_windsDown h hdown :=
    ⟨h.1, h.2.1.mono hdown.burns, h.2.2.1, h.2.2.2.trans hdown⟩
  parted_right h := by simp at h
  shown_of_parted h := by simp at h

theorem untilHalted_shows (names : List String) : untilHalted.Shows names := by
  simp [Shows, untilHalted]

theorem untilHalted_not_lenient : ¬ untilHalted.Lenient := by
  simp [Lenient, untilHalted]

theorem untilHalted_sim (h : ∀ m, untilHalted.AgreeTo () Out P (x.on m) (y.on m)) :
    untilHalted.SimTo Out P x y where
  total hl := absurd hl untilHalted_not_lenient
  left hl := absurd hl untilHalted_not_lenient
  right hl := absurd hl untilHalted_not_lenient
  agree {_ m _} hR := by
    obtain rfl := hR
    exact h _

/-- What does not recurse does the same in both runs. -/
theorem untilHalted_self (hP : ∀ a, P a) : untilHalted.SimOf P x x := by
  refine untilHalted_sim fun m => ?_
  generalize x.on m = o
  obtain ⟨r, n⟩ := o
  cases r with
  | ok a => exact .ok (hP a) rfl
  | error s =>
    by_cases hs : s = .endless
    · subst hs
      exact .endless trivial
    · exact .stop hs rfl

/-- **The right run may halt** when the gas has run out. -/
theorem untilHalted_sees : untilHalted.Sees fun _ => Eval.halt := by
  intro α Out P x y h
  refine untilHalted_sim fun m => ?_
  have hxy := h.agree (w := ()) (m := m) rfl
  by_cases hend : (y.on m).1 = .error .gasExhausted ∧ (y.on m).2.Spent
  · obtain ⟨hr, hspent⟩ := hend
    rw [Eval.on_halt_of_spent (Prod.ext hr rfl) hspent]
    generalize x.on m = o at hxy ⊢
    generalize y.on m = o' at hxy hr hspent ⊢
    cases hxy with
    | ok | endless => cases hr
    | stop _ hR =>
      cases hr
      cases hR
      exact .parted rfl ⟨rfl, hspent, hspent, .refl _⟩
    | endlessLeft hp => exact .endlessLeft hp
    | endlessRight hp | excused hp => exact hp.elim
    | parted _ hp =>
      have hhalted := hp.1
      rw [hr] at hhalted
      cases hhalted
  · rw [Eval.on_halt_of_ne hend]
    exact hxy

theorem untilHalted_lawful : untilHalted.Lawful where
  heap_eq := by rintro w m _ rfl; rfl
  handled_eq := by rintro w m _ rfl; rfl
  function_eq := by rintro w m _ rfl id; rfl
  function_shown _ _ := untilHalted_shows _
  own_eq := by rintro w m _ rfl s name _; rfl
  find_eq := by rintro w m _ rfl s name _; rfl
  charge _ := untilHalted_self fun _ => trivial
  modifyHeap _ := untilHalted_self fun _ => trivial
  place _ := untilHalted_self fun _ => trivial
  newSerial := untilHalted_self fun _ => trivial
  newFunction _ _ _ := untilHalted_self fun _ => trivial
  print _ := untilHalted_self fun _ => trivial
  abort := untilHalted_self fun _ => trivial
  define _ _ := untilHalted_self fun _ => trivial
  setAttribute _ _ _ _ := untilHalted_self fun _ => trivial
  newScope _ _ := untilHalted_self fun _ => trivial
  newGenerator _ _ _ _ := untilHalted_self fun _ => trivial
  newGeneratorExpression _ _ _ _ _ _ _ := untilHalted_self fun _ => trivial
  inFrame h :=
    SimOf.inFrame (by rintro w m _ rfl; rfl) (fun _ => untilHalted_self fun _ => trivial) h
  whileHandling f _ _ h := Sim.whileHandling (fun _ => untilHalted_self fun _ => trivial) f h

theorem untilHalted_complete : untilHalted.Complete where
  toLawful := untilHalted_lawful
  pushHandling _ := untilHalted_self fun _ => trivial
  popHandling := untilHalted_self fun _ => trivial
  withHandled faults _ _ h :=
    SimOf.withHandled (fun _ => untilHalted_self fun _ => trivial) (by rintro w m _ rfl; rfl)
      faults h
  setGeneratorState _ _ _ := untilHalted_self fun _ => trivial
  generatorState _ := untilHalted_self fun _ => untilHalted_shows _
  patient _ _ _ _ := trivial

/-- **A halted run is the run itself** until the gas runs out. -/
theorem untilHalted_halting (n : Nat) : untilHalted.Couples (.bounded n) (.halting n) := by
  have hc := untilHalted_complete
  induction n with
  | zero => exact hc.idle
  | succ n ih =>
    have hresume (id : GeneratorId) (r : Resume) :
        untilHalted.Sim ((Evaluator.bounded (n + 1)).resume id r)
          ((Evaluator.halting (n + 1)).resume id r) := by
      refine untilHalted_sees (SimOf.bind (hc.generatorState id) fun state hs => ?_)
      rw [resumeFrom_eq_resumeBy]
      refine Couples.resumeBy hc.toSettled (fun targets frames ht hf => ?_) hs
      exact Couples.runBy hc.toLawful hc.toSettled (hc.withHandled _
        (ih.driveFromWith hc.toSteady untilHalted_sees hc.patient ht hf r))
    exact ⟨hc.toLawful, fun hn => untilHalted_sees (ih.evalExpr hn),
      fun hn => untilHalted_sees (ih.execStmt hn), hresume, hc.closeGenerator hresume,
      .more ih.rounds, .inl fun _ _ => Unwinds.bind (Unwinds.charge 1) fun _ => False.elim⟩

end Coupling

end MeteredScript
