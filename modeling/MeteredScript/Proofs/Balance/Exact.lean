import MeteredScript.Proofs.Balance.Handlers
import MeteredScript.Proofs.Lifecycle.Transition
import MeteredScript.Proofs.Task

/-!
# Balance of all operations

The invariant of `Proofs.Balance.Handlers`, carried around the circle of
evaluation: each operation leaves the calls and handlers as it found them,
whatever it ends with, and no call is ever made at a greater depth than the
limits allow. A host that performs operations one after the other always finds
the machine outside of all calls and handlers.
-/

namespace MeteredScript

open Coupling

/-! ## Closing the circle -/

/-- Whether a machine is no deeper in calls than it may be. -/
def Machine.withinDepth (m : Machine) : Bool := m.depth ≤ m.config.maxCallDepth

/-- **A bounded evaluator that is watched**: before each of its operations the
machine is checked, and if it fails the check an alarm takes the place of the
operation. -/
def Evaluator.watched (check : Machine → Bool) (alarm : (α : Type) → Eval α) :
    (bound : Nat) → Evaluator
  | 0 => .idle
  | bound + 1 => (watched check alarm bound).deeper.checked check alarm

section Closing

variable {watching : Prop} {ev ev' : Evaluator}

theorem balanced_closeGenerator (id : GeneratorId)
    (hresume : ∀ r, (keeping (Balanced watching)).Sim (ev.resume id r) (ev'.resume id r)) :
    (keeping (Balanced watching)).Sim (closeGenerator ev id) (closeGenerator ev' id) :=
  closeGenerator_sim balanced_settled id (balanced_generatorState id) hresume

theorem balanced_idle : (keeping (Balanced watching)).Couples .idle .idle where
  toLawful := balanced_kept.lawful
  eval _ := Sim.throw .endless
  exec _ := Sim.throw .endless
  resume _ _ := Sim.throw .endless
  close id := balanced_closeGenerator id fun _ => Sim.throw .endless
  rounds := .done

theorem balanced_deeper (h : (keeping (Balanced watching)).Couples ev ev') :
    (keeping (Balanced watching)).Couples ev.deeper ev'.deeper :=
  h.deeper (balanced_resumeGenerator h) fun id =>
    balanced_closeGenerator id (balanced_resumeGenerator h id)

/-- **Evaluation is balanced.** -/
theorem balanced_bounded (watching : Prop) (n : Nat) :
    (keeping (Balanced watching)).Couples (.bounded n) (.bounded n) := by
  induction n with
  | zero => exact balanced_idle
  | succ n ih => exact balanced_deeper ih

/-- **The depth stays in bounds** throughout evaluation. -/
theorem balanced_watched (alarm : (α : Type) → Eval α) (n : Nat) :
    (keeping (Balanced True)).Couples (.bounded n) (.watched Machine.withinDepth alarm n) := by
  induction n with
  | zero => exact balanced_idle
  | succ n ih =>
    have hcheck (w : Standing) (m : Machine) (hI : Balanced True w m) : m.withinDepth = true :=
      decide_eq_true (hI.2 trivial)
    refine (balanced_deeper ih).checked hcheck fun id => balanced_closeGenerator id fun r => ?_
    exact (balanced_resumeGenerator ih id r).checked hcheck (alarm Value)

end Closing

/-! ## The states of a body that is driven -/

/-- The machine on which a generator is driven: one call further in, and inside
the handlers of its frames. -/
def Machine.driving (m : Machine) (id : GeneratorId) (frames : List Frame) : Machine :=
  { m with
    scopes := m.scopes.setGenerator id.scope .running
    depth := m.depth + 1
    handling := handledBy frames ++ m.handling }

/-- **What a body has come to** after some turns since it was resumed: the frames
that are left or the way it stopped, with the machine at that point. -/
inductive DrivenTo (ev : Evaluator) (id : GeneratorId) (resume : Resume) (m : Machine) :
    Except Stop Progress → Machine → Prop
  | woken {targets : List Expr} {frames : List Frame} {r : Except Stop Progress} {n : Machine} :
    Waiting (m.generator id).state resume targets frames →
    (wake ev id.scope targets frames resume).on (m.driving id frames) = (r, n) →
    DrivenTo ev id resume m r n
  | turned {frame : Frame} {frames : List Frame} {r : Except Stop Progress} {n n' : Machine} :
    DrivenTo ev id resume m (.ok (.onward (frame :: frames))) n →
    (turn ev id.scope frame frames).on n = (r, n') →
    DrivenTo ev id resume m r n'

/-- The frames that are left of a body. -/
def framesLeft : Except Stop Progress → List Frame
  | .ok progress => progress.frames
  | .error _ => []

/-- **While a body is driven**, what is listed above its base are the handlers of
the frames that are left. -/
theorem DrivenTo.standing {bound : Nat} {id : GeneratorId} {resume : Resume} {m n : Machine}
    {r : Except Stop Progress} (h : DrivenTo (.bounded bound) id resume m r n)
    (hr : r ≠ .error .endless) : n.standing = m.standing.called.within (framesLeft r) := by
  have hev := balanced_bounded False bound
  have hpost {r : Except Stop Progress} {n : Machine} (hr : r ≠ .error .endless)
      {o : Except Stop Progress × Machine}
      (h : Alike (LeftAt False m.standing.called Progress.frames) (r, n) o) :
      n.standing = m.standing.called.within (framesLeft r) := by
    rcases h with ⟨h, -⟩ | ⟨-, -, h⟩
    · exact absurd h hr
    · cases r with
      | ok progress => exact h.1
      | error s => exact h.1
  induction h with
  | woken hwaiting hwake =>
    rename_i targets frames r n
    have hI : Balanced False (m.standing.called.within frames) (m.driving id frames) :=
      ⟨rfl, False.elim⟩
    have halike := alike_wake hev id.scope targets resume hI
    rw [hwake] at halike
    exact hpost hr halike
  | turned hdriven hturn ih =>
    rename_i frame frames r n n'
    have hI : Balanced False (m.standing.called.within (frame :: frames)) n :=
      ⟨ih (by simp), False.elim⟩
    have halike := alike_turn hev id.scope frame hI
    rw [hturn] at halike
    exact hpost hr halike

/-- Driving a generator takes a body to what it pauses at, turn by turn. -/
theorem drivenTo_of_drive {ev : Evaluator} {id : GeneratorId} {resume : Resume} {m n n' : Machine}
    {rounds : Nat} {frames : List Frame} {pause : Pause}
    (h : DrivenTo ev id resume m (.ok (.onward frames)) n)
    (hdrive : (drive ev id.scope rounds frames).on n = (.ok pause, n')) :
    DrivenTo ev id resume m (.ok (.paused pause)) n' ∨
      DrivenTo ev id resume m (.ok (.onward [])) n' ∧ pause = .returned .none := by
  induction rounds generalizing frames n with
  | zero => cases hdrive
  | succ rounds ih =>
    cases frames with
    | nil =>
      cases hdrive
      exact .inr ⟨h, rfl⟩
    | cons frame frames =>
      rw [drive, Eval.on_bind] at hdrive
      cases hturn : (turn ev id.scope frame frames).on n with
      | mk r n₁ =>
        rw [hturn] at hdrive
        match r with
        | .ok (.onward frames) => exact ih (h.turned hturn) hdrive
        | .ok (.paused pause) =>
          cases hdrive
          exact .inl (h.turned hturn)
        | .error s => cases hdrive

/-! ## Sessions -/

/-- An operation that comes to an end leaves the machine at its standing. -/
theorem standing_of_sim {α : Type} {watching : Prop} {x y : Eval α}
    (h : (keeping (Balanced watching)).Sim x y) {m : Machine}
    (hd : watching → m.depth ≤ m.config.maxCallDepth) (hne : (x.on m).1 ≠ .error .endless) :
    y.on m = x.on m ∧ Balanced watching m.standing (x.on m).2 := by
  rcases h.alike (w := m.standing) ⟨rfl, hd⟩ with ⟨hend, -⟩ | ⟨heq, -, hI, -⟩
  · exact absurd hend hne
  · exact ⟨heq, hI⟩

namespace Session

variable {s s' : Session}

theorem standing_perform {α : Type} {x : Evaluator → Eval α}
    (hx : ∀ n, (keeping (Balanced False)).Sim (x (.bounded n)) (x (.bounded n)))
    (hne : (s.perform (.boundedly x)).1 ≠ .error .endless) :
    (s.perform (.boundedly x)).2.machine.standing = s.machine.standing := by
  rw [perform_eq, Eval.on_boundedly] at hne ⊢
  exact (standing_of_sim (hx s.machine.bound) False.elim hne).2.1

theorem standing_run (body : Block) (hne : (s.run body).1 ≠ .error .endless) :
    (s.run body).2.machine.standing = s.machine.standing :=
  standing_perform (fun n => (balanced_bounded False n).execModule (keeping_shows _) _) hne

/-- **An operation of a host** leaves the machine at its standing. -/
theorem Step.standing (h : s.Step s') : s'.machine.standing = s.machine.standing := by
  have hev (n : Nat) := balanced_bounded False n
  cases h with
  | run body hne => exact standing_run body hne
  | call name arguments hne =>
    unfold Session.call at hne ⊢
    cases hc : s.machine.scopes.findLocal? s.globals name with
    | none => rfl
    | some callee =>
      rw [hc] at hne
      exact standing_perform (fun n => (hev n).callValue callee arguments) hne
  | send id value hne => exact standing_perform (fun n => (hev n).resume id _) hne
  | throw id e hne => exact standing_perform (fun n => (hev n).resume id _) hne
  | close id hne => exact standing_perform (fun n => (hev n).close id) hne
  | define name value => rfl
  | clearOutput => rfl

/-- **Between two operations of a host** the machine is outside of all calls and
handlers. -/
theorem Reachable.standing (h : s.Reachable) : s.machine.depth = 0 ∧ s.machine.handling = [] := by
  have hof {m : Machine} {limits : Config} (h : m.standing = ⟨limits, 0, []⟩) :
      m.depth = 0 ∧ m.handling = [] := by
    simp only [Machine.standing, Standing.mk.injEq] at h
    exact h.2
  obtain ⟨config, h⟩ := h
  induction h with
  | refl => exact ⟨rfl, rfl⟩
  | @step s' _ _ hstep ih =>
    have hstanding := hstep.standing
    rw [Machine.standing.eq_def s'.machine, ih.1, ih.2] at hstanding
    exact hof hstanding
  | evaluate body _ hne _ => exact hof (standing_run body hne)

end Session

/-- **What is true of calls and handlers**, whatever a script or a host does. -/
structure Balance (bound : Nat) : Prop where
  /-- An operation leaves the depth of calls and the list of faults being handled
  as they were, however it ends. -/
  restored {m : Machine} (task : Task) : ((task.run (.bounded bound)).on m).1 ≠ .error .endless →
    ((task.run (.bounded bound)).on m).2.depth = m.depth ∧
    ((task.run (.bounded bound)).on m).2.handling = m.handling
  /-- The depth never exceeds the limit: to check it before each operation makes
  no difference. -/
  withinDepth {m : Machine} (alarm : (α : Type) → Eval α) (task : Task) :
    m.depth ≤ m.config.maxCallDepth →
    ((task.run (.watched Machine.withinDepth alarm bound)).on m).1 =
      ((task.run (.bounded bound)).on m).1 ∧
    (((task.run (.bounded bound)).on m).1 ≠ .error .endless →
      (task.run (.watched Machine.withinDepth alarm bound)).on m =
        (task.run (.bounded bound)).on m)
  /-- While a body is driven, what is listed above its base are the handlers of the
  frames that are left, innermost first. -/
  driven {id : GeneratorId} {resume : Resume} {m n : Machine} {r : Except Stop Progress} :
    DrivenTo (.bounded bound) id resume m r n → r ≠ .error .endless →
    n.depth = m.depth + 1 ∧ n.handling = handledBy (framesLeft r) ++ m.handling
  /-- A host finds the machine outside of all calls and handlers. -/
  between {s : Session} : s.Reachable → s.machine.depth = 0 ∧ s.machine.handling = []
  /-- A bare `raise` and the check of the depth do the same after an operation of a
  host as before it. -/
  unchanged {s s' : Session} (scope : ScopeId) : s.Step s' →
    ((raisedFault (.bounded bound) scope none).on s'.machine).1 =
      ((raisedFault (.bounded bound) scope none).on s.machine).1 ∧
    ((Eval.inFrame (pure ())).on s'.machine).1 = ((Eval.inFrame (pure ())).on s.machine).1

/-- **Calls and handlers are balanced.** -/
theorem calls_and_handlers_balanced (bound : Nat) : Balance bound where
  restored {m} task hne := by
    have hsim := (balanced_bounded False bound).task (fun _ => keeping_shows _) task
    have hstanding := (standing_of_sim hsim False.elim hne).2.1
    simp only [Machine.standing, Standing.mk.injEq] at hstanding
    exact hstanding.2
  withinDepth {m} alarm task hd := by
    have hsim := (balanced_watched alarm bound).task (fun _ => keeping_shows _) task
    have halike := hsim.alike (w := m.standing) ⟨rfl, fun _ => hd⟩
    exact ⟨halike.fst_eq, fun hne => (standing_of_sim hsim (fun _ => hd) hne).1⟩
  driven hdriven hr := by
    have hstanding := hdriven.standing hr
    simp only [Machine.standing, Standing.within, Standing.called, Standing.mk.injEq] at hstanding
    exact hstanding.2
  between hs := hs.standing
  unchanged {s s'} scope hstep := by
    have hstanding := hstep.standing
    simp only [Machine.standing, Standing.mk.injEq] at hstanding
    obtain ⟨hconfig, hdepth, hhandling⟩ := hstanding
    refine ⟨?_, ?_⟩
    · show Except.ok (s'.machine.handling.head?.getD .nothingToReraise) =
        Except.ok (s.machine.handling.head?.getD .nothingToReraise)
      rw [hhandling]
    · rcases Nat.lt_or_ge s.machine.depth s.machine.config.maxCallDepth with hlt | hge
      · rw [Eval.on_inFrame_of_lt hlt, Eval.on_inFrame_of_lt (by rwa [hconfig, hdepth])]
        rfl
      · rw [Eval.on_inFrame_of_le hge, Eval.on_inFrame_of_le (by rwa [hconfig, hdepth])]

end MeteredScript
