import MeteredScript.Proofs.Balance.Exact
import MeteredScript.Proofs.Coupling.Room
import MeteredScript.Proofs.Dialogue.Frames
import MeteredScript.Proofs.Lifecycle.Run

/-!
# A generator that is resumed again and again

Between two resumes the conversation rests: the frames are saved in the
generator, the call is over and the handlers of the body are not listed. The
next resume restores all of it (`driving_resting`). So resuming a generator for
each of the actions of its caller is the same as playing the body without a
break, up to where the generator is in its life. If the resumes come to an end
then so does playing, with enough turns (`plays_of_notStarted`), and if playing
does then so do the resumes, with enough room (`ends_of_notStarted`).
-/

namespace MeteredScript

open Coupling

variable {id : GeneratorId} {m n : Machine}

/-! ## One resume -/

/-- **The machine after a resume** that left it as `n`: outside of the call and of
the handlers of the body, with the generator at rest. -/
def Machine.resting (m n : Machine) (id : GeneratorId) (state : GeneratorState) : Machine :=
  { n with
    scopes := n.scopes.setGenerator id.scope state
    depth := m.depth
    handling := m.handling }

/-- Where the outcome of a body brings its generator. -/
def restState : Except Stop Pause → GeneratorState
  | .ok (.yielded _ targets frames) => .suspended targets frames
  | .ok (.returned v) => .completed (.returned v)
  | .error s => .completed (.stopped (escaped s))

/-- What the caller sees of the outcome of a body. -/
def verdict : Except Stop Pause → Except Stop Value
  | .ok (.yielded v _ _) => .ok v
  | .ok (.returned v) => .error (.fault (.exhausted v))
  | .error s => .error (escaped s)

theorem verdict_ne_endless {outcome : Except Stop Pause} (h : outcome ≠ .error .endless) :
    verdict outcome ≠ .error .endless := by
  match outcome with
  | .ok (.yielded _ _ _) | .ok (.returned _) => simp [verdict]
  | .error s =>
    have hs : s ≠ .endless := fun hs => h (by rw [hs])
    rw [verdict, escaped]
    split
    · simp
    · simpa using hs

theorem on_settle (outcome : Except Stop Pause) :
    (settle id outcome).on n =
      (verdict outcome,
        { n with scopes := n.scopes.setGenerator id.scope (restState outcome) }) := by
  match outcome with
  | .ok (.yielded _ _ _) | .ok (.returned _) | .error _ => rfl

/-- The frames that an outcome leaves behind. -/
def pauseFrames : Except Stop Pause → List Frame
  | .ok pause => pause.frames
  | .error _ => []

section Bounded

variable {bound : Nat} {targets : List Expr} {frames : List Frame} {action : Resume}
  {outcome : Except Stop Pause}

/-- The machine while a body is driven is at the standing of its frames. -/
theorem standing_of_driveFrom
    (hdrive : (driveFrom (.bounded bound) id.scope targets frames action).on
      (m.driving id frames) = (outcome, n))
    (hne : outcome ≠ .error .endless) :
    n.standing = m.standing.called.within (pauseFrames outcome) := by
  have hI : Balanced False (m.standing.called.within frames) (m.driving id frames) :=
    ⟨rfl, False.elim⟩
  have halike := alike_driveFrom (balanced_bounded False bound) id.scope targets action hI
  rw [hdrive] at halike
  rcases halike with ⟨hend, -⟩ | ⟨-, -, hn⟩
  · exact absurd hend hne
  · cases outcome with
    | ok pause => exact hn.1
    | error s => exact hn.1

/-- The generator is running while its body is driven. -/
theorem running_of_driveFrom {state : GeneratorState}
    (hstate : m.scopes.generator? id.scope = some state) (hstep : state.Step .running)
    (hdrive : (driveFrom (.bounded bound) id.scope targets frames action).on
      (m.driving id frames) = (outcome, n))
    (hne : outcome ≠ .error .endless) :
    n.scopes.generator? id.scope = some .running := by
  have hm : Tracked m.running m m := ⟨.refl m, fun id => Machine.mem_running.symm⟩
  have hI : Tracked (id :: m.running) m (m.driving id frames) :=
    (hm.run hstate hstep).of_eq fun _ => rfl
  have hev := tracked_tracking (fun _ => throw .endless) bound (id :: m.running)
  have halike := (hev.driveFrom (s := id.scope) (tracked_steady _) (.of_united _)
    (keeping_shows (exprsNames targets)) (keeping_shows (framesNames frames)) action).sim.alike hI
  rw [hdrive] at halike
  rcases halike with ⟨hend, -⟩ | ⟨-, -, hn, -⟩
  · exact absurd hend hne
  · exact (hn.running id).2 (by simp)

/-- How the body of a generator is run when it is resumed. -/
theorem on_body :
    (Eval.on
      (do
        Eval.setGeneratorState id .running
        Eval.ofStop (← Eval.withHandled (handledBy frames)
          (driveFrom (.bounded bound) id.scope targets frames action)))
      { m with depth := m.depth + 1 }) =
      Eval.leaving (fun r => r)
        (fun n => { n with handling := n.handling.drop (n.handling.length - m.handling.length) })
        ((driveFrom (.bounded bound) id.scope targets frames action).on (m.driving id frames)) := by
  have hwith : (Eval.withHandled (handledBy frames)
        (driveFrom (.bounded bound) id.scope targets frames action)).on
        { m with depth := m.depth + 1, scopes := m.scopes.setGenerator id.scope .running } =
      Eval.leaving .ok
        (fun n => { n with handling := n.handling.drop (n.handling.length - m.handling.length) })
        ((driveFrom (.bounded bound) id.scope targets frames action).on (m.driving id frames)) :=
    Eval.on_withHandled _ _ _
  rw [Eval.setGeneratorState, Eval.on_bind_ok (Eval.on_modify _ _), Eval.on_bind, hwith]
  generalize (driveFrom (.bounded bound) id.scope targets frames action).on
    (m.driving id frames) = o
  obtain ⟨r, n⟩ := o
  by_cases hr : r = .error .endless
  · subst hr
    rfl
  · rw [Eval.leaving_of_ne hr, Eval.leaving_of_ne hr]
    exact Eval.on_ofStop r _

/-- **One resume** drives the body and puts it to rest. -/
theorem on_resume_of_waiting {state : GeneratorState}
    (hstate : m.scopes.generator? id.scope = some state)
    (hwaiting : Waiting state action targets frames) (hdepth : m.depth < m.config.maxCallDepth)
    (hdrive : (driveFrom (.bounded bound) id.scope targets frames action).on
      (m.driving id frames) = (outcome, n)) (hne : outcome ≠ .error .endless) :
    (resumeGenerator (.bounded bound) id action).on m =
      (verdict outcome, m.resting n id (restState outcome)) := by
  have hstanding := standing_of_driveFrom hdrive hne
  simp only [Machine.standing, Standing.within, Standing.called, Standing.mk.injEq] at hstanding
  obtain ⟨-, hd, hh⟩ := hstanding
  rw [on_resumeGenerator, generator_of_eq_some hstate, hwaiting.resumeFrom_eq, runSuspended,
    Eval.on_bind, Eval.on_inFrame_of_lt hdepth, on_body, hdrive, Eval.leaving_of_ne hne,
    Eval.leaving_of_ne hne]
  dsimp only
  rw [on_settle, hd, hh]
  simp [Machine.resting]

/-- A resume is endless if the body is. -/
theorem on_resume_of_waiting_endless {state : GeneratorState}
    (hstate : m.scopes.generator? id.scope = some state)
    (hwaiting : Waiting state action targets frames) (hdepth : m.depth < m.config.maxCallDepth)
    (hdrive : (driveFrom (.bounded bound) id.scope targets frames action).on
      (m.driving id frames) = (.error .endless, n)) :
    ((resumeGenerator (.bounded bound) id action).on m).1 = .error .endless := by
  rw [on_resumeGenerator, generator_of_eq_some hstate, hwaiting.resumeFrom_eq, runSuspended,
    Eval.on_bind, Eval.on_inFrame_of_lt hdepth, on_body, hdrive]
  rfl

/-- **To resume a body that was put to rest** is to go on where it was left. -/
theorem driving_resting (hn : n.standing = m.standing.called.within frames)
    (hrunning : n.scopes.generator? id.scope = some .running) (state : GeneratorState) :
    (m.resting n id state).driving id frames = n := by
  simp only [Machine.standing, Standing.within, Standing.called, Standing.mk.injEq] at hn
  obtain ⟨-, hd, hh⟩ := hn
  have hscopes : (n.scopes.setGenerator id.scope state).setGenerator id.scope .running = n.scopes := by
    rw [n.scopes.setGenerator_setGenerator, n.scopes.setGenerator_of_generator? _ hrunning]
  obtain ⟨config, heap, functions, scopes, nextSerial, transcript, gas, depth, handling⟩ := n
  dsimp only at hd hh hscopes
  simp only [Machine.resting, Machine.driving, hscopes, hd, hh]

end Bounded

/-! ## Playing without a break -/

section Play

variable {ev : Evaluator} {scope : ScopeId} {frames : List Frame} {d : Dialogue}

/-- What is played after running some frames. -/
def playOutcome (ev : Evaluator) (scope : ScopeId) (fuel : Nat) (outcome : Except Stop Pause)
    (d : Dialogue) : Eval (Except Halt Value × Dialogue) :=
  match outcome with
  | .ok pause => play ev scope (fuel + 1) (.paused pause) d
  | .error s => return (.error (.stop s), d)

/-- A step that is taken and played on. -/
theorem on_playFrom {next : Player} {x : Eval Progress} {r : Except Stop Progress}
    (hx : x.on m = (r, n)) (hr : r ≠ .error .endless) :
    (playFrom next x d).on m =
      Eval.on (match r with
        | .ok p => next p d
        | .error s => pure (.error (.stop s), d)) n := by
  rw [playFrom, Talk.lift_bind_apply, Eval.on_bind_ok (Eval.on_attempt_of_ne hx hr)]
  cases r <;> rfl

/-- A step without end. -/
theorem on_playFrom_endless {next : Player} {x : Eval Progress}
    (hx : x.on m = (.error .endless, n)) : (playFrom next x d).on m = (.error .endless, n) := by
  rw [playFrom, Talk.lift_bind_apply]
  exact Eval.on_bind_error (Eval.on_attempt_of_endless hx) _

/-- **Running frames to their next pause** is a part of playing them. -/
theorem exists_play_of_drive {rounds : Nat} {outcome : Except Stop Pause}
    (hdrive : (drive ev scope rounds frames).on m = (outcome, n)) (hne : outcome ≠ .error .endless) :
    ∃ k, ∀ fuel, (play ev scope (k + fuel + 1) (.onward frames) d).on m =
      (playOutcome ev scope fuel outcome d).on n := by
  induction rounds generalizing frames m with
  | zero =>
    cases hdrive
    exact absurd rfl hne
  | succ rounds ih =>
    cases frames with
    | nil =>
      cases hdrive
      refine ⟨0, fun fuel => ?_⟩
      rw [Nat.zero_add]
      rfl
    | cons frame frames =>
      rw [drive, Eval.on_bind] at hdrive
      cases hturn : (turn ev scope frame frames).on m with
      | mk r n₁ =>
        rw [hturn] at hdrive
        rcases r with s | rest | pause
        · cases hdrive
          refine ⟨0, fun fuel => ?_⟩
          rw [Nat.zero_add]
          exact on_playFrom hturn (by simpa using hne)
        · obtain ⟨k, hk⟩ := ih hdrive
          refine ⟨k + 1, fun fuel => ?_⟩
          rw [← hk fuel, Nat.add_right_comm k 1 fuel]
          exact on_playFrom hturn (by simp)
        · cases hdrive
          refine ⟨1, fun fuel => ?_⟩
          rw [Nat.add_comm 1 fuel]
          exact on_playFrom hturn (by simp)

/-- **Going on from a `yield`** to the next pause is a part of playing. -/
theorem exists_play_of_driveFrom {targets : List Expr} {action : Resume} {actions : List Resume}
    {said : List Value} {v : Value} {outcome : Except Stop Pause}
    (hdrive : (driveFrom ev scope targets frames action).on m = (outcome, n))
    (hne : outcome ≠ .error .endless) :
    ∃ k, ∀ fuel,
      (play ev scope (k + fuel + 1) (.paused (.yielded v targets frames))
        ⟨action :: actions, said⟩).on m =
      (playOutcome ev scope fuel outcome ⟨actions, said ++ [v]⟩).on n := by
  have hplay (fuel : Nat) : play ev scope (fuel + 1) (.paused (.yielded v targets frames))
      ⟨action :: actions, said⟩ = playFrom (play ev scope fuel)
        (wake ev scope targets frames action) ⟨actions, said ++ [v]⟩ := rfl
  rw [driveFrom, Eval.on_bind] at hdrive
  cases hwake : (wake ev scope targets frames action).on m with
  | mk r n₁ =>
    rw [hwake] at hdrive
    match r with
    | .ok (.onward rest) =>
      obtain ⟨k, hk⟩ := exists_play_of_drive hdrive hne (d := ⟨actions, said ++ [v]⟩)
      refine ⟨k + 1, fun fuel => ?_⟩
      rw [← hk fuel, Nat.add_right_comm k 1 fuel, hplay]
      exact on_playFrom hwake (by simp)
    | .ok (.paused pause) =>
      cases hdrive
      refine ⟨1, fun fuel => ?_⟩
      rw [Nat.add_comm 1 fuel, hplay]
      exact on_playFrom hwake (by simp)
    | .error s =>
      cases hdrive
      refine ⟨0, fun fuel => ?_⟩
      rw [Nat.zero_add, hplay]
      exact on_playFrom hwake (by simpa using hne)

/-- What a part of a play that comes to an end leads to, with less of the turns. -/
def Paused (ev : Evaluator) (scope : ScopeId) (fuel : Nat) (d : Dialogue)
    (played : Except Stop (Except Halt Value × Dialogue) × Machine)
    (driven : Except Stop Pause × Machine) : Prop :=
  driven.1 ≠ .error .endless ∧
    ∃ fuel' < fuel, played = (playOutcome ev scope fuel' driven.1 d).on driven.2

/-- **Frames that are played to an end come to a pause** in as many turns. -/
theorem paused_drive {fuel rounds : Nat} (hle : fuel ≤ rounds)
    (hne : ((play ev scope fuel (.onward frames) d).on m).1 ≠ .error .endless) :
    Paused ev scope fuel d ((play ev scope fuel (.onward frames) d).on m)
      ((drive ev scope rounds frames).on m) := by
  induction fuel generalizing rounds frames m with
  | zero => exact absurd rfl hne
  | succ fuel ih =>
    obtain ⟨rounds, rfl⟩ : ∃ k, rounds = k + 1 := ⟨rounds - 1, by omega⟩
    cases frames with
    | nil => exact ⟨by simp [drive], fuel, Nat.lt_succ_self _, rfl⟩
    | cons frame frames =>
      have hplay : play ev scope (fuel + 1) (.onward (frame :: frames)) d =
          playFrom (play ev scope fuel) (turn ev scope frame frames) d := rfl
      rw [hplay] at hne ⊢
      rw [drive, Eval.on_bind]
      cases hturn : (turn ev scope frame frames).on m with
      | mk r n =>
        by_cases hr : r = .error .endless
        · rw [hr] at hturn
          rw [on_playFrom_endless hturn] at hne
          exact absurd rfl hne
        rw [on_playFrom hturn hr] at hne ⊢
        rcases r with s | rest | pause
        · exact ⟨by simpa using hr, 0, by omega, rfl⟩
        · obtain ⟨hend, fuel', hlt, heq⟩ := ih (Nat.le_of_succ_le_succ hle) hne
          exact ⟨hend, fuel', by omega, heq⟩
        · cases fuel with
          | zero => exact absurd rfl hne
          | succ fuel => exact ⟨by simp, fuel, by omega, rfl⟩

/-- Going on from a `yield` that is played on to an end comes to a pause. -/
theorem paused_driveFrom {targets : List Expr} {action : Resume} {actions : List Resume}
    {said : List Value} {v : Value} {fuel : Nat} (hle : fuel ≤ ev.rounds)
    (hne : ((play ev scope fuel (.paused (.yielded v targets frames))
      ⟨action :: actions, said⟩).on m).1 ≠ .error .endless) :
    Paused ev scope fuel ⟨actions, said ++ [v]⟩
      ((play ev scope fuel (.paused (.yielded v targets frames)) ⟨action :: actions, said⟩).on m)
      ((driveFrom ev scope targets frames action).on m) := by
  cases fuel with
  | zero => exact absurd rfl hne
  | succ fuel =>
    have hplay : play ev scope (fuel + 1) (.paused (.yielded v targets frames))
        ⟨action :: actions, said⟩ = playFrom (play ev scope fuel)
          (wake ev scope targets frames action) ⟨actions, said ++ [v]⟩ := rfl
    rw [hplay] at hne ⊢
    rw [driveFrom, Eval.on_bind]
    cases hwake : (wake ev scope targets frames action).on m with
    | mk r n =>
      by_cases hr : r = .error .endless
      · rw [hr] at hwake
        rw [on_playFrom_endless hwake] at hne
        exact absurd rfl hne
      rw [on_playFrom hwake hr] at hne ⊢
      match r with
      | .ok (.onward rest) =>
        have hrounds : fuel ≤ driveRounds ev frames := by
          unfold driveRounds
          omega
        obtain ⟨hend, fuel', hlt, heq⟩ := paused_drive hrounds hne
        exact ⟨hend, fuel', by omega, heq⟩
      | .ok (.paused pause) =>
        cases fuel with
        | zero => exact absurd rfl hne
        | succ fuel => exact ⟨by simp, fuel, by omega, rfl⟩
      | .error s => exact ⟨by simpa using hr, 0, by omega, rfl⟩

end Play

/-! ## All resumes -/

/-- **Resume a generator** for each of the actions, up to the first that does not
yield. The answer is what was yielded, and what the last resume stopped with. -/
def resumeAll (ev : Evaluator) (id : GeneratorId) :
    List Resume → Eval (List Value × Option Stop)
  | [] => return ([], none)
  | action :: actions => do
    match ← Eval.attempt (ev.resume id action) with
    | .ok v =>
      let (values, ending) ← resumeAll ev id actions
      return (v :: values, ending)
    | .error s => return ([], some s)

/-- What the caller of a generator sees of the end of a conversation. -/
def Halt.ending : Except Halt Value → Option Stop
  | .ok v => some (.fault (.exhausted v))
  | .error (.stop s) => some (escaped s)
  | .error .waiting => none

/-- Where the end of a conversation leaves a generator. -/
def Halt.Leaves : Except Halt Value → GeneratorState → Prop
  | .ok v, state => state = .completed (.returned v)
  | .error (.stop s), state => state = .completed (.stopped (escaped s))
  | .error .waiting, state => ∃ targets frames, state = .suspended targets frames

/-- **What was said is what the resumes yielded**, and the machine after them is
the one that the conversation ended on, put to rest. -/
structure Rests (m : Machine) (id : GeneratorId) (values : List Value) (ending : Option Stop)
    (m' : Machine) (said : List Value) (r : Except Halt Value) (d : Dialogue) (n : Machine) :
    Prop where
  yielded : d.yielded = said ++ values
  ending : Halt.ending r = ending
  machine : ∃ state, Halt.Leaves r state ∧ m' = m.resting n id state

/-- What is played with enough turns. -/
def Plays (p : Nat → Eval (Except Halt Value × Dialogue)) (m : Machine)
    (post : Except Halt Value → Dialogue → Machine → Prop) : Prop :=
  ∃ k r d n, post r d n ∧ ∀ fuel, (p (k + fuel + 1)).on m = (.ok (r, d), n)

section All

variable {bound : Nat} {m' : Machine} {values : List Value} {ending : Option Stop}

/-- **What resumes do**, given how the body ended in the first of them. -/
theorem on_resumeAll_cons {state : GeneratorState} {targets : List Expr} {frames : List Frame}
    {action : Resume} (actions : List Resume) {outcome : Except Stop Pause}
    (hstate : m.scopes.generator? id.scope = some state)
    (hwaiting : Waiting state action targets frames) (hdepth : m.depth < m.config.maxCallDepth)
    (hdrive : (driveFrom (.bounded bound) id.scope targets frames action).on (m.driving id frames) =
      (outcome, n)) (hne : outcome ≠ .error .endless) :
    (resumeAll (.bounded (bound + 1)) id (action :: actions)).on m =
      match outcome with
      | .ok (.yielded v targets frames) =>
        (resumeAll (.bounded (bound + 1)) id actions >>= fun r => pure (v :: r.1, r.2)).on
          (m.resting n id (.suspended targets frames))
      | .ok (.returned v) => (.ok ([], some (.fault (.exhausted v))),
        m.resting n id (.completed (.returned v)))
      | .error s => (.ok ([], some (escaped s)),
        m.resting n id (.completed (.stopped (escaped s)))) := by
  have hresume : ((Evaluator.bounded (bound + 1)).resume id action).on m =
      (verdict outcome, m.resting n id (restState outcome)) :=
    on_resume_of_waiting hstate hwaiting hdepth hdrive hne
  rw [resumeAll, Eval.on_bind_ok (Eval.on_attempt_of_ne hresume (verdict_ne_endless hne))]
  match outcome with
  | .ok (.yielded v targets frames) | .ok (.returned v) | .error s => rfl

/-- Resumes are endless if the body is in the first of them. -/
theorem on_resumeAll_endless {state : GeneratorState} {targets : List Expr} {frames : List Frame}
    {action : Resume} (actions : List Resume)
    (hstate : m.scopes.generator? id.scope = some state)
    (hwaiting : Waiting state action targets frames) (hdepth : m.depth < m.config.maxCallDepth)
    (hdrive : (driveFrom (.bounded bound) id.scope targets frames action).on (m.driving id frames) =
      (.error .endless, n)) :
    ((resumeAll (.bounded (bound + 1)) id (action :: actions)).on m).1 = .error .endless := by
  have hend : (((Evaluator.bounded (bound + 1)).resume id action).on m).1 = .error .endless :=
    on_resume_of_waiting_endless hstate hwaiting hdepth hdrive
  rw [resumeAll, Eval.on_bind, Eval.on_attempt_of_endless (Prod.ext hend rfl)]

/-- A body that waits at a `yield` again is at rest where it waits. -/
theorem resting_of_yielded {state : GeneratorState} {targets targets' : List Expr}
    {frames frames' : List Frame} {action : Resume} {v : Value}
    (hstate : m.scopes.generator? id.scope = some state)
    (hwaiting : Waiting state action targets frames) (hdepth : m.depth < m.config.maxCallDepth)
    (hdrive : (driveFrom (.bounded bound) id.scope targets frames action).on (m.driving id frames) =
      (.ok (.yielded v targets' frames'), n)) :
    let m₁ := m.resting n id (.suspended targets' frames')
    m₁.scopes.generator? id.scope = some (.suspended targets' frames') ∧
      m₁.depth < m₁.config.maxCallDepth ∧ m₁.driving id frames' = n := by
  have hstanding : n.standing = m.standing.called.within frames' :=
    standing_of_driveFrom hdrive (by simp)
  have hrunning := running_of_driveFrom hstate hwaiting.step hdrive (by simp)
  refine ⟨n.scopes.generator?_setGenerator_self id.scope hrunning _, ?_,
    driving_resting hstanding hrunning _⟩
  show m.depth < n.config.maxCallDepth
  rw [show n.config = m.config from congrArg Standing.config hstanding]
  exact hdepth

/-- The resumes after the first do what is played after it. -/
theorem plays_of_outcome {targets : List Expr} {frames : List Frame} {state : GeneratorState}
    {action : Resume} {actions : List Resume} {said : List Value}
    (hstate : m.scopes.generator? id.scope = some state)
    (hwaiting : Waiting state action targets frames) (hdepth : m.depth < m.config.maxCallDepth)
    (hall : (resumeAll (.bounded (bound + 1)) id (action :: actions)).on m =
      (.ok (values, ending), m'))
    (hnext : ∀ {m₁ : Machine} {values : List Value} {targets : List Expr} {frames : List Frame},
      m₁.scopes.generator? id.scope = some (.suspended targets frames) →
      m₁.depth < m₁.config.maxCallDepth →
      (resumeAll (.bounded (bound + 1)) id actions).on m₁ = (.ok (values, ending), m') → ∀ v,
      Plays (fun fuel => play (.bounded bound) id.scope fuel (.paused (.yielded v targets frames))
        ⟨actions, said⟩) (m₁.driving id frames) (Rests m₁ id values ending m' (said ++ [v])))
    {p : Nat → Eval (Except Halt Value × Dialogue)}
    (hp : ∀ {outcome : Except Stop Pause} {n : Machine},
      (driveFrom (.bounded bound) id.scope targets frames action).on (m.driving id frames) =
        (outcome, n) → outcome ≠ .error .endless →
      ∃ k, ∀ fuel, (p (k + fuel + 1)).on (m.driving id frames) =
        (playOutcome (.bounded bound) id.scope fuel outcome ⟨actions, said⟩).on n) :
    Plays p (m.driving id frames) (Rests m id values ending m' said) := by
  cases hdrive : (driveFrom (.bounded bound) id.scope targets frames action).on
      (m.driving id frames) with
  | mk outcome n =>
    by_cases hne : outcome = .error .endless
    · subst hne
      have hend := on_resumeAll_endless actions hstate hwaiting hdepth hdrive
      rw [hall] at hend
      cases hend
    obtain ⟨k, hk⟩ := hp hdrive hne
    rw [on_resumeAll_cons actions hstate hwaiting hdepth hdrive hne] at hall
    match outcome with
    | .ok (.yielded w targets' frames') =>
      obtain ⟨hstate', hdepth', hdriving⟩ := resting_of_yielded hstate hwaiting hdepth hdrive
      dsimp only at hall
      rw [Eval.on_bind] at hall
      cases hrest : (resumeAll (.bounded (bound + 1)) id actions).on
          (m.resting n id (.suspended targets' frames')) with
      | mk r m₂ =>
        rw [hrest] at hall
        match r with
        | .error s => cases hall
        | .ok (rest, e) =>
          obtain ⟨hresult, rfl⟩ := Prod.mk.inj hall
          cases hresult
          obtain ⟨k', r, d, n', hrests, hk'⟩ := hnext hstate' hdepth' hrest w
          refine ⟨k + k', r, d, n', ⟨?_, hrests.ending, hrests.machine⟩, fun fuel => ?_⟩
          · rw [hrests.yielded, List.append_assoc]
            rfl
          · rw [hdriving] at hk'
            rw [← hk' fuel, Nat.add_assoc k k' fuel]
            exact hk (k' + fuel)
    | .ok (.returned w) =>
      cases hall
      exact ⟨k, .ok w, ⟨actions, said⟩, n, ⟨by simp, rfl, _, rfl, rfl⟩, hk⟩
    | .error s =>
      cases hall
      exact ⟨k, .error (.stop s), ⟨actions, said⟩, n, ⟨by simp, rfl, _, rfl, rfl⟩, hk⟩

/-- **Resuming a generator that waits at a `yield`** again and again is playing
its body. -/
theorem plays_of_suspended {targets : List Expr} {frames : List Frame} {actions : List Resume}
    (hstate : m.scopes.generator? id.scope = some (.suspended targets frames))
    (hdepth : m.depth < m.config.maxCallDepth)
    (hall : (resumeAll (.bounded (bound + 1)) id actions).on m = (.ok (values, ending), m'))
    (v : Value) (said : List Value) :
    Plays (fun fuel => play (.bounded bound) id.scope fuel (.paused (.yielded v targets frames))
      ⟨actions, said⟩) (m.driving id frames) (Rests m id values ending m' (said ++ [v])) := by
  induction actions generalizing m targets frames values v said with
  | nil =>
    obtain ⟨hresult, rfl⟩ := Prod.mk.inj hall
    cases hresult
    refine ⟨0, .error .waiting, ⟨[], said ++ [v]⟩, m.driving id frames,
      ⟨by simp, rfl, .suspended targets frames, ⟨targets, frames, rfl⟩, ?_⟩, fun fuel => ?_⟩
    · have hscopes := m.scopes.setGenerator_setGenerator id.scope .running (.suspended targets frames)
      rw [m.scopes.setGenerator_of_generator? _ hstate] at hscopes
      simp only [Machine.resting, Machine.driving, hscopes]
    · rw [Nat.zero_add]
      rfl
  | cons action actions ih =>
    exact plays_of_outcome hstate (.suspended targets frames action) hdepth hall
      (fun hstate hdepth hall v' => ih hstate hdepth hall v' (said ++ [v]))
      fun hdrive hne => exists_play_of_driveFrom hdrive hne

/-- **Resuming a generator from its start** is playing its body. -/
theorem plays_of_notStarted {body : Block} {actions : List Resume}
    (hstate : m.scopes.generator? id.scope = some (.notStarted body))
    (hdepth : m.depth < m.config.maxCallDepth)
    (hall : (resumeAll (.bounded (bound + 1)) id (.send .none :: actions)).on m =
      (.ok (values, ending), m')) :
    Plays (fun fuel => play (.bounded bound) id.scope fuel (.onward [.suite body]) ⟨actions, []⟩)
      (m.driving id [.suite body]) (Rests m id values ending m' []) :=
  plays_of_outcome hstate (.notStarted body) hdepth hall
    (fun hstate hdepth hall v => plays_of_suspended hstate hdepth hall v [])
    fun hdrive hne => exists_play_of_drive hdrive hne

/-- The resumes come to an end if what is played does. -/
theorem ends_of_paused {state : GeneratorState} {targets : List Expr} {frames : List Frame}
    {action : Resume} {actions : List Resume} {said : List Value} {fuel : Nat}
    {played : Except Stop (Except Halt Value × Dialogue) × Machine}
    (hstate : m.scopes.generator? id.scope = some state)
    (hwaiting : Waiting state action targets frames) (hdepth : m.depth < m.config.maxCallDepth)
    (hpaused : Paused (.bounded bound) id.scope fuel ⟨actions, said⟩ played
      ((driveFrom (.bounded bound) id.scope targets frames action).on (m.driving id frames)))
    (hne : played.1 ≠ .error .endless)
    (hnext : ∀ {m₁ : Machine} {v : Value} {targets : List Expr} {frames : List Frame},
      m₁.scopes.generator? id.scope = some (.suspended targets frames) →
      m₁.depth < m₁.config.maxCallDepth → ∀ {fuel' : Nat}, fuel' < fuel →
      ((play (.bounded bound) id.scope (fuel' + 1) (.paused (.yielded v targets frames))
        ⟨actions, said⟩).on (m₁.driving id frames)).1 ≠ .error .endless →
      ∃ result m', (resumeAll (.bounded (bound + 1)) id actions).on m₁ = (.ok result, m')) :
    ∃ result m', (resumeAll (.bounded (bound + 1)) id (action :: actions)).on m =
      (.ok result, m') := by
  cases hdrive : (driveFrom (.bounded bound) id.scope targets frames action).on
      (m.driving id frames) with
  | mk outcome n =>
    rw [hdrive] at hpaused
    obtain ⟨hend, fuel', hlt, heq⟩ := hpaused
    rw [on_resumeAll_cons actions hstate hwaiting hdepth hdrive hend]
    match outcome with
    | .ok (.yielded w targets' frames') =>
      obtain ⟨hstate', hdepth', hdriving⟩ := resting_of_yielded hstate hwaiting hdepth hdrive
      rw [heq, ← hdriving] at hne
      obtain ⟨result, m', hrest⟩ := hnext hstate' hdepth' hlt hne
      exact ⟨(w :: result.1, result.2), m', Eval.on_bind_ok hrest _⟩
    | .ok (.returned w) => exact ⟨_, _, rfl⟩
    | .error s => exact ⟨_, _, rfl⟩

/-- **Resumes of a generator that waits at a `yield` come to an end** if playing its
body does, given as much room as it took turns. -/
theorem ends_of_suspended {targets : List Expr} {frames : List Frame} {actions : List Resume}
    {said : List Value} {v : Value} {fuel : Nat}
    (hstate : m.scopes.generator? id.scope = some (.suspended targets frames))
    (hdepth : m.depth < m.config.maxCallDepth) (hle : fuel ≤ bound)
    (hne : ((play (.bounded bound) id.scope fuel (.paused (.yielded v targets frames))
      ⟨actions, said⟩).on (m.driving id frames)).1 ≠ .error .endless) :
    ∃ result m', (resumeAll (.bounded (bound + 1)) id actions).on m = (.ok result, m') := by
  induction actions generalizing m targets frames said v fuel with
  | nil => exact ⟨_, _, rfl⟩
  | cons action actions ih =>
    have hrounds : fuel ≤ (Evaluator.bounded bound).rounds := by
      rw [rounds_bounded]
      exact hle
    refine ends_of_paused hstate (.suspended targets frames action) hdepth
      (paused_driveFrom hrounds hne) hne fun hstate hdepth _ hlt hne => ?_
    exact ih hstate hdepth (Nat.le_trans hlt hle) hne

/-- **Resumes of a generator from its start come to an end** if playing its body
does. -/
theorem ends_of_notStarted {body : Block} {actions : List Resume} {fuel : Nat}
    (hstate : m.scopes.generator? id.scope = some (.notStarted body))
    (hdepth : m.depth < m.config.maxCallDepth) (hle : fuel ≤ bound)
    (hne : ((play (.bounded bound) id.scope fuel (.onward [.suite body]) ⟨actions, []⟩).on
      (m.driving id [.suite body])).1 ≠ .error .endless) :
    ∃ result m', (resumeAll (.bounded (bound + 1)) id (.send .none :: actions)).on m =
      (.ok result, m') := by
  have hrounds : fuel ≤ driveRounds (.bounded bound) [.suite body] := by
    rw [driveRounds, rounds_bounded]
    omega
  refine ends_of_paused hstate (.notStarted body) hdepth (paused_drive hrounds hne) hne
    fun hstate hdepth _ hlt hne => ?_
  exact ends_of_suspended hstate hdepth (Nat.le_trans hlt hle) hne

end All

end MeteredScript
