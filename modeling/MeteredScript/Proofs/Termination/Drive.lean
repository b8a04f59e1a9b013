import MeteredScript.Proofs.Termination.Statement

/-!
# Generators come to an end

The machine that runs the frames of a generator takes its turns in a loop, and after a
charge that failed it goes on: a `finally` block is entered, only to find that there is no gas
for it. So the turns are not only paid for with gas. A charge that is paid may open one `try`
statement, and a charge that is not takes one away, which is why `Terminating.drive` counts
two turns for each charge that can be paid and one for each `try` statement that is open.

On the way nothing is left pending that has no end.
-/

namespace MeteredScript

open Coupling Eval

/-! ## Frames -/

/-- The frames that are put away at a pause are definite. -/
def Pause.Definite : Pause → Prop
  | .yielded _ _ frames => FramesDefinite frames
  | .returned _ => True

/-- The frames that a step leads to are definite. -/
def Progress.Definite : Progress → Prop
  | .onward frames => FramesDefinite frames
  | .paused pause => pause.Definite

theorem framesDefinite_suiteOf {block : Option Block} {frames : List Frame}
    (hf : FramesDefinite frames) : FramesDefinite (suiteOf block frames) := by
  cases block with
  | none => exact hf
  | some block => exact framesDefinite_cons.2 ⟨trivial, hf⟩

theorem framesDefinite_enterCleanup {cleanup : Option Block} {pending : Option Stop}
    {frames : List Frame} (hp : pending ≠ some .endless) (hf : FramesDefinite frames) :
    FramesDefinite (enterCleanup cleanup pending frames) := by
  cases cleanup with
  | none => exact hf
  | some block => exact framesDefinite_cons.2 ⟨trivial, framesDefinite_cons.2 ⟨hp, hf⟩⟩

theorem escaped_ne_endless {s : Stop} (hs : s ≠ .endless) : escaped s ≠ .endless := by
  unfold escaped
  split
  · simp
  · exact hs

/-- What is known of the frames that take care of a stop: they are definite, and without any
a stop is given back that is an end. -/
abbrev Recovered (r : Except Stop (List Frame)) : Prop :=
  IfOk FramesDefinite r ∧ r ≠ .error .endless

theorem recovered_ok {frames : List Frame} (hf : FramesDefinite frames) : Recovered (.ok frames) :=
  ⟨ifOk_ok hf, nofun⟩

theorem recovered_error {stop : Stop} (hs : stop ≠ .endless) : Recovered (.error stop) :=
  ⟨ifOk_error stop, fun hend => hs (Except.error.inj hend)⟩

/-! ## Frames without gas

No handler is looked for when the gas has run out, so nothing is asked of an evaluator. -/

section Exhausted

variable {b : Nat} (ev ev' : Evaluator) (s : ScopeId)

/-- **The lack of gas closes a `try` statement** if it stops anywhere. -/
theorem halts_unwind_gasExhausted {frames : List Frame} (hf : FramesDefinite frames) :
    HaltsOf b (fun r => Recovered r ∧ ∀ rest, r = .ok rest → tryFrames rest < tryFrames frames)
      (unwind ev s .gasExhausted frames) (unwind ev' s .gasExhausted frames) := by
  induction frames with
  | nil => exact HaltsOf.pure ⟨recovered_error (by simp), nofun⟩
  | cons frame frames ih =>
    obtain ⟨-, hrest⟩ := framesDefinite_cons.1 hf
    have hcleanup {frame : Frame} (hlt : tryFrames frames < tryFrames (frame :: frames))
        (cleanup : Option Block) :
        HaltsOf b
          (fun r => Recovered r ∧
            ∀ rest, r = .ok rest → tryFrames rest < tryFrames (frame :: frames))
          (if cleanup.isSome then
            Pure.pure (.ok (enterCleanup cleanup (some .gasExhausted) frames))
          else unwind ev s .gasExhausted frames)
          (if cleanup.isSome then
            Pure.pure (.ok (enterCleanup cleanup (some .gasExhausted) frames))
          else unwind ev' s .gasExhausted frames) := by
      split
      · refine HaltsOf.pure ⟨recovered_ok (framesDefinite_enterCleanup (by simp) hrest), ?_⟩
        rintro rest ⟨⟩
        rwa [tryFrames_enterCleanup]
      · exact (ih hrest).mono fun r hr =>
          ⟨hr.1, fun rest hok => Nat.lt_trans (hr.2 rest hok) hlt⟩
    match frame with
    | .suite _ | .cleanup _ | .whileLoop .. | .forLoop .. => exact ih hrest
    | .guarded _ _ cleanup => exact hcleanup (Nat.lt_succ_self _) cleanup
    | .afterBody cleanup => exact hcleanup (Nat.lt_succ_self _) cleanup
    | .handling _ cleanup =>
      exact HaltsOf.bind Halts.popHandling fun _ _ => hcleanup (Nat.lt_succ_self _) cleanup

theorem halts_recover_gasExhausted {frames : List Frame} (hf : FramesDefinite frames) :
    HaltsOf b
      (fun p => p.Definite ∧ ∀ rest, p = .onward rest → tryFrames rest < tryFrames frames)
      (recover ev s .gasExhausted frames) (recover ev' s .gasExhausted frames) := by
  refine HaltsOf.bind (halts_unwind_gasExhausted ev ev' s hf) fun r hr => ?_
  match r, hr with
  | .ok rest, ⟨⟨hrest, _⟩, hlt⟩ =>
    refine HaltsOf.pure ⟨hrest rest rfl, ?_⟩
    rintro _ ⟨⟩
    exact hlt rest rfl
  | .error (.returns v), _ => exact HaltsOf.pure ⟨trivial, nofun⟩
  | .error .endless, hr => exact absurd rfl hr.1.2
  | .error (.fault _), _ | .error .breaks, _ | .error .continues, _
  | .error .gasExhausted, _ => exact HaltsOf.throw (by simp)

end Exhausted

namespace Terminating

variable {b β : Nat} {ev ev' : Evaluator}

section Step

variable (h : Terminating b ev ev') (s : ScopeId)

include h

/-! ## One unit of work -/

theorem suspendAt (operand : Option Expr) (targets : List Expr) {frames : List Frame}
    (hf : FramesDefinite frames) :
    HaltsOf b Progress.Definite (suspendAt ev s operand targets frames)
      (suspendAt ev' s operand targets frames) := by
  cases operand with
  | none => exact HaltsOf.pure hf
  | some e => exact HaltsOf.bind (h.eval e s) fun _ _ => HaltsOf.pure hf

theorem beginStmt (st : Stmt) {frames : List Frame} (hf : FramesDefinite frames) :
    HaltsOf b Progress.Definite (beginStmt ev s st frames) (beginStmt ev' s st frames) := by
  have hpush {frame : Frame} (hframe : frame.Definite) : FramesDefinite (frame :: frames) :=
    framesDefinite_cons.2 ⟨hframe, hf⟩
  have hwhole : HaltsOf b Progress.Definite (do ev.exec st s; return Progress.onward frames)
      (do ev'.exec st s; return Progress.onward frames) :=
    HaltsOf.bind (h.exec st s) fun _ _ => HaltsOf.pure hf
  obtain ⟨span, form⟩ := st
  unfold MeteredScript.beginStmt
  dsimp only at hwhole ⊢
  split
  · exact h.suspendAt s _ _ hf
  · exact h.suspendAt s _ _ hf
  · refine HaltsOf.bind (h.holds s _) fun _ _ => ?_
    exact HaltsOf.ite (HaltsOf.pure (hpush trivial)) (HaltsOf.pure (framesDefinite_suiteOf hf))
  · exact HaltsOf.pure (hpush trivial)
  · refine HaltsOf.bind (h.eval _ s) fun v _ => HaltsOf.bind (Halts.startIteration v) fun _ _ => ?_
    exact HaltsOf.pure (hpush trivial)
  · exact HaltsOf.pure (framesDefinite_cons.2 ⟨trivial, hpush trivial⟩)
  · refine HaltsOf.bind (h.eval _ s) fun v _ => HaltsOf.bind (h.selectCase s v _) fun _ _ => ?_
    exact HaltsOf.pure (framesDefinite_suiteOf hf)
  · exact hwhole

/-- **A unit of work ends.** -/
theorem advanceFrame {frame : Frame} (hframe : frame.Definite) {frames : List Frame}
    (hf : FramesDefinite frames) :
    HaltsOf b Progress.Definite (advanceFrame ev s frame frames)
      (advanceFrame ev' s frame frames) := by
  have hpush {frame : Frame} (hframe : frame.Definite) : FramesDefinite (frame :: frames) :=
    framesDefinite_cons.2 ⟨hframe, hf⟩
  have hcleanup (cleanup : Option Block) :
      HaltsOf b Progress.Definite
        (Pure.pure (Progress.onward (enterCleanup cleanup none frames)))
        (Pure.pure (Progress.onward (enterCleanup cleanup none frames))) :=
    HaltsOf.pure (framesDefinite_enterCleanup (by simp) hf)
  match frame with
  | .suite [] => exact HaltsOf.pure hf
  | .suite (st :: rest) =>
    unfold MeteredScript.advanceFrame
    refine HaltsOf.ite (h.beginStmt s st (hpush trivial)) ?_
    exact HaltsOf.bind (h.exec st s) fun _ _ => HaltsOf.pure (hpush trivial)
  | .whileLoop condition body orElse =>
    refine HaltsOf.bind (h.holds s condition) fun _ _ => HaltsOf.ite ?_ ?_
    · exact HaltsOf.pure (framesDefinite_cons.2 ⟨trivial, hpush trivial⟩)
    · exact HaltsOf.pure (framesDefinite_suiteOf hf)
  | .forLoop target body orElse cursor =>
    refine HaltsOf.bind (h.next? cursor) fun next _ => ?_
    match next with
    | none => exact HaltsOf.pure (framesDefinite_suiteOf hf)
    | some (item, cursor) =>
      refine HaltsOf.bind (h.assignTarget target item) fun _ _ => ?_
      exact HaltsOf.pure (framesDefinite_cons.2 ⟨trivial, hpush trivial⟩)
  | .guarded handlers (some block) cleanup =>
    exact HaltsOf.pure (framesDefinite_cons.2 ⟨trivial, hpush trivial⟩)
  | .guarded handlers none cleanup => exact hcleanup cleanup
  | .afterBody cleanup => exact hcleanup cleanup
  | .handling f cleanup => exact HaltsOf.bind Halts.popHandling fun _ _ => hcleanup cleanup
  | .cleanup (some pending) => exact HaltsOf.throw fun hp => hframe (by rw [hp])
  | .cleanup none => exact HaltsOf.pure hf

/-! ## Stops -/

theorem enterHandler (handlers : List Handler) (cleanup : Option Block) {stop : Stop}
    (hs : stop ≠ .endless) {frames : List Frame} (hf : FramesDefinite frames) :
    HaltsOf b Recovered (enterHandler ev s handlers cleanup stop frames)
      (enterHandler ev' s handlers cleanup stop frames) := by
  match stop, hs with
  | .fault f, _ =>
    refine (h.findHandler s f.exceptionKind handlers).attempt_bind fun found _ hne => ?_
    match found, hne with
    | .ok (some handler), _ =>
      refine HaltsOf.bind (Halts.bindException s handler f) fun _ _ => ?_
      refine HaltsOf.bind (Halts.pushHandling f) fun _ _ => HaltsOf.pure (recovered_ok ?_)
      exact framesDefinite_cons.2 ⟨trivial, framesDefinite_cons.2 ⟨trivial, hf⟩⟩
    | .ok none, _ => exact HaltsOf.pure (recovered_error (by simp))
    | .error raised, hne => exact HaltsOf.pure (recovered_error fun hr => hne (by rw [hr]))
  | .returns _, hs | .breaks, hs | .continues, hs | .gasExhausted, hs | .endless, hs =>
    exact HaltsOf.pure (recovered_error hs)

/-- **The search for the frames that take care of a stop ends.** -/
theorem unwind {stop : Stop} (hs : stop ≠ .endless) {frames : List Frame}
    (hf : FramesDefinite frames) :
    HaltsOf b Recovered (unwind ev s stop frames) (unwind ev' s stop frames) := by
  induction frames generalizing stop with
  | nil => exact HaltsOf.pure (recovered_error hs)
  | cons frame frames ih =>
    obtain ⟨-, hrest⟩ := framesDefinite_cons.1 hf
    have hcleanup (cleanup : Option Block) {stop : Stop} (hs : stop ≠ .endless) :
        HaltsOf b Recovered
          (if cleanup.isSome then Pure.pure (.ok (enterCleanup cleanup (some stop) frames))
            else MeteredScript.unwind ev s stop frames)
          (if cleanup.isSome then Pure.pure (.ok (enterCleanup cleanup (some stop) frames))
            else MeteredScript.unwind ev' s stop frames) :=
      HaltsOf.ite
        (HaltsOf.pure (recovered_ok (framesDefinite_enterCleanup (by simpa using hs) hrest)))
        (ih hs hrest)
    match frame with
    | .suite _ | .cleanup _ => exact ih hs hrest
    | .whileLoop .. | .forLoop .. =>
      -- a loop stays among the frames if it goes on with its next turn
      match stop, hs with
      | .breaks, _ => exact HaltsOf.pure (recovered_ok hrest)
      | .continues, _ => exact HaltsOf.pure (recovered_ok hf)
      | .fault _, hs | .returns _, hs | .gasExhausted, hs | .endless, hs => exact ih hs hrest
    | .guarded handlers orElse cleanup =>
      refine HaltsOf.bind (h.enterHandler s handlers cleanup hs hrest) fun r hr => ?_
      match r, hr with
      | .ok rest, hr => exact HaltsOf.pure hr
      | .error stop, hr => exact hcleanup cleanup fun hs => hr.2 (by rw [hs])
    | .afterBody cleanup => exact hcleanup cleanup hs
    | .handling f cleanup => exact HaltsOf.bind Halts.popHandling fun _ _ => hcleanup cleanup hs

theorem recover {stop : Stop} (hs : stop ≠ .endless) {frames : List Frame}
    (hf : FramesDefinite frames) :
    HaltsOf b Progress.Definite (recover ev s stop frames) (recover ev' s stop frames) := by
  refine HaltsOf.bind (h.unwind s hs hf) fun r hr => ?_
  match r, hr with
  | .ok rest, hr => exact HaltsOf.pure (hr.1 rest rfl)
  | .error (.returns v), _ => exact HaltsOf.pure trivial
  | .error .endless, hr => exact absurd rfl hr.2
  | .error (.fault _), _ | .error .breaks, _ | .error .continues, _
  | .error .gasExhausted, _ => exact HaltsOf.throw (by simp)

/-! ## Turns -/

/-- What is left of a turn once its gas is paid ends. -/
theorem paidTurn {frame : Frame} (hframe : frame.Definite) {frames : List Frame}
    (hf : FramesDefinite frames) :
    HaltsOf b Progress.Definite (paidTurnWith (fun _ x => x) ev s frame frames)
      (paidTurnWith (fun _ x => x) ev' s frame frames) := by
  refine (h.advanceFrame s hframe hf).attempt_bind fun r hr hne => ?_
  match r, hr, hne with
  | .ok progress, hr, _ => exact HaltsOf.pure (hr progress rfl)
  | .error stop, _, hne => exact h.recover s (fun hs => hne (by rw [hs])) hf

theorem wake (targets : List Expr) {frames : List Frame} (hf : FramesDefinite frames) (r : Resume) :
    HaltsOf b Progress.Definite (wake ev s targets frames r) (wake ev' s targets frames r) := by
  have hdeliver : Halts b (deliver ev s targets r) (deliver ev' s targets r) := by
    cases r with
    | send v => exact h.assignAll s v targets
    | throw e => exact Halts.fail _
  refine hdeliver.attempt_bind fun r _ hne => ?_
  match r, hne with
  | .ok (), _ => exact HaltsOf.pure hf
  | .error stop, hne => exact h.recover s (fun hs => hne (by rw [hs])) hf

end Step

/-- **Frames are run to an end**: there are two turns for each unit of gas that is left, one
of which a `try` statement may ask for that was opened in the other, and one for each
`try` statement that is open. -/
theorem drive (h : Terminating β ev ev') (s : ScopeId) (hb : b ≤ β + 3) {n n' : Nat}
    {frames : List Frame} (hn : b < 3 ∨ tryFrames frames + 2 * (b / 3) < n) (hle : n ≤ n')
    (hf : FramesDefinite frames) :
    HaltsOf b Pause.Definite (drive ev s n frames) (drive ev' s n' frames) := by
  induction n generalizing b frames n' with
  | zero => exact HaltsOf.endless (by omega)
  | succ n ih =>
    obtain ⟨n', rfl⟩ : ∃ k, n' = k + 1 := ⟨n' - 1, by omega⟩
    cases frames with
    | nil => exact HaltsOf.pure trivial
    | cons frame frames =>
      obtain ⟨hframe, hrest⟩ := framesDefinite_cons.1 hf
      rw [drive_cons, drive_cons]
      refine HaltsOf.attempt_tick ?_ ?_
      · -- one more `try` statement may be open, but there is one charge less to come
        have hpaid := ((h.paidTurn s hframe hrest).within (b := b - 3) (by omega)).and_gives
          (tries_paidTurn ev s frame frames)
        refine hpaid.bind fun p hp => ?_
        obtain ⟨hp, htries⟩ := hp
        cases p with
        | onward rest =>
          have htries : tryFrames rest ≤ tryFrames (frame :: frames) + 1 := htries
          exact ih (by omega) (by omega) (by omega) hp
        | paused pause => exact HaltsOf.pure hp
      · -- no gas was left to take, but then a `try` statement is closed
        refine HaltsOf.bind (halts_recover_gasExhausted ev ev' s hf) fun p hp => ?_
        obtain ⟨hp, hlt⟩ := hp
        cases p with
        | onward rest =>
          have hlt := hlt rest rfl
          exact ih hb (by omega) (by omega) hp
        | paused pause => exact HaltsOf.pure hp

/-- **From a `yield` to the next one**, given the first step. -/
theorem driveFrom (h : Terminating β ev ev') (s : ScopeId) (hb : b ≤ β + 3)
    (targets : List Expr) {frames : List Frame} {r : Resume}
    (hwake : HaltsOf b Progress.Definite (MeteredScript.wake ev s targets frames r)
      (MeteredScript.wake ev' s targets frames r)) :
    HaltsOf b Pause.Definite (driveFrom ev s targets frames r)
      (driveFrom ev' s targets frames r) := by
  have hlength := tryFrames_le_length frames
  have henough := h.enough
  have hrounds := h.rounds_le
  refine (hwake.and_gives (tries_wake ev s targets frames r)).bind fun p hp => ?_
  match p, hp with
  | .onward rest, ⟨hp, htries⟩ =>
    have htries : tryFrames rest ≤ tryFrames frames := htries
    refine h.drive s hb (.inr ?_) ?_ hp
    · unfold driveRounds
      omega
    · unfold driveRounds
      omega
  | .paused pause, ⟨hp, _⟩ => exact HaltsOf.pure hp

/-! ## The protocol -/

theorem settle (id : GeneratorId) {outcome : Except Stop Pause}
    (ho : IfOk Pause.Definite outcome ∧ outcome ≠ .error .endless) :
    Halts b (settle id outcome) (settle id outcome) := by
  match outcome with
  | .ok (.yielded v targets frames) =>
    refine (Halts.setGeneratorState id ?_).bind fun _ => Halts.pure v
    exact ho.1 _ rfl
  | .ok (.returned v) => exact (Halts.complete id _).bind fun _ => Halts.fail _
  | .error s =>
    refine (Halts.complete id _).bind fun _ => HaltsOf.throw ?_
    exact escaped_ne_endless fun hs => ho.2 (by rw [hs])

/-- **A generator that is resumed comes to its next `yield` or to an end**, given the first
step. -/
theorem resumeGenerator (h : Terminating β ev ev') (hb : b ≤ β + 3) (id : GeneratorId)
    {r : Resume}
    (hwake : ∀ targets {frames}, FramesDefinite frames →
      HaltsOf b Progress.Definite (MeteredScript.wake ev id.scope targets frames r)
        (MeteredScript.wake ev' id.scope targets frames r)) :
    Halts b (resumeGenerator ev id r) (resumeGenerator ev' id r) := by
  have hrun (targets : List Expr) {frames : List Frame} (hf : FramesDefinite frames) :
      Halts b (runSuspended ev id targets frames r) (runSuspended ev' id targets frames r) := by
    refine HaltsOf.bind (HaltsOf.inFrame (P := Pause.Definite) ?_) fun outcome ho => settle id ho
    refine HaltsOf.bind (Halts.setGeneratorState id trivial) fun _ _ => ?_
    have hdrive := h.driveFrom id.scope hb targets (hwake targets hf)
    refine HaltsOf.bind (hdrive.withHandled (handledBy frames)) fun result hr => ?_
    match result, hr with
    | .ok pause, hr => exact HaltsOf.pure (hr.1 pause rfl)
    | .error s, hr => exact HaltsOf.throw fun hs => hr.2 (by rw [hs])
  refine HaltsOf.bind (HaltsOf.generatorState id) fun state hs => ?_
  match state, r, hs with
  | .running, _, _ => exact Halts.fail _
  | .completed _, .send _, _ => exact Halts.fail _
  | .completed _, .throw _, _ => exact Halts.fail _
  | .notStarted _, .throw _, _ =>
    exact (Halts.complete id _).bind fun _ => Halts.fail _
  | .notStarted body, .send v, _ =>
    exact HaltsOf.ite (hrun [] (framesDefinite_cons.2 ⟨trivial, framesDefinite_nil⟩)) (Halts.fail _)
  | .suspended targets frames, _, hs => exact hrun targets hs

end Terminating

end MeteredScript
