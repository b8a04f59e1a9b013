import MeteredScript.Proofs.Lifecycle.Run
import MeteredScript.Proofs.Regime.Statement
import MeteredScript.Proofs.Regime.Targets

/-!
# Generators under a regime

The body of a generator runs in the scope of the generator, so resuming one
passes to another stage: the scope that is written to is no longer that of the
caller, and the generator counts as running until it waits again or is done.

What a generator kept while it waited fits the world in which it is resumed,
since worlds only grow.
-/

namespace MeteredScript

variable {S : ScopeId → Prop}

/-- The stop that a caller sees carries no more than the one that the body
stopped with. -/
theorem Within.escaped {s : Stop} (h : Within S s) : Within S (escaped s) := by
  unfold MeteredScript.escaped
  split
  · exact within_fault.2 within_escapedStopIteration
  · exact h

namespace Regime

variable {R : Regime} {Objects : Expr → Prop} {g : R.Stage} {w : R.World}

namespace Keeping

variable {ev ev' : Evaluator} (h : R.Keeping Objects ev ev') {s : ScopeId}

/-! ## One unit of work -/

section Work

variable (runs : R.runs g s) (writes : R.writes g s)

include h runs

theorem suspendAt (operand : Option Expr) (targets : List Expr) {frames : List Frame}
    (hf : Within (R.named w) frames) :
    R.Keeps g w (suspendAt ev s operand targets frames)
      (suspendAt ev' s operand targets frames) := by
  have paused {w : R.World} {v : Value} {frames : List Frame} (hv : Within (R.named w) v)
      (hf : Within (R.named w) frames) :
      Within (R.named w) (Progress.paused (.yielded v targets frames)) :=
    within_paused.2 (within_yielded.2 ⟨hv, hf⟩)
  cases operand with
  | some e => exact (h.eval runs).bind fun _ _ hw hv => .pure (paused hv (hf.grow hw))
  | none => exact .pure (paused within_none hf)

include writes

theorem beginStmt (st : Stmt) {frames : List Frame} (hf : Within (R.named w) frames) :
    R.Keeps g w (beginStmt ev s st frames) (beginStmt ev' s st frames) := by
  unfold MeteredScript.beginStmt
  split
  · exact h.suspendAt runs _ _ hf
  · exact h.suspendAt runs _ _ hf
  · refine (h.holds runs _).bind fun _ _ hw _ => .ite (.pure ?_) (.pure (hf.grow hw).suiteOf)
    exact within_onward.2 (within_cons.2 ⟨within_suite, hf.grow hw⟩)
  · exact .pure (within_onward.2 (within_cons.2 ⟨within_whileLoop, hf⟩))
  · refine (h.eval runs).bind fun _ v hw hv => (Keeps.startIteration hv).bind fun _ cursor hw' hc => ?_
    have around := hf.grow (R.grows_trans hw hw')
    exact .pure (within_onward.2 (within_cons.2 ⟨within_forLoop.2 hc, around⟩))
  · refine .pure (within_onward.2 (within_cons.2 ⟨within_suite, ?_⟩))
    exact within_cons.2 ⟨within_guarded, hf⟩
  · refine (h.eval runs).bind fun _ v hw hv => (h.selectCase runs writes hv _).bind ?_
    exact fun _ _ hw' _ => .pure (hf.grow (R.grows_trans hw hw')).suiteOf
  · exact (h.exec runs writes).bind fun _ _ hw _ => .pure (within_onward.2 (hf.grow hw))

theorem advanceFrame {frame : Frame} (ht : ∀ o ∈ frame.drivenObjects, Objects o)
    (hframe : Within (R.named w) frame) {frames : List Frame}
    (hf : Within (R.named w) frames) :
    R.Keeps g w (advanceFrame ev s frame frames) (advanceFrame ev' s frame frames) := by
  have suite {w : R.World} (block : Block) {frames : List Frame} (hf : Within (R.named w) frames) :
      Within (R.named w) (Progress.onward (.suite block :: frames)) :=
    within_onward.2 (within_cons.2 ⟨within_suite, hf⟩)
  match frame, hframe, ht with
  | .suite [], _, _ => exact .pure (within_onward.2 hf)
  | .suite (st :: rest), _, _ =>
    refine .ite (h.beginStmt runs writes st (within_cons.2 ⟨within_suite, hf⟩)) ?_
    exact (h.exec runs writes).bind fun _ _ hw _ => .pure (suite rest (hf.grow hw))
  | .whileLoop condition body orElse, _, _ =>
    refine (h.holds runs condition).bind fun _ _ hw _ => .ite (.pure ?_) (.pure (hf.grow hw).suiteOf)
    exact suite body (within_cons.2 ⟨within_whileLoop, hf.grow hw⟩)
  | .forLoop target body orElse cursor, hc, ht =>
    rw [Frame.drivenObjects, List.forall_mem_append] at ht
    refine (h.next? (within_forLoop.1 hc)).bind fun w₁ next hw hnext => ?_
    rcases next with _ | ⟨item, cursor⟩
    · exact .pure (hf.grow hw).suiteOf
    · obtain ⟨hitem, hcursor⟩ := within_pair.1 (within_some.1 hnext)
      refine (h.assignTarget runs writes target ht.1 hitem).bind fun _ _ hw' _ => ?_
      have around := hf.grow (R.grows_trans hw hw')
      exact .pure (suite body (within_cons.2 ⟨within_forLoop.2 (hcursor.grow hw'), around⟩))
  | .guarded _ (some block) cleanup, _, _ =>
    exact .pure (suite block (within_cons.2 ⟨within_afterBody, hf⟩))
  | .guarded _ none cleanup, _, _ | .afterBody cleanup, _, _ =>
    exact .pure (hf.enterCleanup within_optionNone)
  | .handling _ cleanup, _, _ =>
    exact Keeps.popHandling.bind fun _ _ hw _ =>
      .pure ((hf.grow hw).enterCleanup within_optionNone)
  | .cleanup (some pending), hp, _ => exact .throw (within_some.1 (within_cleanup.1 hp))
  | .cleanup none, _, _ => exact .pure (within_onward.2 hf)

end Work

/-! ## Stops -/

section Stops

variable (runs : R.runs g s) (writes : R.writes g s)

include h runs writes

theorem enterHandler (handlers : List Handler) (cleanup : Option Block) {stop : Stop}
    (hs : Within (R.named w) stop) {frames : List Frame} (hf : Within (R.named w) frames) :
    R.Keeps g w (enterHandler ev s handlers cleanup stop frames)
      (enterHandler ev' s handlers cleanup stop frames) := by
  match stop, hs with
  | .fault f, hs =>
    refine (h.findHandler runs f.exceptionKind handlers).attempt.bind fun w₁ found hw hfound => ?_
    match found, hfound with
    | .ok none, _ => exact .pure (within_error.2 (hs.grow hw))
    | .error raised, hraised => exact .pure (within_error.2 hraised)
    | .ok (some handler), _ =>
      refine (Keeps.bindException writes handler ((within_fault.1 hs).grow hw)).bind ?_
      intro w₂ _ hw' _
      have hfault := (within_fault.1 hs).grow (R.grows_trans hw hw')
      refine (Keeps.pushHandling hfault).bind fun w₃ _ hw'' _ => .pure (within_ok.2 ?_)
      have around := hf.grow (R.grows_trans hw (R.grows_trans hw' hw''))
      have handling : Within (R.named w₃) (Frame.handling f cleanup) :=
        within_handling.2 (hfault.grow hw'')
      exact within_cons.2 ⟨within_suite, within_cons.2 ⟨handling, around⟩⟩
  | .returns _, hs | .breaks, hs | .continues, hs | .gasExhausted, hs | .endless, hs =>
    exact .pure (within_error.2 hs)

theorem unwind {stop : Stop} (hs : Within (R.named w) stop) {frames : List Frame}
    (hf : Within (R.named w) frames) :
    R.Keeps g w (unwind ev s stop frames) (unwind ev' s stop frames) := by
  induction frames generalizing w stop with
  | nil => exact .pure (within_error.2 hs)
  | cons frame frames ih =>
    have hall := hf
    rw [within_cons] at hf
    obtain ⟨hframe, hf⟩ := hf
    -- a `finally` block takes care of every stop; without one the search goes on
    have cleaned {w' : R.World} (hw : R.Grows w w') (cleanup : Option Block) {stop : Stop}
        (hs : Within (R.named w') stop) :
        R.Keeps g w'
          (if cleanup.isSome then Pure.pure (.ok (enterCleanup cleanup (some stop) frames))
            else MeteredScript.unwind ev s stop frames)
          (if cleanup.isSome then Pure.pure (.ok (enterCleanup cleanup (some stop) frames))
            else MeteredScript.unwind ev' s stop frames) :=
      .ite (.pure (within_ok.2 ((hf.grow hw).enterCleanup (within_some.2 hs))))
        (ih hs (hf.grow hw))
    match frame, hframe with
    | .suite _, _ | .cleanup _, _ => exact ih hs hf
    | .whileLoop condition body orElse, _ | .forLoop target body orElse cursor, _ =>
      match stop, hs with
      | .breaks, _ => exact .pure (within_ok.2 hf)
      | .continues, _ => exact .pure (within_ok.2 hall)
      | .fault _, hs | .returns _, hs | .gasExhausted, hs | .endless, hs => exact ih hs hf
    | .guarded handlers orElse cleanup, _ =>
      refine (h.enterHandler runs writes handlers cleanup hs hf).bind fun w₁ result hw hr => ?_
      match result, hr with
      | .ok frames, hframes => exact .pure (within_ok.2 hframes)
      | .error stop, hstop => exact cleaned hw cleanup hstop
    | .afterBody cleanup, _ => exact cleaned (R.grows_refl w) cleanup hs
    | .handling f cleanup, _ =>
      exact Keeps.popHandling.bind fun _ _ hw _ => cleaned hw cleanup (hs.grow hw)

theorem recover {stop : Stop} (hs : Within (R.named w) stop) {frames : List Frame}
    (hf : Within (R.named w) frames) :
    R.Keeps g w (recover ev s stop frames) (recover ev' s stop frames) := by
  refine (h.unwind runs writes hs hf).bind fun _ result _ hr => ?_
  match result, hr with
  | .ok frames, hframes => exact .pure (within_onward.2 hframes)
  | .error (.returns v), hv => exact .pure (within_paused.2 (within_returned.2 hv))
  | .error (.fault _), hs | .error .breaks, hs | .error .continues, hs
  | .error .gasExhausted, hs | .error .endless, hs => exact .throw hs

/-! ## Running -/

theorem turn {frame : Frame} (ht : ∀ o ∈ frame.drivenObjects, Objects o)
    (hframe : Within (R.named w) frame) {frames : List Frame} (hf : Within (R.named w) frames) :
    R.Keeps g w (turn ev s frame frames) (turn ev' s frame frames) := by
  refine Keeps.tick.attempt.bind fun w₁ charged hw hcharged => ?_
  match charged, hcharged with
  | .error stop, hs =>
    exact h.recover runs writes hs (within_cons.2 ⟨hframe.grow hw, hf.grow hw⟩)
  | .ok (), _ =>
    refine (h.advanceFrame runs writes ht (hframe.grow hw) (hf.grow hw)).attempt.bind ?_
    intro w₂ result hw' hr
    match result, hr with
    | .ok progress, hp => exact .pure hp
    | .error stop, hs => exact h.recover runs writes hs (hf.grow (R.grows_trans hw hw'))

theorem drive (n : Nat) {frames : List Frame} (ht : FramesSet Objects frames)
    (hf : Within (R.named w) frames) :
    R.Keeps g w (drive ev s n frames) (drive ev' s n frames) := by
  induction n generalizing w frames with
  | zero => exact .throw within_endless
  | succ n ih =>
    cases frames with
    | nil => exact .pure (within_returned.2 within_none)
    | cons frame frames =>
      rw [within_cons] at hf
      refine (h.turn runs writes (framesSet_cons.1 ht).1 hf.1 hf.2).bind_gives
        (sets_turn ev s ht) fun _ progress _ hp sets => ?_
      match progress, hp, sets with
      | .onward frames, hframes, sets => exact ih sets hframes
      | .paused pause, hpause, _ => exact .pure hpause

theorem driveFrom {targets : List Expr} {frames : List Frame}
    (ht : ∀ o ∈ (GeneratorState.suspended targets frames).drivenObjects, Objects o)
    (hf : Within (R.named w) frames) {resume : Resume} (hr : Within (R.named w) resume) :
    R.Keeps g w (driveFrom ev s targets frames resume)
      (driveFrom ev' s targets frames resume) := by
  obtain ⟨ht, set⟩ := List.forall_mem_append.1 ht
  have delivered : R.Keeps g w (deliver ev s targets resume) (deliver ev' s targets resume) := by
    cases resume with
    | send v => exact h.assignAll runs writes hr ht
    | throw e => exact .fail (within_raised.2 hr)
  have woken : R.Keeps g w (MeteredScript.wake ev s targets frames resume)
      (MeteredScript.wake ev' s targets frames resume) := by
    refine delivered.attempt.bind fun _ result hw hresult => ?_
    match result, hresult with
    | .ok (), _ => exact .pure (within_onward.2 (hf.grow hw))
    | .error stop, hs => exact h.recover runs writes hs (hf.grow hw)
  refine woken.bind_gives (sets_wake ev s targets set resume) fun _ progress _ hp sets => ?_
  match progress, hp, sets with
  | .onward rest, hrest, sets =>
    have same : driveRounds ev' frames = driveRounds ev frames := by
      rw [driveRounds, driveRounds, h.rounds]
    dsimp only
    rw [same]
    exact h.drive runs writes _ sets hrest
  | .paused pause, hpause, _ => exact .pure hpause

end Stops

end Keeping

/-! ## The protocol -/

theorem generator_cover (m : Machine) (id : GeneratorId) :
    (R.cover m).generator id = m.generator id := by
  rw [Machine.generator, Machine.generator, cover, R.veil_generator?]

theorem on_setGeneratorState_cover (m : Machine) (id : GeneratorId) (state : GeneratorState) :
    (Eval.setGeneratorState id state).on (R.cover m) =
      (.ok (), R.cover { m with scopes := m.scopes.setGenerator id.scope state }) :=
  congrArg (fun scopes => (Except.ok (), { m with scopes }))
    (R.veil_setGenerator m.scopes id.scope state)

/-- Bringing a generator to another place in its life, and going on. -/
theorem alike_setGeneratorState_bind {α : Type} {Q : Except Stop α → Machine → Prop}
    {m : Machine} {id : GeneratorId} {state : GeneratorState} {f f' : Unit → Eval α}
    (h : AlikeUnder R.cover Q
      ((f ()).on { m with scopes := m.scopes.setGenerator id.scope state })
      ((f' ()).on (R.cover { m with scopes := m.scopes.setGenerator id.scope state }))) :
    AlikeUnder R.cover Q ((Eval.setGeneratorState id state >>= f).on m)
      ((Eval.setGeneratorState id state >>= f').on (R.cover m)) := by
  rw [Eval.on_bind_ok (on_setGeneratorState_cover m id state), Eval.setGeneratorState,
    Eval.on_bind_ok (Eval.on_modify _ _)]
  exact h

/-- **What the outcome of a body makes of its generator.** -/
theorem alike_settle {g' : R.Stage} {w' : R.World} {n : Machine} (inv : R.Inv g' w' n)
    {id : GeneratorId} (back : ∀ state, state ≠ .running →
      R.Holds g w' (n.scopes.setGenerator id.scope state))
    {outcome : Except Stop Pause} (ho : Within (R.named w') outcome) :
    AlikeUnder R.cover (R.After g w') ((settle id outcome).on n)
      ((settle id outcome).on (R.cover n)) := by
  have put {state : GeneratorState} (hs : Within (R.named w') state) (rests : state ≠ .running)
      {x : Unit → Eval Value} {r : Except Stop Value} (hx : ∀ m, (x ()).on m = (r, m))
      (hr : Within (R.named w') r) : AlikeUnder R.cover (R.After g w')
        ((Eval.setGeneratorState id state >>= x).on n)
        ((Eval.setGeneratorState id state >>= x).on (R.cover n)) := by
    refine alike_setGeneratorState_bind ?_
    rw [hx, hx]
    refine alike_of_eq rfl (.here ?_ hr)
    exact inv.withScopes (R.grows_refl w') (inv.upheld.scopes.setGenerator id.scope hs)
      (back state rests)
  match outcome, ho with
  | .ok (.yielded v targets frames), ho =>
    rw [within_ok, within_yielded] at ho
    obtain ⟨hv, hf⟩ := ho
    exact put (within_suspended.2 hf) nofun (fun _ => rfl) (within_ok.2 hv)
  | .ok (.returned v), hv =>
    exact put (within_completed _) nofun (fun _ => rfl) (within_exhausted.2 hv)
  | .error stop, hs =>
    exact put (within_completed _) nofun (fun _ => rfl) (Within.escaped hs)

namespace Keeping

variable {ev ev' : Evaluator} (h : R.Keeping Objects ev ev') {id : GeneratorId}

include h

/-- **Running a generator that waits.** -/
theorem alike_runSuspended (wakes : R.wakes id) {m : Machine} (inv : R.Inv g w m)
    {state : GeneratorState} (found : m.scopes.generator? id.scope = some state)
    (waits : state.Waits) {targets : List Expr} {frames : List Frame}
    (ht : ∀ o ∈ (GeneratorState.suspended targets frames).drivenObjects, Objects o)
    (hf : Within (R.named w) frames) {resume : Resume} (hr : Within (R.named w) resume) :
    AlikeUnder R.cover (R.After g w) ((runSuspended ev id targets frames resume).on m)
      ((runSuspended ev' id targets frames resume).on (R.cover m)) := by
  rcases Nat.lt_or_ge m.depth m.config.maxCallDepth with room | none_left
  · obtain ⟨g', w₁, hw₁, runs, writes, holds, back⟩ := R.wake wakes inv.holds found waits
    have running : R.Inv g' w₁ { m with
        depth := m.depth + 1
        scopes := m.scopes.setGenerator id.scope .running } :=
      (inv.withScopes hw₁ ((inv.upheld.scopes.setGenerator id.scope within_running).grow hw₁)
        holds).congr rfl rfl rfl rfl
    have driven := h.driveFrom runs writes ht (hf.grow hw₁) (hr.grow hw₁)
    have body := Keeps.withHandled (hf.grow hw₁).handledBy driven
    have ran : AlikeUnder R.cover (fun r n => ∃ outcome, r = .ok outcome ∧ R.After g' w₁ outcome n)
        ((Eval.inFrame do
          Eval.setGeneratorState id .running
          Eval.ofStop (← Eval.withHandled (handledBy frames)
            (MeteredScript.driveFrom ev id.scope targets frames resume))).on m)
        ((Eval.inFrame do
          Eval.setGeneratorState id .running
          Eval.ofStop (← Eval.withHandled (handledBy frames)
            (MeteredScript.driveFrom ev' id.scope targets frames resume))).on (R.cover m)) := by
      have room' : (R.cover m).depth < (R.cover m).config.maxCallDepth := room
      rw [Eval.on_inFrame_of_lt room, Eval.on_inFrame_of_lt room']
      refine AlikeUnder.leaving (Q := R.After g' w₁) ?_ (fun r _ => by simp) (fun _ => rfl)
        fun r n after => ?_
      · exact alike_setGeneratorState_bind (m := { m with depth := m.depth + 1 })
          ((body.bind fun _ _ _ hresult => .ofStop hresult) w₁ _ (R.grows_refl w₁) running)
      · obtain ⟨w', hw', inv', hresult⟩ := after
        exact ⟨r, rfl, w', hw', inv'.congr rfl rfl rfl rfl, hresult⟩
    refine ran.bind (fun outcome n after => ?_) fun s n after => by simp at after
    obtain ⟨_, ⟨⟩, w', hw', inv', houtcome⟩ := after
    refine (alike_settle (g := g) inv' (fun state rests => ?_) houtcome).mono fun r n after => ?_
    · exact back w' n.scopes state hw' inv'.holds rests
    · exact after.later (R.grows_trans hw₁ hw')
  · have none_left' : (R.cover m).config.maxCallDepth ≤ (R.cover m).depth := none_left
    rw [on_runSuspended_of_le ev none_left, on_runSuspended_of_le ev' none_left']
    exact .error (.here inv within_recursionLimit)

/-- **Resuming a generator** whose body may be run. -/
theorem alike_resumeFrom (wakes : R.wakes id) {m : Machine} (inv : R.Inv g w m)
    (ht : ∀ o ∈ (m.generator id).state.drivenObjects, Objects o) {r : Resume}
    (hr : Within (R.named w) r) :
    AlikeUnder R.cover (R.After g w) ((resumeFrom ev id (m.generator id).state r).on m)
      ((resumeFrom ev' id (m.generator id).state r).on (R.cover m)) := by
  cases found : m.scopes.generator? id.scope with
  | none =>
    rw [show (m.generator id).state = .running by rw [Machine.generator, found]; rfl]
    exact .error (.here inv within_alreadyExecuting)
  | some state =>
    have held := (within_scopes.1 inv.upheld.scopes).2 id.scope state found
    rw [generator_of_eq_some found] at ht ⊢
    cases state with
    | running => exact .error (.here inv within_alreadyExecuting)
    | completed =>
      cases r with
      | send => exact .error (.here inv (within_exhausted.2 within_none))
      | throw e => exact .error (.here inv (within_raised.2 hr))
    | notStarted body =>
      cases r with
      | throw e =>
        obtain ⟨w₂, hw₂, holds, done⟩ := R.complete inv.holds found (.inl ⟨body, rfl⟩)
        refine alike_setGeneratorState_bind (.error (.later hw₂ (.here ?_ ?_)))
        · exact inv.withScopes hw₂
            ((inv.upheld.scopes.setGenerator id.scope (within_completed _)).grow hw₂)
            (done w₂ m.scopes _ (R.grows_refl w₂) holds)
        · exact within_raised.2 (hr.grow hw₂)
      | send v =>
        have suite : ∀ o ∈ (GeneratorState.suspended [] [.suite body]).drivenObjects, Objects o :=
          fun o member => ht o (by simpa [GeneratorState.drivenObjects, exprsAttributeObjects,
            Frame.drivenObjects] using member)
        unfold resumeFrom
        dsimp only
        split
        · exact h.alike_runSuspended wakes inv found (.inl ⟨body, rfl⟩) suite (by simp) hr
        · exact .error (.here inv (within_typeFault .earlySend))
    | suspended targets frames =>
      exact h.alike_runSuspended wakes inv found (.inr ⟨targets, frames, rfl⟩) ht
        (within_suspended.1 held) hr

/-- **Resuming a generator keeps a regime** that asks nothing of targets. -/
theorem resumeGenerator (all : ∀ e, Objects e) (wakes : R.wakes id) {r : Resume}
    (hr : Within (R.named w) r) :
    R.Keeps g w (resumeGenerator ev id r) (resumeGenerator ev' id r) := by
  intro w₁ m hw₁ inv
  rw [on_resumeGenerator, on_resumeGenerator, generator_cover]
  exact h.alike_resumeFrom wakes inv (fun o _ => all o) (hr.grow hw₁)

end Keeping

/-- **Closing a generator keeps a regime** if resuming it does. -/
theorem Keeps.closeGenerator {ev ev' : Evaluator} (refuses : Refuses ev) {id : GeneratorId}
    (resumed : ∀ {w : R.World} {r : Resume}, Within (R.named w) r →
      R.Keeps g w (ev.resume id r) (ev'.resume id r)) :
    R.Keeps g w (closeGenerator ev id) (closeGenerator ev' id) := by
  intro w₁ m hw₁ inv
  have exit : Within (R.named w₁) (Resume.throw (.bare .generatorExit)) :=
    within_throw.2 (within_bare _)
  have exited := resumed exit w₁ m (R.grows_refl w₁) inv
  rw [MeteredScript.closeGenerator, MeteredScript.closeGenerator,
    Eval.on_bind_ok (on_generatorState id m), Eval.on_bind_ok (on_generatorState id (R.cover m)),
    generator_cover]
  have refused (h : (m.generator id).state = .running) :
      AlikeUnder R.cover (R.After g w₁)
        ((Eval.attempt (ev.resume id (.throw (.bare .generatorExit))) >>= answerExit id).on m)
        ((Eval.attempt (ev'.resume id (.throw (.bare .generatorExit))) >>=
          answerExit id).on (R.cover m)) := by
    have busy : AlikeUnder R.cover
        (fun r n => r = .error (.fault .alreadyExecuting) ∧ R.After g w₁ r n)
        ((ev.resume id (.throw (.bare .generatorExit))).on m)
        ((ev'.resume id (.throw (.bare .generatorExit))).on (R.cover m)) := by
      rcases exited with ends | ⟨same, more, after⟩
      · exact .inl ends
      · refine .inr ⟨same, more, ?_, after⟩
        rcases refuses m id (.throw (.bare .generatorExit)) h with ends | busy
        · rw [ends] at more
          exact absurd rfl more
        · rw [busy]
    refine busy.attempt_bind fun r n after => ?_
    obtain ⟨rfl, after⟩ := after
    exact .error after
  cases found : m.scopes.generator? id.scope with
  | none =>
    have running : (m.generator id).state = .running := by
      rw [Machine.generator, found]
      rfl
    rw [running]
    exact refused running
  | some state =>
    have state_eq := generator_of_eq_some found
    rw [state_eq]
    cases state with
    | notStarted body =>
      obtain ⟨w₂, hw₂, holds, done⟩ := R.complete inv.holds found (.inl ⟨body, rfl⟩)
      refine alike_of_eq (on_setGeneratorState_cover m id _)
        (.later hw₂ (.here ?_ (within_ok.2 (within_plain ()))))
      exact inv.withScopes hw₂
        ((inv.upheld.scopes.setGenerator id.scope (within_completed _)).grow hw₂)
        (done w₂ m.scopes _ (R.grows_refl w₂) holds)
    | completed => exact .ok (.here inv (within_ok.2 (within_plain ())))
    | running => exact refused state_eq
    | suspended targets frames =>
      obtain ⟨w₂, hw₂, holds, done⟩ :=
        R.complete inv.holds found (.inr ⟨targets, frames, rfl⟩)
      refine (resumed (exit.grow hw₂) w₂ m (R.grows_refl w₂) (inv.move hw₂ holds)).attempt_bind ?_
      intro r n after
      obtain ⟨w', hw', inv', hr⟩ := after
      have later {r : Except Stop Unit} {n : Machine} (inv : R.Inv g w' n)
          (hr : Within (R.named w') r) : R.After g w₁ r n :=
        .later (R.grows_trans hw₂ hw') (.here inv hr)
      unfold answerExit
      split
      · exact .error (later inv' (within_fault.2 within_ignoredExit))
      · exact .ok (later inv' (within_ok.2 (within_plain ())))
      · split
        · refine alike_of_eq (on_setGeneratorState_cover n id _)
            (later (inv'.withScopes (R.grows_refl w') ?_ ?_) (within_ok.2 (within_plain ())))
          · exact inv'.upheld.scopes.setGenerator id.scope (within_completed _)
          · exact done w' n.scopes _ hw' inv'.holds
        · exact .error (later inv' hr)

end Regime

end MeteredScript
