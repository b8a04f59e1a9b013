import MeteredScript.Proofs.Coupling.Invariant

/-!
# Calls and handlers are left as they were found

Every call and every resumed generator is counted while it runs, and every
handler is listed while it runs. `Balanced` says that a machine is at a given
count with a given list, its *standing*. All of evaluation keeps this, each
part at the standing it starts from.

A generator body is the exception, since it enters and leaves handlers step by
step and may stop in the middle of them. What it lists above the standing of
the one who resumed it is at each step what its frames handle, which is
`Standing.within`. Resuming lists the handlers of the frames again, and
whatever the body has listed in the end is cut off.
-/

namespace MeteredScript

/-- **What the calls and handlers around an evaluation make of the machine.** -/
structure Standing where
  /-- The limits of the run. -/
  config : Config
  /-- The calls and resumed generators inside one another. -/
  depth : Nat
  /-- The faults being handled, innermost first. -/
  handling : List Fault

/-- The calls and handlers that a machine is in. -/
def Machine.standing (m : Machine) : Standing := ⟨m.config, m.depth, m.handling⟩

namespace Standing

/-- One call further in. -/
def called (w : Standing) : Standing := { w with depth := w.depth + 1 }

/-- Inside the handler of a fault. -/
def handled (w : Standing) (f : Fault) : Standing := { w with handling := f :: w.handling }

/-- **Inside the handlers of some frames.** -/
def within (w : Standing) (frames : List Frame) : Standing :=
  { w with handling := handledBy frames ++ w.handling }

@[simp] theorem within_nil (w : Standing) : w.within [] = w := rfl

theorem within_congr (w : Standing) {frames frames' : List Frame}
    (h : handledBy frames = handledBy frames') : w.within frames = w.within frames' := by
  rw [within, within, h]

theorem within_handling (w : Standing) (f : Fault) (cleanup : Option Block)
    (frames : List Frame) : w.within (.handling f cleanup :: frames) = (w.within frames).handled f :=
  rfl

end Standing

/-! ## What frames handle -/

/-- The frames that a pause leaves behind. -/
def Pause.frames : Pause → List Frame
  | .yielded _ _ frames => frames
  | .returned _ => []

/-- The frames that a step leaves behind. -/
def Progress.frames : Progress → List Frame
  | .onward frames => frames
  | .paused pause => pause.frames

@[simp] theorem handledBy_suiteOf (block : Option Block) (frames : List Frame) :
    handledBy (suiteOf block frames) = handledBy frames := by
  cases block <;> rfl

@[simp] theorem handledBy_enterCleanup (cleanup : Option Block) (pending : Option Stop)
    (frames : List Frame) :
    handledBy (enterCleanup cleanup pending frames) = handledBy frames := by
  cases cleanup <;> rfl

section Frames

variable (ev : Evaluator) (scope : ScopeId)

/-- Beginning a statement enters no handler. -/
theorem gives_beginStmt (s : Stmt) (frames : List Frame) :
    Eval.Gives (fun p => handledBy p.frames = handledBy frames)
      (beginStmt ev scope s frames) := by
  have hsuspend (operand : Option Expr) (targets : List Expr) :
      Eval.Gives (fun p => handledBy p.frames = handledBy frames)
        (suspendAt ev scope operand targets frames) := by
    cases operand with
    | none => exact .pure rfl
    | some e => exact .bind fun v => .pure rfl
  unfold beginStmt
  split
  · exact hsuspend _ _
  · exact hsuspend _ _
  · refine .bind fun b => ?_
    split
    · exact .pure rfl
    · exact .pure (handledBy_suiteOf _ _)
  · exact .pure rfl
  · exact .bind fun v => .bind fun cursor => .pure rfl
  · exact .pure rfl
  · exact .bind fun v => .bind fun body => .pure (handledBy_suiteOf _ _)
  · exact .bind fun _ => .pure rfl

/-- **A unit of work enters no handler**, and at the end of one it leaves it. -/
theorem gives_advanceFrame (frame : Frame) (frames : List Frame) :
    Eval.Gives (fun p => handledBy p.frames = handledBy frames)
      (advanceFrame ev scope frame frames) := by
  match frame with
  | .suite [] | .cleanup none => exact .pure rfl
  | .suite (s :: rest) =>
    unfold advanceFrame
    dsimp only
    split
    · exact gives_beginStmt ev scope s _
    · exact .bind fun _ => .pure rfl
  | .whileLoop condition body orElse =>
    refine .bind fun b => ?_
    split
    · exact .pure rfl
    · exact .pure (handledBy_suiteOf _ _)
  | .forLoop target body orElse cursor =>
    refine .bind fun next => ?_
    match next with
    | some (item, cursor) => exact .bind fun _ => .pure rfl
    | none => exact .pure (handledBy_suiteOf _ _)
  | .guarded _ (some block) cleanup => exact .pure rfl
  | .guarded _ none cleanup | .afterBody cleanup => exact .pure (handledBy_enterCleanup _ _ _)
  | .handling f cleanup => exact .bind fun _ => .pure (handledBy_enterCleanup _ _ _)
  | .cleanup (some pending) => exact .throw pending

end Frames

/-! ## The invariant -/

/-- **The machine is at a standing**, and if that is watched, no deeper than it
may be. -/
def Balanced (watching : Prop) (w : Standing) (m : Machine) : Prop :=
  m.standing = w ∧ (watching → m.depth ≤ m.config.maxCallDepth)

namespace Balanced

variable {watching : Prop} {w : Standing} {m : Machine}

theorem of_eq {m' : Machine} (h : Balanced watching w m) (hc : m'.config = m.config)
    (hd : m'.depth = m.depth) (hh : m'.handling = m.handling) : Balanced watching w m' := by
  obtain ⟨rfl, hb⟩ := h
  refine ⟨?_, ?_⟩
  · rw [Machine.standing, Machine.standing, hc, hd, hh]
  · rwa [hc, hd]

/-- A call that is not too deep. -/
theorem call (h : Balanced watching w m) (hlt : m.depth < m.config.maxCallDepth) :
    Balanced watching w.called { m with depth := m.depth + 1 } := by
  obtain ⟨rfl, -⟩ := h
  exact ⟨rfl, fun _ => hlt⟩

theorem uncall (h : Balanced watching w.called m) :
    Balanced watching w { m with depth := m.depth - 1 } := by
  obtain ⟨hw, hb⟩ := h
  obtain ⟨config, depth, handling⟩ := w
  simp only [Machine.standing, Standing.called, Standing.mk.injEq] at hw
  obtain ⟨rfl, hd, rfl⟩ := hw
  refine ⟨?_, fun hwatching => ?_⟩
  · simp only [Machine.standing, hd, Nat.add_sub_cancel]
  · exact Nat.le_trans (Nat.sub_le _ _) (hb hwatching)

theorem handle (h : Balanced watching w m) (f : Fault) :
    Balanced watching (w.handled f) { m with handling := f :: m.handling } := by
  obtain ⟨rfl, hb⟩ := h
  exact ⟨rfl, hb⟩

theorem unhandle {f : Fault} (h : Balanced watching (w.handled f) m) :
    Balanced watching w { m with handling := m.handling.tail } := by
  obtain ⟨hw, hb⟩ := h
  obtain ⟨config, depth, handling⟩ := w
  simp only [Machine.standing, Standing.handled, Standing.mk.injEq] at hw
  obtain ⟨rfl, rfl, hh⟩ := hw
  refine ⟨?_, hb⟩
  simp only [Machine.standing, hh, List.tail_cons]

/-- The handlers of frames are listed again. -/
theorem enter (h : Balanced watching w m) (frames : List Frame) :
    Balanced watching (w.within frames) { m with handling := handledBy frames ++ m.handling } := by
  obtain ⟨rfl, hb⟩ := h
  exact ⟨rfl, hb⟩

/-- What is listed above the standing is cut off. -/
theorem leave {frames : List Frame} (h : Balanced watching (w.within frames) m) :
    Balanced watching w
      { m with handling := m.handling.drop (m.handling.length - w.handling.length) } := by
  obtain ⟨hw, hb⟩ := h
  obtain ⟨config, depth, handling⟩ := w
  simp only [Machine.standing, Standing.within, Standing.mk.injEq] at hw
  obtain ⟨rfl, rfl, hh⟩ := hw
  refine ⟨?_, hb⟩
  simp [Machine.standing, hh]

end Balanced

open Coupling

variable {watching : Prop}

theorem balanced_kept : Kept (Balanced watching) where
  congr hI hc hd hh _ := hI.of_eq hc hd hh
  define _ _ _ hI := hI.of_eq rfl rfl rfl
  addScope _ _ _ _ hI := hI.of_eq rfl rfl rfl
  inFrame {α P x y} h := by
    refine keeping_sim fun w m hI => ?_
    rcases Nat.lt_or_ge m.depth m.config.maxCallDepth with hlt | hge
    · rw [Eval.on_inFrame_of_lt hlt, Eval.on_inFrame_of_lt hlt]
      refine (h.alike (hI.call hlt)).leaving (fun r _ => by simp) fun r n hn => ?_
      exact ⟨hn.1.uncall, ifOk_ok hn.2⟩
    · rw [Eval.on_inFrame_of_le hge, Eval.on_inFrame_of_le hge]
      exact .error ⟨hI, ifOk_error _⟩
  whileHandling {α} f {x y} h := by
    refine keeping_sim fun w m hI => ?_
    rw [Eval.on_whileHandling, Eval.on_whileHandling]
    refine (h.alike (hI.handle f)).leaving (fun r hr => hr) fun r n hn => ?_
    exact ⟨hn.1.unhandle, hn.2⟩

theorem balanced_settled : (keeping (Balanced watching)).Settled where
  setGeneratorState _ _ _ := keeping_self fun _ _ hI => hI.of_eq rfl rfl rfl

theorem balanced_generatorState (id : GeneratorId) :
    (keeping (Balanced watching)).Sim (Eval.generatorState id) (Eval.generatorState id) :=
  keeping_self fun _ _ hI => hI

/-! ## Running a body -/

section Drive

variable {α : Type} {ev ev' : Evaluator} {w : Standing} {m : Machine}

/-- **The standing that an outcome leaves the machine at**: inside the handlers
of the frames that are left, if there are any. -/
def LeftAt (watching : Prop) (w : Standing) (frames : α → List Frame) (r : Except Stop α)
    (m : Machine) : Prop :=
  match r with
  | .ok a => Balanced watching (w.within (frames a)) m
  | .error _ => Balanced watching w m

/-- The standing that a search for frames which take care of a stop leaves the
machine at. If there are none it is that inside the handlers of `rest`. The
search itself does not fail. -/
def Searched (watching : Prop) (w : Standing) (rest : List Frame)
    (r : Except Stop (Except Stop (List Frame))) (m : Machine) : Prop :=
  ∃ found, r = .ok found ∧
    Balanced watching (w.within (match found with | .ok frames => frames | .error _ => rest)) m

theorem Searched.elim_error {rest : List Frame} {s : Stop} {p : Prop}
    (h : Searched watching w rest (.error s) m) : p := by
  obtain ⟨found, hfound, -⟩ := h
  cases hfound

theorem Searched.found {rest frames : List Frame}
    (h : Searched watching w rest (.ok (.ok frames)) m) :
    Balanced watching (w.within frames) m := by
  obtain ⟨found, hfound, hI⟩ := h
  cases hfound
  exact hI

theorem Searched.missed {rest : List Frame} {s : Stop}
    (h : Searched watching w rest (.ok (.error s)) m) : Balanced watching (w.within rest) m := by
  obtain ⟨found, hfound, hI⟩ := h
  cases hfound
  exact hI

theorem alike_found {rest frames : List Frame} (hI : Balanced watching (w.within frames) m) :
    Alike (Searched watching w rest) ((pure (.ok frames) : Eval _).on m)
      ((pure (.ok frames) : Eval _).on m) :=
  .ok ⟨_, rfl, hI⟩

theorem alike_missed {rest : List Frame} (s : Stop) (hI : Balanced watching (w.within rest) m) :
    Alike (Searched watching w rest) ((pure (.error s) : Eval _).on m)
      ((pure (.error s) : Eval _).on m) :=
  .ok ⟨_, rfl, hI⟩

/-- Binding the name of a handler cannot fail. -/
theorem on_bindException (scope : ScopeId) (handler : Handler) (f : Fault)
    (hI : Balanced watching w m) :
    ∃ n, (bindException scope handler f).on m = (.ok (), n) ∧ Balanced watching w n := by
  obtain ⟨catching, name, body⟩ := handler
  cases name with
  | none => exact ⟨m, rfl, hI⟩
  | some name => exact ⟨_, rfl, hI.of_eq rfl rfl rfl⟩

variable (h : (keeping (Balanced watching)).Couples ev ev') (scope : ScopeId)

include h

/-- A handler that takes care of a stop is listed. -/
theorem alike_enterHandler (handlers : List Handler) (cleanup : Option Block) (s : Stop)
    {frames : List Frame} (hI : Balanced watching (w.within frames) m) :
    Alike (Searched watching w frames)
      ((enterHandler ev scope handlers cleanup s frames).on m)
      ((enterHandler ev' scope handlers cleanup s frames).on m) := by
  match s with
  | .fault f =>
    have hfind := (h.findHandler (s := scope) f.exceptionKind
      (keeping_shows (handlersNames handlers))).sim.alike hI
    refine hfind.attempt_bind fun found n hn => ?_
    match found with
    | .ok (some handler) =>
      obtain ⟨n', hn', hI'⟩ := on_bindException scope handler f hn.1
      rw [Eval.on_bind_ok hn', Eval.pushHandling, Eval.on_bind_ok (Eval.on_modify _ n')]
      exact alike_found (hI'.handle f)
    | .ok none => exact alike_missed _ hn.1
    | .error raised => exact alike_missed _ hn.1
  | .returns _ | .breaks | .continues | .gasExhausted | .endless => exact alike_missed _ hI

/-- **Unwinding leaves the handlers that it passes.** -/
theorem alike_unwind (s : Stop) {frames : List Frame}
    (hI : Balanced watching (w.within frames) m) :
    Alike (Searched watching w []) ((unwind ev scope s frames).on m)
      ((unwind ev' scope s frames).on m) := by
  induction frames generalizing s m with
  | nil => exact alike_missed s hI
  | cons frame frames ih =>
    -- a `finally` block takes care of every stop; without one the search goes on
    have hcleanup (cleanup : Option Block) (s : Stop) {n : Machine}
        (hI : Balanced watching (w.within frames) n) :
        Alike (Searched watching w [])
          (Eval.on
            (if cleanup.isSome then pure (.ok (enterCleanup cleanup (some s) frames))
              else unwind ev scope s frames) n)
          (Eval.on
            (if cleanup.isSome then pure (.ok (enterCleanup cleanup (some s) frames))
              else unwind ev' scope s frames) n) := by
      split
      · refine alike_found ?_
        rwa [w.within_congr (handledBy_enterCleanup cleanup (some s) frames)]
      · exact ih s hI
    match frame with
    | .suite _ | .cleanup _ => exact ih s hI
    | .whileLoop condition body orElse | .forLoop target body orElse cursor =>
      match s with
      | .breaks | .continues => exact alike_found hI
      | .fault _ | .returns _ | .gasExhausted | .endless => exact ih _ hI
    | .guarded handlers orElse cleanup =>
      have hI' : Balanced watching (w.within frames) m := hI
      have henter := alike_enterHandler h scope handlers cleanup s hI'
      refine henter.bind (fun found n hn => ?_) (fun s n hn => hn.elim_error)
      match found with
      | .ok frames => exact alike_found hn.found
      | .error s => exact hcleanup cleanup s hn.missed
    | .afterBody cleanup => exact hcleanup cleanup s hI
    | .handling f cleanup =>
      unfold unwind
      rw [Eval.popHandling, Eval.on_bind_ok (Eval.on_modify _ m),
        Eval.on_bind_ok (Eval.on_modify _ m)]
      exact hcleanup cleanup s hI.unhandle

theorem alike_recover (s : Stop) {frames : List Frame}
    (hI : Balanced watching (w.within frames) m) :
    Alike (LeftAt watching w Progress.frames) ((recover ev scope s frames).on m)
      ((recover ev' scope s frames).on m) := by
  refine (alike_unwind h scope s hI).bind (fun found n hn => ?_) (fun s n hn => hn.elim_error)
  match found with
  | .ok frames => exact .ok hn.found
  | .error (.returns v) => exact .ok hn.missed
  | .error (.fault _) | .error .breaks | .error .continues | .error .gasExhausted
  | .error .endless => exact .error hn.missed

/-- A unit of work, at the end of which a handler may be left. -/
theorem alike_advanceFrame (frame : Frame) {frames : List Frame}
    (hI : Balanced watching (w.within (frame :: frames)) m) :
    Alike
      (fun r n => Balanced watching (w.within frames) n ∧
        IfOk (fun p => handledBy p.frames = handledBy frames) r)
      ((advanceFrame ev scope frame frames).on m)
      ((advanceFrame ev' scope frame frames).on m) := by
  have hgives := gives_advanceFrame ev scope frame frames m
  by_cases hframe : ∃ f cleanup, frame = .handling f cleanup
  · obtain ⟨f, cleanup, rfl⟩ := hframe
    exact .ok ⟨hI.unhandle, ifOk_ok (handledBy_enterCleanup _ _ _)⟩
  · have hI' : Balanced watching (w.within frames) m := by
      cases frame with
      | handling f cleanup => exact absurd ⟨f, cleanup, rfl⟩ hframe
      | _ => exact hI
    have hadvance := (h.advanceFrame (s := scope) (keeping_shows frame.names)
      (fun f cleanup heq => absurd ⟨f, cleanup, heq⟩ hframe)
      (keeping_shows (framesNames frames))).alike hI'
    rcases hadvance with hend | ⟨heq, hne, hn⟩
    · exact .inl hend
    · exact .inr ⟨heq, hne, hn.1, fun p hp => hgives p _ (Prod.ext hp rfl)⟩

/-- **One turn** leaves the machine inside the handlers of the frames that are
left. -/
theorem alike_turn (frame : Frame) {frames : List Frame}
    (hI : Balanced watching (w.within (frame :: frames)) m) :
    Alike (LeftAt watching w Progress.frames) ((turn ev scope frame frames).on m)
      ((turn ev' scope frame frames).on m) := by
  refine (h.tick.alike hI).attempt_bind fun charged n hn => ?_
  match charged with
  | .error s => exact alike_recover h scope s hn.1
  | .ok () =>
    refine (alike_advanceFrame h scope frame hn.1).attempt_bind fun result n hn => ?_
    match result with
    | .ok progress =>
      refine .ok ?_
      rw [LeftAt, w.within_congr (hn.2 progress rfl)]
      exact hn.1
    | .error s => exact alike_recover h scope s hn.1

/-- **Any number of turns.** -/
theorem alike_drive (rounds : Nat) {frames : List Frame}
    (hI : Balanced watching (w.within frames) m) :
    Alike (LeftAt watching w Pause.frames) ((drive ev scope rounds frames).on m)
      ((drive ev' scope rounds frames).on m) := by
  induction rounds generalizing frames m with
  | zero => exact .inl ⟨rfl, rfl⟩
  | succ rounds ih =>
    cases frames with
    | nil => exact .ok hI
    | cons frame frames =>
      refine (alike_turn h scope frame hI).bind (fun progress n hn => ?_) (fun s n hn => hn)
      match progress with
      | .onward frames => exact ih hn
      | .paused pause => exact .ok hn

theorem alike_wake (targets : List Expr) {frames : List Frame} (resume : Resume)
    (hI : Balanced watching (w.within frames) m) :
    Alike (LeftAt watching w Progress.frames) ((wake ev scope targets frames resume).on m)
      ((wake ev' scope targets frames resume).on m) := by
  have hdeliver : (keeping (Balanced watching)).Sim (deliver ev scope targets resume)
      (deliver ev' scope targets resume) := by
    cases resume with
    | send v => exact h.assignAll v (keeping_shows _)
    | throw e => exact Sim.fail _
  refine (hdeliver.alike hI).attempt_bind fun result n hn => ?_
  match result with
  | .ok () => exact .ok hn.1
  | .error s => exact alike_recover h scope s hn.1

theorem alike_driveFrom (targets : List Expr) {frames : List Frame} (resume : Resume)
    (hI : Balanced watching (w.within frames) m) :
    Alike (LeftAt watching w Pause.frames) ((driveFrom ev scope targets frames resume).on m)
      ((driveFrom ev' scope targets frames resume).on m) := by
  have hrounds : driveRounds ev frames = driveRounds ev' frames :=
    (h.driveRounds frames).eq not_false not_false
  refine (alike_wake h scope targets resume hI).bind (fun progress n hn => ?_) (fun s n hn => hn)
  match progress with
  | .onward rest =>
    dsimp only
    rw [hrounds]
    exact alike_drive h scope _ hn
  | .paused pause => exact .ok hn

/-! ## Resuming -/

/-- **What a body has listed in the end is cut off.** -/
theorem balanced_withHandled (targets : List Expr) (frames : List Frame) (resume : Resume) :
    (keeping (Balanced watching)).Sim
      (Eval.withHandled (handledBy frames) (driveFrom ev scope targets frames resume))
      (Eval.withHandled (handledBy frames) (driveFrom ev' scope targets frames resume)) := by
  refine keeping_sim fun w m hI => ?_
  rw [Eval.on_withHandled, Eval.on_withHandled]
  have hh : m.handling = w.handling := by rw [← hI.1]; rfl
  refine (alike_driveFrom h scope targets resume (hI.enter frames)).leaving
    (fun r _ => by simp) fun r n hn => ⟨?_, fun _ _ => trivial⟩
  rw [hh]
  match r with
  | .ok pause => exact hn.leave
  | .error s =>
    rw [← w.within_nil] at hn
    exact hn.leave

theorem balanced_resumeGenerator (id : GeneratorId) (resume : Resume) :
    (keeping (Balanced watching)).Sim (resumeGenerator ev id resume)
      (resumeGenerator ev' id resume) := by
  refine Sim.bind (balanced_generatorState id) fun state => ?_
  rw [resumeFrom_eq_resumeBy, resumeFrom_eq_resumeBy]
  refine Couples.resumeBy balanced_settled (fun targets frames _ _ => ?_) (keeping_shows _)
  refine Couples.runBy h.toLawful balanced_settled ?_
  refine SimOf.to (SimOf.mono (balanced_withHandled h id.scope targets frames resume) ?_)
  exact fun r _ _ _ => keeping_shows _

end Drive

end MeteredScript
