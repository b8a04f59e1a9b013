import MeteredScript.Evaluation.Bounded
import MeteredScript.Proofs.Coupling.Statement

/-!
# Two runs of a generator

The machine that runs frames lists the handlers that it enters and leaves one
by one. A coupling for which that keeps machines alike (`Steady`) couples two
runs of frames, whatever the frames are. One for which the same is true of the
states of generators (`Settled`) couples two runs of the protocol.

The right run may look closer: it may do something to each unit of work before it
looks at how that ended (`turnWith` and what follows it).
-/

namespace MeteredScript

/-- The names that occur in what a frame still runs. -/
def Frame.names : Frame → List String
  | .suite rest => blockNames rest
  | .whileLoop condition body orElse =>
    condition.names ++ blockNames body ++ optionalBlockNames orElse
  | .forLoop target body orElse _ =>
    target.names ++ blockNames body ++ optionalBlockNames orElse
  | .guarded handlers orElse final =>
    handlersNames handlers ++ optionalBlockNames orElse ++ optionalBlockNames final
  | .afterBody final | .handling _ final => optionalBlockNames final
  | .cleanup _ => []

/-- The names that occur in frames. -/
def framesNames : List Frame → List String
  | [] => []
  | frame :: frames => frame.names ++ framesNames frames

/-- The names that occur in what is left to do at a pause. -/
def Pause.names : Pause → List String
  | .yielded _ targets frames => exprsNames targets ++ framesNames frames
  | .returned _ => []

/-- The names that occur in what is left to do after a step. -/
def Progress.names : Progress → List String
  | .onward frames => framesNames frames
  | .paused pause => pause.names

/-- The names that occur in what a generator will run. -/
def GeneratorState.names : GeneratorState → List String
  | .notStarted body => blockNames body
  | .suspended targets frames => exprsNames targets ++ framesNames frames
  | .running | .completed _ => []

/-! ## A machine that looks closer

Units of work are what the machine looks at the outcome of. -/

section Look

variable (look : (α : Type) → Eval α → Eval α) (ev : Evaluator) (scope : ScopeId)

/-- What is left of a turn once its gas is paid. -/
def paidTurnWith (frame : Frame) (frames : List Frame) : Eval Progress := do
  match ← Eval.attempt (look Progress (advanceFrame ev scope frame frames)) with
  | .ok progress => return progress
  | .error s => recover ev scope s frames

/-- One turn of a machine that does something to each unit of work. -/
def turnWith (frame : Frame) (frames : List Frame) : Eval Progress := do
  match ← Eval.attempt (look Unit Eval.tick) with
  | .error s => recover ev scope s (frame :: frames)
  | .ok () => paidTurnWith look ev scope frame frames

/-- Turns until the body yields or ends. -/
def driveWith : (rounds : Nat) → List Frame → Eval Pause
  | 0, _ => throw .endless
  | _ + 1, [] => return .returned .none
  | rounds + 1, frame :: frames => do
    match ← turnWith look ev scope frame frames with
    | .onward frames => driveWith rounds frames
    | .paused pause => return pause

/-- The first step from a `yield`. -/
def wakeWith (targets : List Expr) (frames : List Frame) (resume : Resume) : Eval Progress := do
  match ← Eval.attempt (look Unit (deliver ev scope targets resume)) with
  | .ok () => return .onward frames
  | .error s => recover ev scope s frames

/-- The way from a `yield` to the next one. -/
def driveFromWith (targets : List Expr) (frames : List Frame) (resume : Resume) :
    Eval Pause := do
  match ← wakeWith look ev scope targets frames resume with
  | .onward rest => driveWith look ev scope (driveRounds ev frames) rest
  | .paused pause => return pause

/-- To do nothing to a unit of work makes no difference. -/
theorem driveWith_self (n : Nat) (frames : List Frame) :
    driveWith (fun _ x => x) ev scope n frames = drive ev scope n frames := by
  induction n generalizing frames with
  | zero => rfl
  | succ n ih =>
    cases frames with
    | nil => rfl
    | cons frame frames =>
      refine bind_congr fun progress => ?_
      cases progress with
      | onward frames => exact ih frames
      | paused pause => rfl

theorem driveFromWith_self (targets : List Expr) (frames : List Frame) (resume : Resume) :
    driveFromWith (fun _ x => x) ev scope targets frames resume =
      driveFrom ev scope targets frames resume := by
  refine bind_congr fun progress => ?_
  cases progress with
  | onward rest => exact driveWith_self ev scope _ rest
  | paused pause => rfl

end Look

/-! ## A turn taken apart -/

section Charged

variable (ev : Evaluator) (scope : ScopeId)

/-- What is left of a turn when its gas was asked for. -/
def chargedTurn (frame : Frame) (frames : List Frame) : Except Stop Unit → Eval Progress
  | .error s => recover ev scope s (frame :: frames)
  | .ok () => paidTurnWith (fun _ x => x) ev scope frame frames

/-- What is left of running frames after a turn. -/
def driveOn (rounds : Nat) : Progress → Eval Pause
  | .onward rest => drive ev scope rounds rest
  | .paused pause => return pause

/-- To run frames is to ask for gas, to do what can be done then, and to go on. -/
theorem drive_cons (rounds : Nat) (frame : Frame) (frames : List Frame) :
    drive ev scope (rounds + 1) (frame :: frames) =
      Eval.attempt Eval.tick >>= fun charged =>
        chargedTurn ev scope frame frames charged >>= driveOn ev scope rounds := by
  rw [← bind_assoc]
  rfl

end Charged

/-- Run the body of a generator that waits, given how. -/
def runBy (id : GeneratorId) (frames : List Frame) (x : Eval Pause) : Eval Value := do
  let outcome ← Eval.inFrame do
    Eval.setGeneratorState id .running
    Eval.ofStop (← Eval.withHandled (handledBy frames) x)
  settle id outcome

/-- What resuming a generator does, given how the bodies of those that wait are run. -/
def resumeBy (run : List Expr → List Frame → Eval Pause) (id : GeneratorId)
    (state : GeneratorState) (resume : Resume) : Eval Value := do
  match state, resume with
  | .running, _ => Eval.fail .alreadyExecuting
  | .completed _, .send _ => Eval.fail (.exhausted .none)
  | .completed _, .throw e => Eval.fail (.raised e)
  | .notStarted _, .throw e =>
    Eval.setGeneratorState id (.completed (.stopped (.fault (.raised e))))
    Eval.fail (.raised e)
  | .notStarted body, .send v =>
    if v.isNone then runBy id [.suite body] (run [] [.suite body])
    else Eval.fail (.typeFault .earlySend)
  | .suspended targets frames, _ => runBy id frames (run targets frames)

theorem resumeFrom_eq_resumeBy (ev : Evaluator) (id : GeneratorId) (state : GeneratorState)
    (resume : Resume) :
    resumeFrom ev id state resume = resumeBy (driveFrom ev id.scope · · resume) id state resume :=
  rfl

namespace Coupling

variable {c : Coupling}

/-- Two runs stay alike if the right one does something to a unit of work. -/
def Sees (c : Coupling) (look : (α : Type) → Eval α → Eval α) : Prop :=
  ∀ {α : Type} {Out P : α → Prop} {x y : Eval α}, c.SimTo Out P x y → c.SimTo Out P x (look α y)

theorem sees_self (c : Coupling) : c.Sees fun _ x => x := id

theorem shows_suiteOf {block : Option Block} {frames : List Frame}
    (hb : c.Shows (optionalBlockNames block)) (hf : c.Shows (framesNames frames)) :
    c.Shows (framesNames (suiteOf block frames)) := by
  cases block with
  | none => exact hf
  | some block => exact shows_append.2 ⟨hb, hf⟩

theorem shows_enterCleanup {cleanup : Option Block} {pending : Option Stop} {frames : List Frame}
    (hc : c.Shows (optionalBlockNames cleanup)) (hf : c.Shows (framesNames frames)) :
    c.Shows (framesNames (enterCleanup cleanup pending frames)) := by
  cases cleanup with
  | none => exact hf
  | some block => exact shows_append.2 ⟨hc, hf⟩

/-- **Listing faults as being handled keeps machines alike.** -/
structure Steady (c : Coupling) : Prop where
  pushHandling (f : Fault) : c.Sim (Eval.pushHandling f) (Eval.pushHandling f)
  popHandling : c.Sim Eval.popHandling Eval.popHandling
  withHandled {α : Type} {P : α → Prop} (faults : List Fault) {x y : Eval α} : c.SimOf P x y →
    c.SimTo (OutOfGas fun _ => False) (IfOk P) (Eval.withHandled faults x)
      (Eval.withHandled faults y)

/-- **Bringing a generator to another place in its life keeps machines
alike.** -/
structure Settled (c : Coupling) : Prop where
  setGeneratorState (id : GeneratorId) {state : GeneratorState} : c.Shows state.names →
    c.Sim (Eval.setGeneratorState id state) (Eval.setGeneratorState id state)

/-! ## Frames without gas

A run that is out of gas takes its frames away. It stops at those of `try` statements
that have a `finally` block, only to find that no statement of the block can be run. -/

/-- The frames that belong to `try` statements. -/
def tryFrames : List Frame → Nat
  | [] => 0
  | .guarded .. :: frames | .afterBody _ :: frames | .handling .. :: frames =>
    tryFrames frames + 1
  | .suite _ :: frames | .whileLoop .. :: frames | .forLoop .. :: frames
  | .cleanup _ :: frames => tryFrames frames

theorem tryFrames_le_cons (frame : Frame) (frames : List Frame) :
    tryFrames frames ≤ tryFrames (frame :: frames) := by
  cases frame <;> simp [tryFrames]

theorem tryFrames_le_length (frames : List Frame) : tryFrames frames ≤ frames.length := by
  induction frames with
  | nil => exact Nat.le_refl _
  | cons frame frames ih => cases frame <;> simp only [tryFrames, List.length_cons] <;> omega

theorem tryFrames_le_driveRounds (ev : Evaluator) (frames : List Frame) :
    tryFrames frames ≤ driveRounds ev frames := by
  have := tryFrames_le_length frames
  unfold driveRounds
  omega

/-- There are frames left to run, but fewer that belong to `try` statements. -/
def Shrunk (frames rest : List Frame) : Prop := rest ≠ [] ∧ tryFrames rest < tryFrames frames

theorem Shrunk.cons {frames rest : List Frame} (frame : Frame) (h : Shrunk frames rest) :
    Shrunk (frame :: frames) rest :=
  ⟨h.1, Nat.lt_of_lt_of_le h.2 (tryFrames_le_cons frame frames)⟩

/-- What the frames that take care of the lack of gas are like, if there are any. -/
abbrev Unwound (frames : List Frame) : Except Stop (List Frame) → Prop :=
  OutOfGas (Shrunk frames)

theorem Unwound.cons {frames : List Frame} (frame : Frame) {r : Except Stop (List Frame)}
    (h : Unwound frames r) : Unwound (frame :: frames) r :=
  h.mono fun _ => Shrunk.cons frame

/-- What a step that is out of gas leads to, if it leads on. -/
def Unwinding (frames : List Frame) : Progress → Prop
  | .onward rest => Shrunk frames rest
  | .paused _ => False

theorem Unwinding.cons {frames : List Frame} (frame : Frame) {p : Progress}
    (h : Unwinding frames p) : Unwinding (frame :: frames) p := by
  match p, h with
  | .onward _, h => exact Shrunk.cons frame h

section Unwinding

variable (ev : Evaluator) (s : ScopeId)

/-- The lack of gas in a `try` statement, given what it does to the frames around. -/
theorem unwinds_cleanup {frame : Frame} {frames : List Frame}
    (hlt : tryFrames frames < tryFrames (frame :: frames))
    (hrest : c.Unwinds (Unwound frames) (unwind ev s .gasExhausted frames))
    (cleanup : Option Block) :
    c.Unwinds (Unwound (frame :: frames))
      (if cleanup.isSome then
        Pure.pure (.ok (enterCleanup cleanup (some .gasExhausted) frames))
      else unwind ev s .gasExhausted frames) := by
  cases cleanup with
  | none => exact hrest.mono fun _ => Unwound.cons frame
  | some block =>
    have hshrunk : Shrunk (frame :: frames) (.suite block :: .cleanup (some .gasExhausted) :: frames) :=
      ⟨by simp, hlt⟩
    exact Unwinds.pure hshrunk

theorem unwinds_unwind (frames : List Frame) :
    c.Unwinds (Unwound frames) (unwind ev s .gasExhausted frames) := by
  induction frames with
  | nil => exact Unwinds.pure rfl
  | cons frame frames ih =>
    match frame with
    | .suite _ | .cleanup _ | .whileLoop .. | .forLoop .. =>
      exact ih.mono fun _ => Unwound.cons _
    | .guarded _ _ cleanup => exact unwinds_cleanup ev s (Nat.lt_succ_self _) ih cleanup
    | .afterBody cleanup => exact unwinds_cleanup ev s (Nat.lt_succ_self _) ih cleanup
    | .handling _ cleanup =>
      exact Unwinds.bind (Unwinds.tidy fun m => .handling m _) fun _ _ =>
        unwinds_cleanup ev s (Nat.lt_succ_self _) ih cleanup

/-- What is made of the frames that take care of the lack of gas. -/
theorem unwinds_afterUnwind {f : Except Stop (List Frame) → Eval Progress}
    (hok : ∀ rest, f (.ok rest) = Pure.pure (.onward rest))
    (herror : f (.error .gasExhausted) = MonadExcept.throw .gasExhausted) {frames : List Frame}
    (r : Except Stop (List Frame)) (h : Unwound frames r) :
    c.Unwinds (Unwinding frames) (f r) := by
  match r, h with
  | .ok rest, h =>
    rw [hok]
    exact Unwinds.pure h
  | .error _, rfl =>
    rw [herror]
    exact Unwinds.throw

theorem unwinds_recover (frames : List Frame) :
    c.Unwinds (Unwinding frames) (recover ev s .gasExhausted frames) :=
  Unwinds.bind (unwinds_unwind ev s frames) (unwinds_afterUnwind (fun _ => rfl) rfl)

theorem unwinds_turn (frame : Frame) (frames : List Frame) :
    c.Unwinds (Unwinding (frame :: frames)) (turn ev s frame frames) := by
  refine Unwinds.bind (Unwinds.attempt (Unwinds.charge 1)) fun charged hend => ?_
  rw [hend.eq]
  exact unwinds_recover ev s (frame :: frames)

/-- **Frames without gas are taken away**, one `try` statement after the other. -/
theorem unwinds_drive {n : Nat} {frames : List Frame} (hn : c.Patient ∨ tryFrames frames < n)
    (hne : frames ≠ []) : c.Unwinds (fun _ => False) (drive ev s n frames) := by
  induction n generalizing frames with
  | zero =>
    rcases hn with hp | hn
    · exact fun _ _ _ hparted => Unwinds.endless (hp _ _ _ hparted) _ _ _ hparted
    · omega
  | succ n ih =>
    obtain ⟨frame, frames, rfl⟩ := List.exists_cons_of_ne_nil hne
    refine Unwinds.bind (unwinds_turn ev s frame frames) fun progress hend => ?_
    match progress, hend with
    | .onward rest, hend => exact ih (hn.imp id fun hn => by have := hend.2; omega) hend.1

end Unwinding

namespace Couples

variable {ev ev' : Evaluator} (h : c.Couples ev ev')

include h

/-! ## One unit of work -/

theorem suspendAt {s : ScopeId} {operand : Option Expr}
    (hn : c.Shows (optionalNames operand)) {targets : List Expr} {frames : List Frame}
    (ht : c.Shows (exprsNames targets)) (hf : c.Shows (framesNames frames)) :
    c.SimOf (fun p => c.Shows p.names) (suspendAt ev s operand targets frames)
      (suspendAt ev' s operand targets frames) := by
  have hl (hl : c.Lenient) (p : Progress) := hl.shows p.names
  have hp : c.Shows (exprsNames targets ++ framesNames frames) := shows_append.2 ⟨ht, hf⟩
  cases operand with
  | none => exact SimOf.pure hp hl
  | some e => exact SimOf.bindOf (h.eval hn) (fun v _ => SimOf.pure hp hl) hl

/-- Running a statement in one piece. -/
theorem execWhole (s : ScopeId) {st : Stmt} (hn : c.Shows st.names)
    {frames : List Frame} (hf : c.Shows (framesNames frames)) :
    c.SimOf (fun p => c.Shows p.names)
      (do ev.exec st s; return Progress.onward frames)
      (do ev'.exec st s; return Progress.onward frames) :=
  have hl (hl : c.Lenient) (p : Progress) := hl.shows p.names
  SimOf.bindOf (h.exec hn) (fun _ _ => SimOf.pure hf hl) hl

/-- **Both runs begin a statement in the same way.** -/
theorem beginStmt {s : ScopeId} {st : Stmt} (hn : c.Shows st.names)
    {frames : List Frame} (hf : c.Shows (framesNames frames)) :
    c.SimOf (fun p => c.Shows p.names) (beginStmt ev s st frames)
      (beginStmt ev' s st frames) := by
  have hl (hl : c.Lenient) (p : Progress) := hl.shows p.names
  have hwhole := h.execWhole s hn hf
  obtain ⟨span, form⟩ := st
  unfold MeteredScript.beginStmt
  dsimp only at hwhole ⊢
  split
  · exact h.suspendAt hn (shows_nil c) hf
  · obtain ⟨ht, ho⟩ := shows_append.1 hn
    exact h.suspendAt ho ht hf
  · simp only [Stmt.names, StmtForm.names, shows_append] at hn
    obtain ⟨⟨hcondition, hbody⟩, horElse⟩ := hn
    refine SimOf.bindOf (h.holds hcondition) (fun b _ => ?_) hl
    cases b with
    | true => exact SimOf.pure (shows_append.2 ⟨hbody, hf⟩) hl
    | false => exact SimOf.pure (shows_suiteOf horElse hf) hl
  · exact SimOf.pure (shows_append.2 ⟨hn, hf⟩) hl
  · simp only [Stmt.names, StmtForm.names, shows_append] at hn
    obtain ⟨⟨⟨htarget, hiterable⟩, hbody⟩, horElse⟩ := hn
    refine SimOf.bindOf (h.eval hiterable) (fun v _ => ?_) hl
    refine SimOf.bindOf (h.startIteration v) (fun cursor _ => SimOf.pure ?_ hl) hl
    exact shows_append.2 ⟨shows_append.2 ⟨shows_append.2 ⟨htarget, hbody⟩, horElse⟩, hf⟩
  · simp only [Stmt.names, StmtForm.names, shows_append] at hn
    obtain ⟨⟨⟨hbody, hhandlers⟩, horElse⟩, hcleanup⟩ := hn
    refine SimOf.pure (shows_append.2 ⟨hbody, shows_append.2 ⟨?_, hf⟩⟩) hl
    exact shows_append.2 ⟨shows_append.2 ⟨hhandlers, horElse⟩, hcleanup⟩
  · simp only [Stmt.names, StmtForm.names, shows_append] at hn
    refine SimOf.bindOf (h.eval hn.1) (fun v _ => ?_) hl
    refine SimOf.bindOf (h.selectCase v hn.2) (fun body hbody => ?_) hl
    exact SimOf.pure (shows_suiteOf hbody hf) hl
  · exact hwhole

/-- **Both runs do the same unit of work.** Only at the end of a handler is the
list of faults being handled touched. -/
theorem advanceFrame {s : ScopeId} {frame : Frame} (hn : c.Shows frame.names)
    (hpop : ∀ f cleanup, frame = .handling f cleanup → c.Sim Eval.popHandling Eval.popHandling)
    {frames : List Frame} (hf : c.Shows (framesNames frames)) :
    c.SimOf (fun p => c.Shows p.names) (advanceFrame ev s frame frames)
      (advanceFrame ev' s frame frames) := by
  have hl (hl : c.Lenient) (p : Progress) := hl.shows p.names
  match frame, hn with
  | .suite [], _ => exact SimOf.pure hf hl
  | .suite (st :: rest), hn =>
    obtain ⟨hst, hrest⟩ := shows_append.1 hn
    have hf' : c.Shows (framesNames (.suite rest :: frames)) := shows_append.2 ⟨hrest, hf⟩
    unfold MeteredScript.advanceFrame
    dsimp only
    split
    · exact h.beginStmt hst hf'
    · exact h.execWhole s hst hf'
  | .whileLoop condition body orElse, hn =>
    have hf' : c.Shows (framesNames (.whileLoop condition body orElse :: frames)) :=
      shows_append.2 ⟨hn, hf⟩
    simp only [Frame.names, shows_append] at hn
    obtain ⟨⟨hcondition, hbody⟩, horElse⟩ := hn
    refine SimOf.bindOf (h.holds hcondition) (fun b _ => ?_) hl
    cases b with
    | true => exact SimOf.pure (shows_append.2 ⟨hbody, hf'⟩) hl
    | false => exact SimOf.pure (shows_suiteOf horElse hf) hl
  | .forLoop target body orElse cursor, hn =>
    have hf' (cursor : Cursor) :
        c.Shows (framesNames (.forLoop target body orElse cursor :: frames)) :=
      shows_append.2 ⟨hn, hf⟩
    simp only [Frame.names, shows_append] at hn
    obtain ⟨⟨htarget, hbody⟩, horElse⟩ := hn
    refine SimOf.bindOf (h.next? cursor) (fun next _ => ?_) hl
    rcases next with _ | ⟨item, cursor⟩
    · exact SimOf.pure (shows_suiteOf horElse hf) hl
    · refine SimOf.bindOf (h.assignTarget target item htarget) (fun _ _ => ?_) hl
      exact SimOf.pure (shows_append.2 ⟨hbody, hf' cursor⟩) hl
  | .guarded handlers orElse cleanup, hn =>
    simp only [Frame.names, shows_append] at hn
    obtain ⟨⟨-, horElse⟩, hcleanup⟩ := hn
    cases orElse with
    | none => exact SimOf.pure (shows_enterCleanup hcleanup hf) hl
    | some block =>
      exact SimOf.pure (shows_append.2 ⟨horElse, shows_append.2 ⟨hcleanup, hf⟩⟩) hl
  | .afterBody cleanup, hn => exact SimOf.pure (shows_enterCleanup hn hf) hl
  | .handling f cleanup, hn =>
    refine SimOf.bindOf (hpop f cleanup rfl) (fun _ _ => ?_) hl
    exact SimOf.pure (shows_enterCleanup hn hf) hl
  | .cleanup (some pending), _ => exact SimOf.throw pending hl
  | .cleanup none, _ => exact SimOf.pure hf hl

/-! ## Stops -/

/-- What is known of the frames that take care of a stop. -/
abbrev FramesShown (c : Coupling) : Except Stop (List Frame) → Prop :=
  IfOk fun frames => c.Shows (framesNames frames)

omit h in
theorem framesShown_of_lenient (hl : c.Lenient) (result : Except Stop (List Frame)) :
    FramesShown c result :=
  fun frames _ => hl.shows (framesNames frames)

theorem enterHandler (hc : c.Steady) {s : ScopeId} {handlers : List Handler}
    (hn : c.Shows (handlersNames handlers)) {cleanup : Option Block}
    (hcleanup : c.Shows (optionalBlockNames cleanup)) (stop : Stop) {frames : List Frame}
    (hf : c.Shows (framesNames frames)) :
    c.SimTo (OutOfGas fun _ => False) (FramesShown c)
      (enterHandler ev s handlers cleanup stop frames)
      (enterHandler ev' s handlers cleanup stop frames) := by
  have hl (hl : c.Lenient) := framesShown_of_lenient hl
  have herror (s : Stop) : c.SimTo (OutOfGas fun _ => False) (FramesShown c)
      (Pure.pure (.error s)) (Pure.pure (.error s)) := SimTo.pure (ifOk_error s) hl
  match stop with
  | .fault f =>
    have hfind := h.findHandler (s := s) f.exceptionKind hn
    refine SimTo.bindOf (SimTo.attempt hfind) (fun found hfound => ?_) (fun r hr => ?_) hl
    · match found with
      | .ok (some handler) =>
        obtain ⟨hname, hbody⟩ := shows_append.1 (hfound _ rfl handler rfl)
        refine SimOf.bindOf (h.bindException hname f) (fun _ _ => ?_) hl
        refine SimOf.bindOf (hc.pushHandling f) (fun _ _ => SimTo.pure (ifOk_ok ?_) hl) hl
        exact shows_append.2 ⟨hbody, shows_append.2 ⟨hcleanup, hf⟩⟩
      | .ok none => exact herror _
      | .error raised => exact herror raised
    · rw [hr.eq]
      exact Unwinds.pure rfl
  | .returns _ | .breaks | .continues | .gasExhausted | .endless => exact herror _

/-- **The same frames take care of a stop in both runs.** -/
theorem unwind (hc : c.Steady) {s : ScopeId} (stop : Stop)
    {frames : List Frame} (hf : c.Shows (framesNames frames)) :
    c.SimTo (Unwound frames) (FramesShown c) (unwind ev s stop frames)
      (unwind ev' s stop frames) := by
  have hl (hl : c.Lenient) := framesShown_of_lenient hl
  have hok {frames frames' : List Frame} (hf : c.Shows (framesNames frames')) :
      c.SimTo (Unwound frames) (FramesShown c) (Pure.pure (.ok frames'))
        (Pure.pure (.ok frames')) :=
    SimTo.pure (ifOk_ok hf) hl
  induction frames generalizing stop with
  | nil => exact SimTo.pure (ifOk_error stop) hl
  | cons frame frames ih =>
    have hall := hf
    rw [framesNames, shows_append] at hf
    obtain ⟨hframe, hf⟩ := hf
    have hrest (stop : Stop) : c.SimTo (Unwound (frame :: frames)) (FramesShown c)
        (MeteredScript.unwind ev s stop frames) (MeteredScript.unwind ev' s stop frames) :=
      (ih stop hf).mono (fun _ => Unwound.cons frame) fun _ => id
    -- a `finally` block takes care of every stop; without one the search goes on
    have hcleanup {cleanup : Option Block} (hn : c.Shows (optionalBlockNames cleanup))
        (stop : Stop) :
        c.SimTo (Unwound (frame :: frames)) (FramesShown c)
          (if cleanup.isSome then Pure.pure (.ok (enterCleanup cleanup (some stop) frames))
            else MeteredScript.unwind ev s stop frames)
          (if cleanup.isSome then Pure.pure (.ok (enterCleanup cleanup (some stop) frames))
            else MeteredScript.unwind ev' s stop frames) := by
      split
      · exact hok (shows_enterCleanup hn hf)
      · exact hrest stop
    match frame, hframe with
    | .suite _, _ | .cleanup _, _ => exact hrest stop
    | .whileLoop condition body orElse, _ | .forLoop target body orElse cursor, _ =>
      cases stop with
      | breaks => exact hok hf
      | continues => exact hok hall
      | fault | returns | gasExhausted | endless => exact hrest _
    | .guarded handlers orElse cleanup, hframe =>
      simp only [Frame.names, shows_append] at hframe
      obtain ⟨⟨hhandlers, -⟩, hn⟩ := hframe
      refine SimTo.bindOf (h.enterHandler hc hhandlers hn stop hf) (fun result hresult => ?_)
        (fun result hend => ?_) hl
      · cases result with
        | ok frames => exact hok (hresult frames rfl)
        | error stop => exact hcleanup hn stop
      · rw [hend.eq]
        exact unwinds_cleanup ev s (Nat.lt_succ_self _) (unwinds_unwind ev s frames) cleanup
    | .afterBody cleanup, hframe => exact hcleanup hframe stop
    | .handling f cleanup, hframe =>
      exact SimOf.bindOf hc.popHandling (fun _ _ => hcleanup hframe stop) hl

/-! ## Running -/

theorem recover (hc : c.Steady) {s : ScopeId} (stop : Stop) {frames : List Frame}
    (hf : c.Shows (framesNames frames)) :
    c.SimTo (Unwinding frames) (fun p => c.Shows p.names) (recover ev s stop frames)
      (recover ev' s stop frames) := by
  have hl (hl : c.Lenient) (p : Progress) := hl.shows p.names
  refine SimTo.bindOf (h.unwind hc stop hf) (fun result hresult => ?_)
    (unwinds_afterUnwind (fun _ => rfl) rfl) hl
  match result with
  | .ok frames => exact SimTo.pure (hresult frames rfl) hl
  | .error (.returns v) => exact SimTo.pure (shows_nil c) hl
  | .error (.fault _) | .error .breaks | .error .continues | .error .gasExhausted
  | .error .endless => exact (SimOf.throw _ hl).to

theorem paidTurnWith (hc : c.Steady) {look : (α : Type) → Eval α → Eval α}
    (hlook : c.Sees look) {s : ScopeId} {frame : Frame} (hn : c.Shows frame.names)
    {frames : List Frame} (hf : c.Shows (framesNames frames)) :
    c.SimTo (Unwinding (frame :: frames)) (fun p => c.Shows p.names)
      (paidTurnWith (fun _ x => x) ev s frame frames) (paidTurnWith look ev' s frame frames) := by
  have hl (hl : c.Lenient) (p : Progress) := hl.shows p.names
  have hadvance := h.advanceFrame (s := s) hn (fun _ _ _ => hc.popHandling) hf
  refine SimTo.bindOf (SimTo.attempt (hlook hadvance)) (fun result hresult => ?_)
    (fun result hend => ?_) hl
  · match result with
    | .ok progress => exact SimTo.pure (hresult progress rfl) hl
    | .error stop =>
      exact (h.recover hc stop hf).mono (fun _ => Unwinding.cons frame) fun _ => id
  · rw [hend.eq]
    exact (unwinds_recover ev s frames).mono fun _ => Unwinding.cons frame

/-- **Both runs take the same turn.** -/
theorem turnWith (hc : c.Steady) {look : (α : Type) → Eval α → Eval α} (hlook : c.Sees look)
    {s : ScopeId} {frame : Frame} (hn : c.Shows frame.names)
    {frames : List Frame} (hf : c.Shows (framesNames frames)) :
    c.SimTo (Unwinding (frame :: frames)) (fun p => c.Shows p.names) (turn ev s frame frames)
      (turnWith look ev' s frame frames) := by
  have hl (hl : c.Lenient) (p : Progress) := hl.shows p.names
  refine SimTo.bindOf (SimTo.attempt (hlook h.tick)) (fun charged _ => ?_)
    (fun charged hend => ?_) hl
  · match charged with
    | .error stop => exact h.recover hc stop (shows_append.2 ⟨hn, hf⟩)
    | .ok () => exact h.paidTurnWith hc hlook hn hf
  · rw [hend.eq]
    exact unwinds_recover ev s (frame :: frames)

/-- One turn, given that the turns after it do the same. A run that is out of gas takes
no more of them than there are frames of `try` statements. -/
theorem driveWith_succ (hc : c.Steady) {look : (α : Type) → Eval α → Eval α}
    (hlook : c.Sees look) {s : ScopeId} {n n' : Nat} {frames : List Frame}
    (hp : c.Patient ∨ tryFrames frames ≤ n) (hf : c.Shows (framesNames frames))
    (hn : ∀ {rest}, c.Shows (framesNames rest) →
      c.SimOf (fun p => c.Shows p.names) (drive ev s n rest) (driveWith look ev' s n' rest)) :
    c.SimOf (fun p => c.Shows p.names) (drive ev s (n + 1) frames)
      (driveWith look ev' s (n' + 1) frames) := by
  have hl (hl : c.Lenient) (p : Pause) := hl.shows p.names
  cases frames with
  | nil => exact SimOf.pure (shows_nil c) hl
  | cons frame frames =>
    rw [framesNames, shows_append] at hf
    refine SimTo.bindOf (h.turnWith hc hlook hf.1 hf.2) (fun progress hp => ?_)
      (fun progress hend => ?_) hl
    · match progress with
      | .onward frames => exact hn hp
      | .paused pause => exact SimOf.pure hp hl
    · match progress, hend with
      | .onward rest, hend =>
        exact unwinds_drive ev s (hp.imp id fun hp => Nat.lt_of_lt_of_le hend.2 hp) hend.1

theorem driveWith_self (hc : c.Steady) {look : (α : Type) → Eval α → Eval α}
    (hlook : c.Sees look) (hp : c.Patient) {s : ScopeId} (n : Nat) {frames : List Frame}
    (hf : c.Shows (framesNames frames)) :
    c.SimOf (fun p => c.Shows p.names) (drive ev s n frames)
      (driveWith look ev' s n frames) := by
  have hl (hl : c.Lenient) (p : Pause) := hl.shows p.names
  induction n generalizing frames with
  | zero => exact SimOf.throw .endless hl
  | succ n ih => exact h.driveWith_succ hc hlook (.inl hp) hf ih

/-- **Two runs of frames do the same.** -/
theorem driveWith (hc : c.Steady) {look : (α : Type) → Eval α → Eval α} (hlook : c.Sees look)
    (hp : c.Patient) {s : ScopeId} {n n' : Nat} (hn : c.Rounds n n')
    {frames : List Frame} (hf : c.Shows (framesNames frames)) :
    c.SimOf (fun p => c.Shows p.names) (drive ev s n frames)
      (driveWith look ev' s n' frames) := by
  have hl (hl : c.Lenient) (p : Pause) := hl.shows p.names
  induction hn generalizing frames with
  | done => exact SimOf.throw .endless hl
  | left n hpl => exact SimOf.endless_left hpl (h.driveWith_self hc hlook hp n hf)
  | right n hpr => exact SimOf.endless_right hpr (h.driveWith_self hc hlook hp n hf)
  | more _ ih => exact h.driveWith_succ hc hlook (.inl hp) hf ih

theorem driveRounds (frames : List Frame) :
    c.Rounds (driveRounds ev frames) (driveRounds ev' frames) :=
  ((h.rounds.mul 3).add frames.length).add 3

theorem wakeWith (hc : c.Steady) {look : (α : Type) → Eval α → Eval α} (hlook : c.Sees look)
    {s : ScopeId} {targets : List Expr} (ht : c.Shows (exprsNames targets))
    {frames : List Frame} (hf : c.Shows (framesNames frames)) (resume : Resume) :
    c.SimTo (Unwinding frames) (fun p => c.Shows p.names) (wake ev s targets frames resume)
      (wakeWith look ev' s targets frames resume) := by
  have hl (hl : c.Lenient) (p : Progress) := hl.shows p.names
  have hdeliver : c.Sim (deliver ev s targets resume) (deliver ev' s targets resume) := by
    cases resume with
    | send v => exact h.assignAll v ht
    | throw e => exact Sim.fail _
  refine SimTo.bindOf (SimTo.attempt (hlook hdeliver)) (fun result _ => ?_)
    (fun result hend => ?_) hl
  · match result with
    | .ok () => exact SimTo.pure hf hl
    | .error stop => exact h.recover hc stop hf
  · rw [hend.eq]
    exact unwinds_recover ev s frames

theorem driveFromWith (hc : c.Steady) {look : (α : Type) → Eval α → Eval α}
    (hlook : c.Sees look) (hp : c.Patient) {s : ScopeId} {targets : List Expr}
    (ht : c.Shows (exprsNames targets)) {frames : List Frame}
    (hf : c.Shows (framesNames frames)) (resume : Resume) :
    c.SimOf (fun p => c.Shows p.names) (driveFrom ev s targets frames resume)
      (driveFromWith look ev' s targets frames resume) := by
  have hl (hl : c.Lenient) (p : Pause) := hl.shows p.names
  refine SimTo.bindOf (h.wakeWith hc hlook ht hf resume) (fun progress hp => ?_)
    (fun progress hend => ?_) hl
  · match progress with
    | .onward rest => exact h.driveWith hc hlook ‹_› (h.driveRounds frames) hp
    | .paused pause => exact SimOf.pure hp hl
  · match progress, hend with
    | .onward rest, hend =>
      refine unwinds_drive ev s (.inr (Nat.lt_of_lt_of_le hend.2 ?_)) hend.1
      exact tryFrames_le_driveRounds ev frames

/-! The machine that does not look closer is the special case that is used most. -/

theorem turn (hc : c.Steady) {s : ScopeId} {frame : Frame} (hn : c.Shows frame.names)
    {frames : List Frame} (hf : c.Shows (framesNames frames)) :
    c.SimTo (Unwinding (frame :: frames)) (fun p => c.Shows p.names) (turn ev s frame frames)
      (turn ev' s frame frames) :=
  h.turnWith hc c.sees_self hn hf

theorem wake (hc : c.Steady) {s : ScopeId} {targets : List Expr}
    (ht : c.Shows (exprsNames targets)) {frames : List Frame}
    (hf : c.Shows (framesNames frames)) (resume : Resume) :
    c.SimTo (Unwinding frames) (fun p => c.Shows p.names) (wake ev s targets frames resume)
      (wake ev' s targets frames resume) :=
  h.wakeWith hc c.sees_self ht hf resume

theorem drive (hc : c.Steady) (hp : c.Patient) {s : ScopeId} {n n' : Nat} (hn : c.Rounds n n')
    {frames : List Frame} (hf : c.Shows (framesNames frames)) :
    c.SimOf (fun p => c.Shows p.names) (drive ev s n frames) (drive ev' s n' frames) := by
  have hdrive := h.driveWith hc c.sees_self hp (s := s) hn hf
  rwa [MeteredScript.driveWith_self] at hdrive

theorem driveFrom (hc : c.Steady) (hp : c.Patient) {s : ScopeId} {targets : List Expr}
    (ht : c.Shows (exprsNames targets)) {frames : List Frame}
    (hf : c.Shows (framesNames frames)) (resume : Resume) :
    c.SimOf (fun p => c.Shows p.names) (driveFrom ev s targets frames resume)
      (driveFrom ev' s targets frames resume) := by
  have hdrive := h.driveFromWith hc c.sees_self hp (s := s) ht hf resume
  rwa [driveFromWith_self] at hdrive

/-! ## The protocol -/

omit h in
theorem settle (hc : c.Settled) (id : GeneratorId) {outcome : Except Stop Pause}
    (ho : IfOk (fun p => c.Shows p.names) outcome) :
    c.Sim (settle id outcome) (settle id outcome) := by
  match outcome with
  | .ok (.yielded v targets frames) =>
    exact Sim.bind (hc.setGeneratorState id (ho _ rfl)) fun _ => Sim.pure v
  | .ok (.returned v) =>
    exact Sim.bind (hc.setGeneratorState id (shows_nil c)) fun _ => Sim.fail _
  | .error s => exact Sim.bind (hc.setGeneratorState id (shows_nil c)) fun _ => Sim.throw _

omit h in
/-- Running a generator that waits does the same if driving it does. -/
theorem runBy (hl : c.Lawful) (hc : c.Settled) {id : GeneratorId} {frames : List Frame}
    {x y : Eval Pause}
    (hdrive : c.SimTo (OutOfGas fun _ => False) (IfOk fun p => c.Shows p.names)
      (Eval.withHandled (handledBy frames) x) (Eval.withHandled (handledBy frames) y)) :
    c.Sim (runBy id frames x) (runBy id frames y) := by
  have hp (hl : c.Lenient) (p : Pause) := hl.shows p.names
  refine SimTo.bindOf (hl.inFrame (P := fun p => c.Shows p.names) ?_) (fun outcome ho => ?_)
    (fun outcome hend => ?_) fun _ _ => trivial
  · refine SimOf.bindOf (hc.setGeneratorState id (shows_nil c)) (fun _ _ => ?_) hp
    refine SimTo.bindOf hdrive (fun result hresult => SimOf.ofStop hresult hp)
      (fun result hend => ?_) hp
    rw [hend.eq]
    exact Unwinds.throw
  · exact Couples.settle hc id ho
  · rw [hend.eq]
    exact Unwinds.bind (Unwinds.tidy fun m => .setGenerator m id.scope) fun _ _ =>
      Unwinds.throw

omit h in
/-- Resuming a generator does the same if running one that waits does. -/
theorem resumeBy (hc : c.Settled) {id : GeneratorId} {resume : Resume}
    {run run' : List Expr → List Frame → Eval Pause}
    (hrun : ∀ targets frames, c.Shows (exprsNames targets) → c.Shows (framesNames frames) →
      c.Sim (MeteredScript.runBy id frames (run targets frames))
        (MeteredScript.runBy id frames (run' targets frames)))
    {state : GeneratorState} (hs : c.Shows state.names) :
    c.Sim (resumeBy run id state resume) (resumeBy run' id state resume) := by
  match state, resume, hs with
  | .running, _, _ => exact Sim.fail _
  | .completed _, .send _, _ => exact Sim.fail _
  | .completed _, .throw _, _ => exact Sim.fail _
  | .notStarted _, .throw _, _ =>
    exact Sim.bind (hc.setGeneratorState id (shows_nil c)) fun _ => Sim.fail _
  | .notStarted body, .send v, hs =>
    have ht : c.Shows (exprsNames []) := shows_nil c
    have hf : c.Shows (framesNames [.suite body]) := shows_append.2 ⟨hs, shows_nil c⟩
    exact Sim.ite (hrun _ _ ht hf) (Sim.fail _)
  | .suspended targets frames, resume, hs =>
    obtain ⟨ht, hf⟩ := shows_append.1 hs
    exact hrun targets frames ht hf

/-- **Two runs of a generator do the same.** -/
theorem resumeFrom (hc : c.Steady) (hp : c.Patient) (hc' : c.Settled) (id : GeneratorId)
    {state : GeneratorState} (hs : c.Shows state.names) (resume : Resume) :
    c.Sim (resumeFrom ev id state resume) (resumeFrom ev' id state resume) := by
  rw [resumeFrom_eq_resumeBy, resumeFrom_eq_resumeBy]
  refine resumeBy hc' (fun targets frames ht hf => ?_) hs
  exact runBy h.toLawful hc' (hc.withHandled _ (h.driveFrom hc hp ht hf resume))

end Couples

end Coupling

end MeteredScript
