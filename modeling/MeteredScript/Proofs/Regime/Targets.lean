import MeteredScript.Proofs.Balance.Handlers
import MeteredScript.Proofs.Dialogue.Silent
import MeteredScript.Proofs.Regime.Assignment

/-!
# Targets that are assigned to between turns

Most assignments in the body of a generator are statements that are run in one
piece. Only the targets of a `yield` and those of a loop around one are assigned
to by the machine that drives the body. The objects of the attributes among them
can be read off the frames, and turns bring no new ones (`Progress.Sets`).
-/

namespace MeteredScript

/-! ## Objects of attributes -/

mutual

/-- **The expressions whose values attributes are set of** when a statement is
run in pieces. -/
def Stmt.drivenObjects : Stmt → List Expr
  | ⟨_, form⟩ => form.drivenObjects

def StmtForm.drivenObjects : StmtForm → List Expr
  | .assign targets (.yield _) => exprsAttributeObjects targets
  | .branch _ body orElse | .whileLoop _ body orElse =>
    blockDrivenObjects body ++ optionalDrivenObjects orElse
  | .forLoop target _ body orElse =>
    target.attributeObjects ++ (blockDrivenObjects body ++ optionalDrivenObjects orElse)
  | .attempt body handlers orElse cleanup =>
    blockDrivenObjects body ++ (handlersDrivenObjects handlers ++
      (optionalDrivenObjects orElse ++ optionalDrivenObjects cleanup))
  | .select _ cases => casesDrivenObjects cases
  | _ => []

def blockDrivenObjects : List Stmt → List Expr
  | [] => []
  | s :: ss => s.drivenObjects ++ blockDrivenObjects ss

def optionalDrivenObjects : Option (List Stmt) → List Expr
  | none => []
  | some block => blockDrivenObjects block

def handlersDrivenObjects : List Handler → List Expr
  | [] => []
  | ⟨_, _, body⟩ :: hs => blockDrivenObjects body ++ handlersDrivenObjects hs

def casesDrivenObjects : List Case → List Expr
  | [] => []
  | ⟨_, _, body⟩ :: cs => blockDrivenObjects body ++ casesDrivenObjects cs

end

/-- The same for a frame. -/
def Frame.drivenObjects : Frame → List Expr
  | .suite block => blockDrivenObjects block
  | .whileLoop _ body orElse => blockDrivenObjects body ++ optionalDrivenObjects orElse
  | .forLoop target body orElse _ =>
    target.attributeObjects ++ (blockDrivenObjects body ++ optionalDrivenObjects orElse)
  | .guarded handlers orElse final =>
    handlersDrivenObjects handlers ++ (optionalDrivenObjects orElse ++
      optionalDrivenObjects final)
  | .afterBody final | .handling _ final => optionalDrivenObjects final
  | .cleanup _ => []

/-- The same for a generator that waits. -/
def GeneratorState.drivenObjects : GeneratorState → List Expr
  | .notStarted body => blockDrivenObjects body
  | .suspended targets frames =>
    exprsAttributeObjects targets ++ frames.flatMap Frame.drivenObjects
  | .running | .completed _ => []

/-! ## Turns -/

variable {P : Expr → Prop} {frame : Frame} {frames : List Frame}

/-- All objects of frames are of a kind. -/
def FramesSet (P : Expr → Prop) (frames : List Frame) : Prop :=
  ∀ o ∈ frames.flatMap Frame.drivenObjects, P o

/-- All objects of what a turn leads to are of a kind. -/
def Progress.Sets (P : Expr → Prop) : Progress → Prop
  | .onward frames => FramesSet P frames
  | .paused (.yielded _ targets frames) =>
    (∀ o ∈ exprsAttributeObjects targets, P o) ∧ FramesSet P frames
  | .paused (.returned _) => True

@[simp] theorem framesSet_nil : FramesSet P [] := nofun

@[simp] theorem framesSet_cons :
    FramesSet P (frame :: frames) ↔ (∀ o ∈ frame.drivenObjects, P o) ∧ FramesSet P frames := by
  simp only [FramesSet, List.flatMap_cons, List.forall_mem_append]

theorem FramesSet.suiteOf {block : Option Block}
    (hb : ∀ o ∈ optionalDrivenObjects block, P o) (hf : FramesSet P frames) :
    FramesSet P (suiteOf block frames) := by
  cases block with
  | none => exact hf
  | some block => exact framesSet_cons.2 ⟨hb, hf⟩

theorem FramesSet.enterCleanup {cleanup : Option Block} {pending : Option Stop}
    (hc : ∀ o ∈ optionalDrivenObjects cleanup, P o) (hf : FramesSet P frames) :
    FramesSet P (enterCleanup cleanup pending frames) := by
  cases cleanup with
  | none => exact hf
  | some block => exact framesSet_cons.2 ⟨hc, framesSet_cons.2 ⟨nofun, hf⟩⟩

theorem mem_handlersDrivenObjects {handler : Handler} {handlers : List Handler}
    (member : handler ∈ handlers) : blockDrivenObjects handler.body ⊆
      handlersDrivenObjects handlers := by
  induction handlers with
  | nil => cases member
  | cons first rest ih =>
    obtain ⟨_, _, body⟩ := first
    rcases List.mem_cons.1 member with rfl | member
    · exact List.subset_append_left _ _
    · exact List.Subset.trans (ih member) (List.subset_append_right _ _)

theorem mem_casesDrivenObjects {c : Case} {cases : List Case} (member : c ∈ cases) :
    blockDrivenObjects c.body ⊆ casesDrivenObjects cases := by
  induction cases with
  | nil => cases member
  | cons first rest ih =>
    obtain ⟨_, _, body⟩ := first
    rcases List.mem_cons.1 member with rfl | member
    · exact List.subset_append_left _ _
    · exact List.Subset.trans (ih member) (List.subset_append_right _ _)

section Turns

variable (ev : Evaluator) (scope : ScopeId)

theorem sets_beginStmt {s : Stmt} (hs : ∀ o ∈ s.drivenObjects, P o) (hf : FramesSet P frames) :
    Eval.Gives (Progress.Sets P) (beginStmt ev scope s frames) := by
  have paused (operand : Option Expr) {targets : List Expr}
      (ht : ∀ o ∈ exprsAttributeObjects targets, P o) :
      Eval.Gives (Progress.Sets P) (suspendAt ev scope operand targets frames) := by
    cases operand with
    | none => exact .pure ⟨ht, hf⟩
    | some e => exact .bind fun v => .pure ⟨ht, hf⟩
  obtain ⟨span, form⟩ := s
  rw [Stmt.drivenObjects] at hs
  unfold beginStmt
  dsimp only
  split
  · exact paused _ nofun
  · exact paused _ hs
  · rw [StmtForm.drivenObjects, List.forall_mem_append] at hs
    refine .bind fun b => ?_
    split
    · exact .pure (framesSet_cons.2 ⟨hs.1, hf⟩)
    · exact .pure (hf.suiteOf hs.2)
  · exact .pure (framesSet_cons.2 ⟨hs, hf⟩)
  · exact .bind fun v => .bind fun cursor => .pure (framesSet_cons.2 ⟨hs, hf⟩)
  · rw [StmtForm.drivenObjects, List.forall_mem_append] at hs
    exact .pure (framesSet_cons.2 ⟨hs.1, framesSet_cons.2 ⟨hs.2, hf⟩⟩)
  · rename_i subject cases
    refine .bind fun v => (Talk.gives_selectCase ev scope v cases).bind_gives fun found selected => ?_
    refine .pure (hf.suiteOf fun o member => ?_)
    cases found with
    | none => simp [optionalDrivenObjects] at member
    | some body =>
      obtain ⟨c, hc, rfl⟩ := selected body rfl
      rw [optionalDrivenObjects] at member
      rw [StmtForm.drivenObjects] at hs
      exact hs o (mem_casesDrivenObjects hc member)
  · exact .bind fun _ => .pure hf

theorem sets_advanceFrame (h : FramesSet P (frame :: frames)) :
    Eval.Gives (Progress.Sets P) (advanceFrame ev scope frame frames) := by
  obtain ⟨hframe, hf⟩ := framesSet_cons.1 h
  match frame, h, hframe with
  | .suite [], _, _ | .cleanup none, _, _ => exact .pure hf
  | .suite (s :: rest), _, hframe =>
    rw [Frame.drivenObjects, blockDrivenObjects, List.forall_mem_append] at hframe
    have around : FramesSet P (.suite rest :: frames) := framesSet_cons.2 ⟨hframe.2, hf⟩
    unfold advanceFrame
    dsimp only
    split
    · exact sets_beginStmt ev scope hframe.1 around
    · exact .bind fun _ => .pure around
  | .whileLoop condition body orElse, h, hframe =>
    rw [Frame.drivenObjects, List.forall_mem_append] at hframe
    refine .bind fun b => ?_
    split
    · exact .pure (framesSet_cons.2 ⟨hframe.1, h⟩)
    · exact .pure (hf.suiteOf hframe.2)
  | .forLoop target body orElse cursor, h, hframe =>
    have inner := hframe
    rw [Frame.drivenObjects, List.forall_mem_append, List.forall_mem_append] at inner
    refine .bind fun next => ?_
    match next with
    | some (item, cursor) =>
      exact .bind fun _ =>
        .pure (framesSet_cons.2 ⟨inner.2.1, framesSet_cons.2 ⟨hframe, hf⟩⟩)
    | none => exact .pure (hf.suiteOf inner.2.2)
  | .guarded handlers (some block) cleanup, _, hframe =>
    rw [Frame.drivenObjects, List.forall_mem_append, List.forall_mem_append] at hframe
    exact .pure (framesSet_cons.2 ⟨hframe.2.1, framesSet_cons.2 ⟨hframe.2.2, hf⟩⟩)
  | .guarded handlers none cleanup, _, hframe =>
    rw [Frame.drivenObjects, List.forall_mem_append, List.forall_mem_append] at hframe
    exact .pure (hf.enterCleanup hframe.2.2)
  | .afterBody cleanup, _, hframe => exact .pure (hf.enterCleanup hframe)
  | .handling f cleanup, _, hframe => exact .bind fun _ => .pure (hf.enterCleanup hframe)
  | .cleanup (some pending), _, _ => exact .throw pending

/-- Frames that a stop leads to. -/
def StopSets (P : Expr → Prop) (r : Except Stop (List Frame)) : Prop :=
  ∀ frames, r = .ok frames → FramesSet P frames

theorem sets_enterHandler {handlers : List Handler}
    (hh : ∀ o ∈ handlersDrivenObjects handlers, P o) {cleanup : Option Block}
    (hc : ∀ o ∈ optionalDrivenObjects cleanup, P o) (stop : Stop) (hf : FramesSet P frames) :
    Eval.Gives (StopSets P) (enterHandler ev scope handlers cleanup stop frames) := by
  match stop with
  | .fault f =>
    have found := (Talk.gives_findHandler ev scope f.exceptionKind handlers).attempt
    refine found.bind_gives fun result given => ?_
    match result, given with
    | .ok none, _ | .error raised, _ => exact .pure nofun
    | .ok (some handler), given =>
      refine .bind fun _ => .bind fun _ => .pure ?_
      rintro _ ⟨⟩
      refine framesSet_cons.2 ⟨fun o mem => ?_, framesSet_cons.2 ⟨hc, hf⟩⟩
      exact hh o (mem_handlersDrivenObjects (given _ rfl handler rfl) mem)
  | .returns _ | .breaks | .continues | .gasExhausted | .endless => exact .pure nofun

theorem sets_unwind (stop : Stop) (h : FramesSet P frames) :
    Eval.Gives (StopSets P) (unwind ev scope stop frames) := by
  induction frames generalizing stop with
  | nil => exact .pure nofun
  | cons frame frames ih =>
    have all := h
    obtain ⟨hframe, hf⟩ := framesSet_cons.1 h
    have cleaned {cleanup : Option Block} (hc : ∀ o ∈ optionalDrivenObjects cleanup, P o)
        (stop : Stop) : Eval.Gives (StopSets P)
          (if cleanup.isSome then Pure.pure (.ok (enterCleanup cleanup (some stop) frames))
            else unwind ev scope stop frames) := by
      split
      · refine .pure ?_
        rintro _ ⟨⟩
        exact hf.enterCleanup hc
      · exact ih stop hf
    have here {frames : List Frame} (hf : FramesSet P frames) : StopSets P (.ok frames) := by
      rintro _ ⟨⟩
      exact hf
    match frame, all, hframe with
    | .suite _, _, _ | .cleanup _, _, _ => exact ih stop hf
    | .whileLoop condition body orElse, all, _ | .forLoop target body orElse cursor, all, _ =>
      match stop with
      | .breaks => exact .pure (here hf)
      | .continues => exact .pure (here all)
      | .fault _ | .returns _ | .gasExhausted | .endless => exact ih _ hf
    | .guarded handlers orElse cleanup, _, hframe =>
      rw [Frame.drivenObjects, List.forall_mem_append, List.forall_mem_append] at hframe
      refine (sets_enterHandler ev scope hframe.1 hframe.2.2 stop hf).bind_gives ?_
      intro result entered
      match result, entered with
      | .ok frames, entered => exact .pure entered
      | .error stop, _ => exact cleaned hframe.2.2 stop
    | .afterBody cleanup, _, hframe => exact cleaned hframe stop
    | .handling f cleanup, _, hframe => exact .bind fun _ => cleaned hframe stop

theorem sets_recover (stop : Stop) (h : FramesSet P frames) :
    Eval.Gives (Progress.Sets P) (recover ev scope stop frames) := by
  refine (sets_unwind ev scope stop h).bind_gives fun result unwound => ?_
  match result, unwound with
  | .ok frames, unwound => exact .pure (unwound frames rfl)
  | .error (.returns v), _ => exact .pure trivial
  | .error (.fault _), _ | .error .breaks, _ | .error .continues, _ | .error .gasExhausted, _
  | .error .endless, _ => exact .throw _

/-- **A turn brings no new targets.** -/
theorem sets_turn (h : FramesSet P (frame :: frames)) :
    Eval.Gives (Progress.Sets P) (turn ev scope frame frames) := by
  refine .bind fun charged => ?_
  match charged with
  | .error stop => exact sets_recover ev scope stop h
  | .ok () =>
    refine (sets_advanceFrame ev scope h).attempt.bind_gives fun result given => ?_
    match result, given with
    | .ok progress, given => exact .pure (given progress rfl)
    | .error stop, _ => exact sets_recover ev scope stop (framesSet_cons.1 h).2

/-- Neither does giving a `yield` its value. -/
theorem sets_wake (targets : List Expr) (hf : FramesSet P frames) (resume : Resume) :
    Eval.Gives (Progress.Sets P) (wake ev scope targets frames resume) := by
  refine .bind fun result => ?_
  match result with
  | .ok () => exact .pure hf
  | .error stop => exact sets_recover ev scope stop hf

end Turns

end MeteredScript
