import Mathlib.Logic.Relation
import MeteredScript.Proofs.Exhaustion.Signal

/-!
# `finally` blocks that are open at a `yield`

A generator that waits may have `try` statements around its `yield`, and some of these
have a `finally` block. If the body comes to its end from there, by a `return`, by an
exception or for lack of statements, then all these blocks are run, the innermost
first (`cleansUp_of_driveFrom`). This does not depend on what the blocks themselves
do, on what the handlers in between do, or on whether the gas lasts: a block is
always entered, with the machine at its first statement, and the next one is entered
only after it has been left.

The reason is that no step of a body leaves out an open block. Either it keeps all that
are open, and perhaps opens more, or it enters the innermost one (`SkipsNone`).
-/

namespace MeteredScript

/-! ## How an evaluation ends -/

section EndsIn

variable {α β : Type} {R : Except Stop α → Prop} {Q : Except Stop β → Prop}

/-- **Whatever an evaluation ends with**, on any machine, has a property. -/
def Eval.EndsIn (R : Except Stop α → Prop) (x : Eval α) : Prop := ∀ m, R (x.on m).1

namespace Eval.EndsIn

theorem pure {a : α} (ha : R (.ok a)) : EndsIn R (Pure.pure a) := fun _ => ha

theorem throw {s : Stop} (hs : R (.error s)) : EndsIn R (MonadExcept.throw s) := fun _ => hs

/-- What runs first may stop, and then nothing runs second. -/
theorem bind {x : Eval α} {f : α → Eval β} (hx : EndsIn R x)
    (ok : ∀ a, R (.ok a) → EndsIn Q (f a)) (error : ∀ s, R (.error s) → Q (.error s)) :
    EndsIn Q (x >>= f) := by
  intro m
  have first := hx m
  rw [on_bind]
  generalize x.on m = ended at first ⊢
  obtain ⟨_ | a, n⟩ := ended
  · exact error _ first
  · exact ok a first n

/-- An evaluation that is looked at stops only if it does not end. -/
theorem bind_attempt {x : Eval α} {f : Except Stop α → Eval β} (hx : EndsIn R x)
    (endless : Q (.error .endless)) (next : ∀ r, r ≠ .error .endless → R r → EndsIn Q (f r)) :
    EndsIn Q (attempt x >>= f) := by
  intro m
  have first := hx m
  cases ran : x.on m with
  | mk r n =>
    rw [ran] at first
    by_cases ends : r = .error .endless
    · subst ends
      rw [on_bind_error (on_attempt_of_endless ran)]
      exact endless
    · rw [on_bind_ok (on_attempt_of_ne ran ends)]
      exact next r ends first n

/-- Nothing need be known of an evaluation. -/
theorem any (x : Eval α) : EndsIn (fun _ => True) x := fun _ => trivial

end Eval.EndsIn

end EndsIn

/-! ## Open blocks -/

/-- The `finally` block that is run when a frame is left. -/
def Frame.finalBlock? : Frame → Option Block
  | .guarded _ _ block => block
  | .afterBody block => block
  | .handling _ block => block
  | _ => none

/-- **The `finally` blocks that are open** where frames are run, innermost first,
each with the frames around its statement. -/
def openCleanups : List Frame → List (Block × List Frame)
  | [] => []
  | frame :: outer =>
    match frame.finalBlock? with
    | some block => (block, outer) :: openCleanups outer
    | none => openCleanups outer

example (inner outer : Block) (f : Fault) :
    openCleanups [.suite [], .guarded [] none (some inner), .handling f (some outer)] =
      [(inner, [.handling f (some outer)]), (outer, [])] := rfl

theorem openCleanups_of_none {frame : Frame} (h : frame.finalBlock? = none) (outer : List Frame) :
    openCleanups (frame :: outer) = openCleanups outer := by
  rw [openCleanups, h]

theorem openCleanups_of_some {frame : Frame} {block : Block} (h : frame.finalBlock? = some block)
    (outer : List Frame) :
    openCleanups (frame :: outer) = (block, outer) :: openCleanups outer := by
  rw [openCleanups, h]

@[simp] theorem openCleanups_suite (rest : Block) (outer : List Frame) :
    openCleanups (.suite rest :: outer) = openCleanups outer := rfl

@[simp] theorem openCleanups_suiteOf (block : Option Block) (outer : List Frame) :
    openCleanups (suiteOf block outer) = openCleanups outer := by
  cases block <;> rfl

/-- **No open block is skipped** on the way from some frames to others: they stay
open, or the innermost is entered and the others stay open. -/
inductive SkipsNone : List Frame → List Frame → Prop
  | keeps {frames rest : List Frame} : openCleanups frames <:+ openCleanups rest →
    SkipsNone frames rest
  | enters {frames outer : List Frame} {block : Block} (pending : Option Stop) :
    openCleanups frames = (block, outer) :: openCleanups outer →
    SkipsNone frames (.suite block :: .cleanup pending :: outer)

namespace SkipsNone

variable {frame : Frame} {frames rest : List Frame}

theorem of_eq (h : openCleanups frames = openCleanups rest) : SkipsNone frames rest :=
  .keeps (h ▸ List.suffix_refl _)

/-- A frame that is left has its block entered. -/
theorem enterCleanup (frame : Frame) (pending : Option Stop) (outer : List Frame) :
    SkipsNone (frame :: outer) (enterCleanup frame.finalBlock? pending outer) := by
  cases left : frame.finalBlock? with
  | none => exact .of_eq (openCleanups_of_none left outer)
  | some block => exact .enters pending (openCleanups_of_some left outer)

/-- Which frames are left is of no matter, only which blocks are open. -/
theorem congr {frames' : List Frame} (same : openCleanups frames = openCleanups frames')
    (h : SkipsNone frames' rest) : SkipsNone frames rest := by
  cases h with
  | keeps suffix => exact .keeps (by rwa [same])
  | enters pending opened => exact .enters pending (by rwa [same])

end SkipsNone

/-! ## One step -/

section Step

variable (ev : Evaluator) (scope : ScopeId)

theorem skipsNone_beginStmt (st : Stmt) (frames : List Frame) :
    Eval.Gives (fun p => ∀ rest, p = .onward rest → SkipsNone frames rest)
      (beginStmt ev scope st frames) := by
  have onward {rest : List Frame} (same : openCleanups rest = openCleanups frames) :
      Eval.Gives (fun p => ∀ rest, p = .onward rest → SkipsNone frames rest)
        (Pure.pure (.onward rest) : Eval Progress) := by
    refine .pure fun _ given => ?_
    cases given
    exact .of_eq same.symm
  have suspended (operand : Option Expr) (targets : List Expr) :
      Eval.Gives (fun p => ∀ rest, p = .onward rest → SkipsNone frames rest)
        (suspendAt ev scope operand targets frames) := by
    cases operand with
    | none => exact .pure fun _ given => by cases given
    | some e => exact .bind fun _ => .pure fun _ given => by cases given
  unfold beginStmt
  split
  · exact suspended _ _
  · exact suspended _ _
  · refine .bind fun holds => ?_
    split
    · exact onward rfl
    · exact onward (openCleanups_suiteOf _ _)
  · exact onward rfl
  · exact .bind fun _ => .bind fun _ => onward rfl
  · -- The statement opens its own block, inside of those that were open.
    rename_i body handlers orElse cleanup _
    refine .pure fun _ given => ?_
    cases given
    refine .keeps ?_
    rw [openCleanups_suite]
    cases cleanup with
    | none => exact List.suffix_refl _
    | some block => exact List.suffix_cons _ _
  · exact .bind fun _ => .bind fun _ => onward (openCleanups_suiteOf _ _)
  · exact .bind fun _ => onward rfl

/-- **A unit of work skips no open block.** -/
theorem skipsNone_advanceFrame (frame : Frame) (frames : List Frame) :
    Eval.Gives (fun p => ∀ rest, p = .onward rest → SkipsNone (frame :: frames) rest)
      (advanceFrame ev scope frame frames) := by
  have onward {rest : List Frame} (tidy : SkipsNone (frame :: frames) rest) :
      Eval.Gives (fun p => ∀ rest, p = .onward rest → SkipsNone (frame :: frames) rest)
        (Pure.pure (.onward rest) : Eval Progress) := by
    refine .pure fun _ given => ?_
    cases given
    exact tidy
  cases frame with
  | suite block =>
    cases block with
    | nil => exact onward (.of_eq rfl)
    | cons st rest =>
      unfold advanceFrame
      dsimp only
      split
      · intro m p n begun more given
        have same : openCleanups (.suite (st :: rest) :: frames) =
            openCleanups (.suite rest :: frames) := rfl
        exact .congr same
          (skipsNone_beginStmt ev scope st (.suite rest :: frames) m p n begun more given)
      · exact .bind fun _ => onward (.of_eq rfl)
  | whileLoop condition body orElse =>
    refine .bind fun holds => ?_
    split
    · exact onward (.of_eq rfl)
    · exact onward (.of_eq (openCleanups_suiteOf orElse frames).symm)
  | forLoop target body orElse cursor =>
    refine .bind fun next => ?_
    cases next with
    | none => exact onward (.of_eq (openCleanups_suiteOf orElse frames).symm)
    | some item => exact .bind fun _ => onward (.of_eq rfl)
  | guarded handlers orElse cleanup =>
    cases orElse with
    | none => exact onward (.enterCleanup (.guarded handlers none cleanup) none frames)
    | some block => exact onward (.of_eq rfl)
  | afterBody cleanup => exact onward (.enterCleanup (.afterBody cleanup) none frames)
  | handling f cleanup =>
    exact .bind fun _ => onward (.enterCleanup (.handling f cleanup) none frames)
  | cleanup pending =>
    cases pending with
    | none => exact onward (.of_eq rfl)
    | some pending => exact .throw pending

/-- A frame with an open block does its unit of work without a stop. -/
theorem finalBlock?_of_advanceFrame {frame : Frame} {frames : List Frame} {m : Machine} {s : Stop}
    (stopped : ((advanceFrame ev scope frame frames).on m).1 = .error s) :
    frame.finalBlock? = none := by
  cases frame with
  | suite | whileLoop | forLoop | cleanup => rfl
  | guarded handlers orElse cleanup => cases orElse <;> cases stopped
  | afterBody | handling => cases stopped

/-! ### Stops -/

/-- A stop that is offered to handlers ends in the frames of one of them, in a stop that
goes on, or not at all. -/
theorem endsIn_enterHandler (handlers : List Handler) (block : Option Block) (s : Stop)
    (frames : List Frame) :
    Eval.EndsIn
      (fun r => (∃ body f, r = .ok (.ok (.suite body :: .handling f block :: frames))) ∨
        (∃ s', r = .ok (.error s')) ∨ r = .error .endless)
      (enterHandler ev scope handlers block s frames) := by
  cases s with
  | returns | breaks | continues | gasExhausted | endless =>
    exact .pure (.inr (.inl ⟨_, rfl⟩))
  | fault f =>
    refine .bind_attempt (.any _) (.inr (.inr rfl)) fun found _ _ => ?_
    cases found with
    | error raised => exact .pure (.inr (.inl ⟨raised, rfl⟩))
    | ok handler? =>
      cases handler? with
      | none => exact .pure (.inr (.inl ⟨_, rfl⟩))
      | some handler =>
        intro m
        obtain ⟨_, n, bound⟩ := Eval.total_bindException scope handler f m
        dsimp only
        rw [Eval.on_bind_ok (by rw [Eval.on, bound])]
        exact .inl ⟨handler.body, f, rfl⟩

/-- What a stop may make of the open blocks: it skips none of them, and if it leaves
all frames there are none. -/
def Unwound (frames : List Frame) : Except Stop (Except Stop (List Frame)) → Prop
  | .ok (.ok rest) => SkipsNone frames rest
  | .ok (.error _) => openCleanups frames = []
  | .error s => s = .endless

theorem Unwound.congr {frames frames' : List Frame}
    (same : openCleanups frames = openCleanups frames')
    {r : Except Stop (Except Stop (List Frame))} (h : Unwound frames' r) : Unwound frames r := by
  rcases r with s | s | rest
  · exact h
  · exact same.trans h
  · exact SkipsNone.congr same h

/-- **A stop skips no open block.** -/
theorem unwound_unwind (s : Stop) (frames : List Frame) :
    Eval.EndsIn (Unwound frames) (unwind ev scope s frames) := by
  induction frames generalizing s with
  | nil => exact .pure rfl
  | cons frame frames ih =>
    -- A frame without a block is left behind, and one with a block stops the stop.
    have through (bare : frame.finalBlock? = none) (s : Stop) :
        Eval.EndsIn (Unwound (frame :: frames)) (unwind ev scope s frames) := fun m =>
      (ih s m).congr (openCleanups_of_none bare frames)
    have leave (s : Stop) : Eval.EndsIn (Unwound (frame :: frames))
        (if frame.finalBlock?.isSome then
          Pure.pure (.ok (enterCleanup frame.finalBlock? (some s) frames))
        else unwind ev scope s frames) := by
      cases left : frame.finalBlock? with
      | none => exact through left s
      | some block => exact .pure (.enters (some s) (openCleanups_of_some left frames))
    cases frame with
    | suite | cleanup => exact through rfl s
    | whileLoop condition body orElse =>
      cases s with
      | breaks => exact .pure (.of_eq rfl)
      | continues => exact .pure (.of_eq rfl)
      | fault | returns | gasExhausted | endless => exact through rfl _
    | forLoop target body orElse cursor =>
      cases s with
      | breaks => exact .pure (.of_eq rfl)
      | continues => exact .pure (.of_eq rfl)
      | fault | returns | gasExhausted | endless => exact through rfl _
    | guarded handlers orElse block =>
      refine .bind (endsIn_enterHandler ev scope handlers block s frames) (fun r entered => ?_)
        fun s stopped => ?_
      · rcases entered with ⟨body, f, given⟩ | ⟨s', given⟩ | given
        · cases given
          -- The block of the statement stays open around its handler.
          exact .pure (.of_eq rfl)
        · cases given
          exact leave s'
        · cases given
      · rcases stopped with ⟨_, _, given⟩ | ⟨_, given⟩ | given
        · cases given
        · cases given
        · cases given
          rfl
    | afterBody block => exact leave s
    | handling f block =>
      have popped : Eval.EndsIn (· = .ok ()) Eval.popHandling := fun _ => rfl
      exact .bind popped (fun _ _ => leave s) fun s stopped => by cases stopped

/-! ### Turns -/

/-- What a step may make of the open blocks, if it ends: it skips none of them, and
where it ends the body there are none left. -/
def Tidy (frames : List Frame) : Except Stop Progress → Prop
  | .ok (.onward rest) => SkipsNone frames rest
  | .ok (.paused (.yielded _ _ _)) => True
  | .ok (.paused (.returned _)) => openCleanups frames = []
  | .error s => s ≠ .endless → openCleanups frames = []

theorem Tidy.congr {frames frames' : List Frame}
    (same : openCleanups frames = openCleanups frames') {r : Except Stop Progress}
    (h : Tidy frames' r) : Tidy frames r := by
  rcases r with s | rest | _ | v
  · exact fun ends => same.trans (h ends)
  · exact SkipsNone.congr same h
  · trivial
  · exact same.trans h

theorem tidy_recover (s : Stop) (frames : List Frame) :
    Eval.EndsIn (Tidy frames) (recover ev scope s frames) := by
  refine .bind (unwound_unwind ev scope s frames) (fun r unwound => ?_) fun s endless ends =>
    absurd endless ends
  cases r with
  | ok rest => exact .pure unwound
  | error s =>
    cases s with
    | returns v => exact .pure unwound
    | fault | breaks | continues | gasExhausted | endless => exact .throw fun _ => unwound

/-- **A turn skips no open block.** -/
theorem tidy_turn (frame : Frame) (frames : List Frame) :
    Eval.EndsIn (Tidy (frame :: frames)) (turn ev scope frame frames) := by
  refine .bind_attempt (.any _) (fun ends => absurd rfl ends) fun charged _ _ => ?_
  cases charged with
  | error s => exact tidy_recover ev scope s (frame :: frames)
  | ok =>
    have advanced : Eval.EndsIn (fun r =>
        (∀ rest, r = .ok (.onward rest) → SkipsNone (frame :: frames) rest) ∧
        (∀ v, r ≠ .ok (.paused (.returned v))) ∧
        (∀ s, r = .error s → frame.finalBlock? = none)) (advanceFrame ev scope frame frames) := by
      intro m
      refine ⟨fun rest given => ?_, fun v given => ?_, fun s stopped => ?_⟩
      · exact skipsNone_advanceFrame ev scope frame frames m _ _ (Prod.ext given rfl) rest rfl
      · exact gives_advanceFrame_ne_returned ev scope frame frames m _ _ (Prod.ext given rfl) v rfl
      · exact finalBlock?_of_advanceFrame ev scope stopped
    refine .bind_attempt advanced (fun ends => absurd rfl ends) fun r _ advanced => ?_
    obtain ⟨onward, returned, stopped⟩ := advanced
    cases r with
    | error s =>
      -- The frame is not offered its own stop, but it has no block that would be left out.
      have same := openCleanups_of_none (stopped s rfl) frames
      exact fun m => (tidy_recover ev scope s frames m).congr same
    | ok progress =>
      cases progress with
      | onward rest => exact .pure (onward rest rfl)
      | paused pause =>
        cases pause with
        | yielded => exact .pure trivial
        | returned v => exact absurd rfl (returned v)

/-- What comes at the `yield` skips no open block either. -/
theorem tidy_wake (targets : List Expr) (frames : List Frame) (r : Resume) :
    Eval.EndsIn (Tidy frames) (wake ev scope targets frames r) := by
  refine .bind_attempt (.any _) (fun ends => absurd rfl ends) fun delivered _ _ => ?_
  cases delivered with
  | error s => exact tidy_recover ev scope s frames
  | ok => exact .pure (.of_eq rfl)

end Step

/-! ## Whole runs -/

section Run

variable {ev : Evaluator} {scope : ScopeId}

/-- **One turn of a body that goes on.** -/
inductive TurnsTo (ev : Evaluator) (scope : ScopeId) :
    List Frame × Machine → List Frame × Machine → Prop
  | intro {frame : Frame} {frames rest : List Frame} {m n : Machine} :
    (turn ev scope frame frames).on m = (.ok (.onward rest), n) →
    TurnsTo ev scope (frame :: frames, m) (rest, n)

/-- **A body that is run runs some `finally` blocks**, one after the other: after any
number of turns it is at the first statement of the first of them, with what is
pending and the frames around the statement behind it, and from there it goes on and
runs the other ones. -/
inductive CleansUp (ev : Evaluator) (scope : ScopeId) :
    List (Block × List Frame) → List Frame × Machine → Prop
  | done (c : List Frame × Machine) : CleansUp ev scope [] c
  | next {block : Block} {outer : List Frame} {blocks : List (Block × List Frame)}
    {c : List Frame × Machine} {pending : Option Stop} {n : Machine} :
    Relation.ReflTransGen (TurnsTo ev scope) c (.suite block :: .cleanup pending :: outer, n) →
    CleansUp ev scope blocks (.suite block :: .cleanup pending :: outer, n) →
    CleansUp ev scope ((block, outer) :: blocks) c

namespace CleansUp

variable {blocks blocks' : List (Block × List Frame)} {c c' : List Frame × Machine}

/-- It may have run for a while before. -/
theorem after (turns : TurnsTo ev scope c c') (h : CleansUp ev scope blocks c') :
    CleansUp ev scope blocks c := by
  cases h with
  | done => exact .done c
  | next reaches rest => exact .next (reaches.head turns) rest

/-- It also runs the blocks that come last. -/
theorem of_suffix (h : CleansUp ev scope blocks c) (suffix : blocks' <:+ blocks) :
    CleansUp ev scope blocks' c := by
  induction h generalizing blocks' with
  | done c =>
    rw [List.suffix_nil.1 suffix]
    exact .done c
  | next reaches rest ih =>
    rcases List.suffix_cons_iff.1 suffix with rfl | suffix
    · exact .next reaches rest
    · -- The first block is not asked for: the way to it is a part of the way to the next.
      have later := ih suffix
      cases later with
      | done => exact .done _
      | next reaches' rest' => exact .next (reaches.trans reaches') rest'

/-- Blocks that are open after a step are run if those that were open before are. -/
theorem of_skipsNone {frames rest : List Frame} {n : Machine} (skips : SkipsNone frames rest)
    (h : CleansUp ev scope (openCleanups rest) (rest, n)) :
    CleansUp ev scope (openCleanups frames) (rest, n) := by
  cases skips with
  | keeps suffix => exact h.of_suffix suffix
  | enters pending opened =>
    rw [opened]
    exact .next .refl h

end CleansUp

/-- A body has come to its end: it does not wait at a `yield`. -/
def Over : Except Stop Pause → Prop
  | .ok (.yielded _ _ _) => False
  | .ok (.returned _) => True
  | .error s => s ≠ .endless

variable {frames : List Frame} {m n : Machine} {outcome : Except Stop Pause}

/-- A step that ends a body well or not leaves no block open. -/
theorem openCleanups_of_tidy {r : Except Stop Progress} (tidy : Tidy frames r)
    (finished : Over outcome)
    (ended : (∃ pause, r = .ok (.paused pause) ∧ outcome = .ok pause) ∨
      ∃ s, r = .error s ∧ outcome = .error s) : openCleanups frames = [] := by
  rcases ended with ⟨pause, rfl, rfl⟩ | ⟨s, rfl, rfl⟩
  · cases pause with
    | yielded => exact finished.elim
    | returned => exact tidy
  · exact tidy finished

/-- **A body that comes to its end runs all open blocks**, innermost first. -/
theorem cleansUp_of_drive {rounds : Nat}
    (driven : (drive ev scope rounds frames).on m = (outcome, n)) (finished : Over outcome) :
    CleansUp ev scope (openCleanups frames) (frames, m) := by
  induction rounds generalizing frames m with
  | zero =>
    -- To be out of rounds is not to have come to an end.
    cases driven
    exact absurd rfl finished
  | succ rounds ih =>
    cases frames with
    | nil => exact .done _
    | cons frame frames =>
      rw [drive, Eval.on_bind] at driven
      have tidy := tidy_turn ev scope frame frames m
      cases turned : (turn ev scope frame frames).on m with
      | mk r n₁ =>
        rw [turned] at driven tidy
        rcases r with s | rest | pause
        · cases driven
          rw [openCleanups_of_tidy tidy finished (.inr ⟨s, rfl, rfl⟩)]
          exact .done _
        · exact (CleansUp.of_skipsNone tidy (ih driven)).after (.intro turned)
        · cases driven
          rw [openCleanups_of_tidy tidy finished (.inl ⟨pause, rfl, rfl⟩)]
          exact .done _

/-- **A body that comes to its end from a `yield`** runs all blocks that are open
there, innermost first. -/
theorem cleansUp_of_driveFrom {targets : List Expr} {r : Resume}
    (driven : (driveFrom ev scope targets frames r).on m = (outcome, n)) (finished : Over outcome)
    (opened : openCleanups frames ≠ []) :
    ∃ rest n₀, (wake ev scope targets frames r).on m = (.ok (.onward rest), n₀) ∧
      CleansUp ev scope (openCleanups frames) (rest, n₀) := by
  rw [driveFrom, Eval.on_bind] at driven
  have tidy := tidy_wake ev scope targets frames r m
  cases woken : (wake ev scope targets frames r).on m with
  | mk progress n₁ =>
    rw [woken] at driven tidy
    rcases progress with s | rest | pause
    · cases driven
      exact absurd (openCleanups_of_tidy tidy finished (.inr ⟨s, rfl, rfl⟩)) opened
    · exact ⟨rest, n₁, rfl, CleansUp.of_skipsNone tidy (cleansUp_of_drive driven finished)⟩
    · cases driven
      exact absurd (openCleanups_of_tidy tidy finished (.inl ⟨pause, rfl, rfl⟩)) opened

end Run

end MeteredScript
