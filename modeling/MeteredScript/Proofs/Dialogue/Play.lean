import MeteredScript.Proofs.Coupling.Gas
import MeteredScript.Proofs.Coupling.Room
import MeteredScript.Proofs.Dialogue.Coupled

/-!
# Conversations held by frames

The machine of frames holds a conversation too: it takes turns until the body
yields, hands the value over, and wakes up with what the caller does
(`playTurn`). It does so for a limited number of turns (`play`), or for as many
as it takes (`playOut`).

The equations of this module say what is done next in each situation, whatever
is done after the turn, so that nothing else has to look at how a turn is put
together.
-/

namespace MeteredScript

variable {α β : Type}

/-! ## Evaluations that cannot fail -/

/-- It gives a value on every machine. -/
def Eval.Total (x : Eval α) : Prop := ∀ m, ∃ a n, x m = .ok a n

namespace Eval

theorem total_pushHandling (f : Fault) : Total (pushHandling f) := fun _ => ⟨(), _, rfl⟩

theorem total_popHandling : Total popHandling := fun _ => ⟨(), _, rfl⟩

theorem total_bindException (scope : ScopeId) (handler : Handler) (f : Fault) :
    Total (bindException scope handler f) := by
  obtain ⟨catches, name, body⟩ := handler
  intro m
  cases name with
  | none => exact ⟨(), m, rfl⟩
  | some name => exact ⟨(), _, rfl⟩

theorem attempt_bind_of_total {x : Eval α} (hx : Total x) (f : α → Eval β) :
    attempt (x >>= f) = x >>= fun a => attempt (f a) := by
  funext m
  obtain ⟨a, n, h⟩ := hx m
  simp only [attempt, bind, EStateM.bind, h]

theorem attempt_of_total {x : Eval α} (hx : Total x) (f : Except Stop α → Eval β) :
    attempt x >>= f = x >>= fun a => f (.ok a) := by
  funext m
  obtain ⟨a, n, h⟩ := hx m
  simp only [attempt, bind, EStateM.bind, h]

/-- A result that is looked at was no lack of one. -/
theorem attempt_attempt_bind (x : Eval α) (f : Except Stop α → Eval β) :
    attempt (attempt x >>= f) = attempt x >>= fun r => attempt (f r) := by
  funext m
  simp only [attempt, bind, EStateM.bind]
  cases x m with
  | ok a n => rfl
  | error s n => cases s <;> rfl

theorem attempt_bind (x : Eval α) (f : α → Eval β) :
    attempt (x >>= f) = attempt x >>= fun r => match r with
      | .ok a => attempt (f a)
      | .error s => pure (.error s) := by
  funext m
  simp only [attempt, bind, EStateM.bind]
  cases x m with
  | ok a n => rfl
  | error s n => cases s <;> rfl

end Eval

/-! ## Playing -/

/-- What follows on a piece of a body, up to the end of the body. -/
abbrev Sequel (α : Type) := Except Halt α → Dialogue → Eval (Except Halt Value × Dialogue)

/-- A way to hold a conversation from where running frames has led. -/
abbrev Player := Progress → Talk Value

section Play

variable (ev : Evaluator) (scope : ScopeId)

/-- **Take one turn** in a conversation, and go on with another player. -/
def playTurn (next : Player) : Player
  | .paused (.returned v) => pure v
  | .paused (.yielded v targets frames) => do
    let action ← Talk.ask v
    next (← Talk.lift (wake ev scope targets frames action))
  | .onward [] => pure .none
  | .onward (frame :: frames) => do next (← Talk.lift (turn ev scope frame frames))

/-- **Hold a conversation by frames**, in at most `fuel` turns. -/
def play : (fuel : Nat) → Player
  | 0 => fun _ => Talk.endless
  | fuel + 1 => playTurn ev scope (play fuel)

/-- **Hold a conversation by frames**, in as many turns as it takes. -/
noncomputable def playOut : Player := fun progress d =>
  Eval.limit fun fuel => play ev scope fuel progress d

/-- Go on with what a step leads to. -/
def playFrom (next : Player) (x : Eval Progress) : Talk Value := do next (← Talk.lift x)

/-- Go on after a stop. -/
def playAfter (next : Player) (s : Stop) (frames : List Frame) : Talk Value :=
  playFrom next (recover ev scope s frames)

/-- Go on with some frames after code in front of them. -/
def playOn (next : Player) (frames : List Frame) : Sequel Unit
  | .ok (), d => next (.onward frames) d
  | .error (.stop s), d => playAfter ev scope next s frames d
  | .error .waiting, d => return (.error .waiting, d)

/-- Go on with the `finally` block of a `try` statement and what is pending
then, or with what is pending if there is no such block. -/
def playCleanup (next : Player) (cleanup : Option Block) (pending : Option Stop)
    (frames : List Frame) : Talk Value :=
  match cleanup, pending with
  | none, some s => playAfter ev scope next s frames
  | _, _ => next (.onward (enterCleanup cleanup pending frames))

/-- Go on with what a step leads to, or after what it stops with. -/
def playStep (next : Player) (x : Eval Progress) (frames : List Frame) : Talk Value := fun d =>
  Eval.attempt x >>= fun r => match r with
    | .ok progress => next progress d
    | .error s => playAfter ev scope next s frames d

variable {ev scope} {next : Player} {frames : List Frame} {d : Dialogue}

theorem playCleanup_none (cleanup : Option Block) :
    playCleanup ev scope next cleanup none frames =
      next (.onward (enterCleanup cleanup none frames)) := by
  cases cleanup with
  | none => rfl
  | some block => rfl

theorem playFrom_total {x : Eval α} (hx : x.Total) (f : α → Eval Progress) :
    playFrom next (x >>= f) d = x >>= fun a => playFrom next (f a) d := by
  simp only [playFrom, Talk.lift_bind_apply]
  rw [Eval.attempt_bind_of_total hx, bind_assoc]

theorem playFrom_attempt (x : Eval α) (f : Except Stop α → Eval Progress) :
    playFrom next (Eval.attempt x >>= f) d =
      Eval.attempt x >>= fun r => playFrom next (f r) d := by
  simp only [playFrom, Talk.lift_bind_apply]
  rw [Eval.attempt_attempt_bind, bind_assoc]

theorem playStep_total {x : Eval α} (hx : x.Total) (f : α → Eval Progress) :
    playStep ev scope next (x >>= f) frames d =
      x >>= fun a => playStep ev scope next (f a) frames d := by
  rw [playStep, Eval.attempt_bind_of_total hx, bind_assoc]
  rfl

/-- **A turn** pays for its gas and does a unit of work. -/
theorem playTurn_onward (frame : Frame) :
    playTurn ev scope next (.onward (frame :: frames)) d =
      Eval.attempt Eval.tick >>= fun r => match r with
        | .ok () => playStep ev scope next (advanceFrame ev scope frame frames) frames d
        | .error s => playAfter ev scope next s (frame :: frames) d := by
  show playFrom next (turn ev scope frame frames) d = _
  rw [turn, playFrom_attempt]
  refine bind_congr fun r => ?_
  match r with
  | .error s => rfl
  | .ok () =>
    dsimp only
    rw [playFrom_attempt]
    refine bind_congr fun r => ?_
    match r with
    | .ok progress => rfl
    | .error s => rfl

/-- What is done at a `yield` when the caller goes on. -/
theorem playTurn_yielded (v : Value) (targets : List Expr) :
    playTurn ev scope next (.paused (.yielded v targets frames)) d =
      (Talk.ask v).through (fun r d => match r with
        | .ok action => Eval.attempt (deliver ev scope targets action) >>= fun r => match r with
          | .ok () => next (.onward frames) d
          | .error s => playAfter ev scope next s frames d
        | .error h => pure (.error h, d)) d := by
  show Talk.ask v d >>= _ = Talk.ask v d >>= _
  refine bind_congr fun o => ?_
  match o with
  | (.error h, d) => rfl
  | (.ok action, d) =>
    show playFrom next (wake ev scope targets frames action) d = _
    rw [wake, playFrom_attempt]
    refine bind_congr fun r => ?_
    match r with
    | .ok () => rfl
    | .error s => rfl

/-! ## As many turns as it takes -/

/-- Where a turn leads: to more of the conversation, or to its end. -/
inductive Turned where
  | onward (progress : Progress) (d : Dialogue)
  | ended (r : Except Halt Value) (d : Dialogue)

/-- What is done after a turn. -/
def Turned.goOn (next : Player) : Turned → Eval (Except Halt Value × Dialogue)
  | .onward progress d => next progress d
  | .ended r d => return (r, d)

/-- **The next player has the last word**: a turn is an evaluation of its own, and
what it leads to is left to the next player. -/
theorem playTurn_eq (ev : Evaluator) (scope : ScopeId) (progress : Progress) (d : Dialogue) :
    ∃ x : Eval Turned, ∀ next, playTurn ev scope next progress d = x >>= Turned.goOn next := by
  have hfrom (x : Eval Progress) (d : Dialogue) :
      ∃ y : Eval Turned, ∀ next, playFrom next x d = y >>= Turned.goOn next := by
    refine ⟨Eval.attempt x >>= fun r => pure (match r with
      | .ok progress => .onward progress d
      | .error s => .ended (.error (.stop s)) d), fun next => ?_⟩
    rw [playFrom, Talk.lift_bind_apply, bind_assoc]
    refine bind_congr fun r => ?_
    match r with
    | .ok _ | .error _ => rfl
  match progress, d with
  | .paused (.returned v), d => exact ⟨pure (.ended (.ok v) d), fun _ => rfl⟩
  | .paused (.yielded v targets frames), ⟨[], said⟩ =>
    exact ⟨pure (.ended (.error .waiting) ⟨[], said ++ [v]⟩), fun _ => rfl⟩
  | .paused (.yielded v targets frames), ⟨action :: actions, said⟩ =>
    exact hfrom (wake ev scope targets frames action) ⟨actions, said ++ [v]⟩
  | .onward [], d => exact ⟨pure (.ended (.ok .none) d), fun _ => rfl⟩
  | .onward (frame :: frames), d => exact hfrom (turn ev scope frame frames) d

theorem play_extends (ev : Evaluator) (scope : ScopeId) (fuel : Nat) (progress : Progress)
    (d : Dialogue) :
    (play ev scope fuel progress d).Extends (play ev scope (fuel + 1) progress d) := by
  induction fuel generalizing progress d with
  | zero => exact fun m hne => absurd rfl hne
  | succ fuel ih =>
    obtain ⟨x, hx⟩ := playTurn_eq ev scope progress d
    rw [play, hx, play, hx]
    refine Eval.Extends.bind x fun t => ?_
    cases t with
    | onward progress d => exact ih progress d
    | ended r d => exact Eval.Extends.refl _

theorem playOut_eq_iff (progress : Progress) {m : Machine}
    {o : Except Stop (Except Halt Value × Dialogue) × Machine} (ho : o.1 ≠ .error .endless) :
    (playOut ev scope progress d).on m = o ↔ ∃ fuel, (play ev scope fuel progress d).on m = o :=
  Eval.limit_eq_iff (fun fuel => play_extends ev scope fuel progress d) ho

/-- **Playing out is a turn and playing out.** -/
theorem playOut_meets (progress : Progress) :
    (playOut ev scope progress d).Meets
      (playTurn ev scope (playOut ev scope) progress d) := by
  intro m o ho
  obtain ⟨x, hx⟩ := playTurn_eq ev scope progress d
  have hturn (fuel : Nat) : play ev scope (fuel + 1) progress d =
      x >>= Turned.goOn (play ev scope fuel) := hx _
  have hgoOn (t : Turned) (n : Machine) : (t.goOn (playOut ev scope)).on n = o ↔
      ∃ fuel, (t.goOn (play ev scope fuel)).on n = o := by
    cases t with
    | onward progress d => exact playOut_eq_iff progress ho
    | ended r d => exact ⟨fun h => ⟨0, h⟩, fun ⟨_, h⟩ => h⟩
  have hbind : (∃ fuel, (x >>= Turned.goOn (play ev scope fuel)).on m = o) ↔
      (x >>= Turned.goOn (playOut ev scope)).on m = o := by
    simp only [Eval.on_bind]
    cases x.on m with
    | mk r n =>
      match r with
      | .ok t => exact (hgoOn t n).symm
      | .error s => exact ⟨fun ⟨_, h⟩ => h, fun h => ⟨0, h⟩⟩
  rw [playOut_eq_iff progress ho, hx, ← hbind]
  constructor
  · rintro ⟨fuel, hfuel⟩
    cases fuel with
    | zero =>
      rw [← hfuel] at ho
      exact absurd rfl ho
    | succ fuel => exact ⟨fuel, by rw [← hturn, hfuel]⟩
  · rintro ⟨fuel, hfuel⟩
    exact ⟨fuel + 1, by rw [hturn, hfuel]⟩

/-! ## Playing on after a stop -/

/-- A `finally` block takes care of a stop; without one the search goes on. -/
def recoverCleanup (ev : Evaluator) (scope : ScopeId) (cleanup : Option Block) (s : Stop)
    (frames : List Frame) : Eval Progress :=
  if cleanup.isSome then pure (.onward (enterCleanup cleanup (some s) frames))
  else recover ev scope s frames

theorem playFrom_recoverCleanup (cleanup : Option Block) (s : Stop) :
    playFrom next (recoverCleanup ev scope cleanup s frames) d =
      playCleanup ev scope next cleanup (some s) frames d := by
  cases cleanup with
  | none => rfl
  | some block => rfl

theorem recover_guarded (handlers : List Handler) (orElse cleanup : Option Block) (s : Stop) :
    recover ev scope s (.guarded handlers orElse cleanup :: frames) =
      enterHandler ev scope handlers cleanup s frames >>= fun found => match found with
        | .ok frames => pure (.onward frames)
        | .error s => recoverCleanup ev scope cleanup s frames := by
  simp only [recover, unwind, bind_assoc, recoverCleanup]
  refine bind_congr fun found => ?_
  cases found with
  | ok frames => rfl
  | error s =>
    dsimp only
    split
    · rfl
    · rfl

/-- Whether a frame is a loop whose body is being run. -/
def Frame.IsLoop : Frame → Prop
  | .whileLoop .. | .forLoop .. => True
  | _ => False

/-- **A loop** goes on with its next round after `continue`, and is left after
`break`. -/
theorem playAfter_loop {frame : Frame} (h : frame.IsLoop) (s : Stop) :
    playAfter ev scope next s (frame :: frames) d =
      match s with
      | .breaks => next (.onward frames) d
      | .continues => next (.onward (frame :: frames)) d
      | s => playAfter ev scope next s frames d := by
  match frame, h with
  | .whileLoop .., _ | .forLoop .., _ => cases s <;> rfl

theorem playAfter_afterBody (s : Stop) (cleanup : Option Block) :
    playAfter ev scope next s (.afterBody cleanup :: frames) d =
      playCleanup ev scope next cleanup (some s) frames d := by
  cases cleanup with
  | none => rfl
  | some block => rfl

theorem playAfter_handling (s : Stop) (f : Fault) (cleanup : Option Block) :
    playAfter ev scope next s (.handling f cleanup :: frames) d =
      Eval.popHandling >>= fun _ => playCleanup ev scope next cleanup (some s) frames d := by
  have hrecover : recover ev scope s (.handling f cleanup :: frames) =
      Eval.popHandling >>= fun _ => recoverCleanup ev scope cleanup s frames := by
    simp only [recover, unwind, bind_assoc, recoverCleanup]
    refine bind_congr fun _ => ?_
    split
    · rfl
    · rfl
  rw [playAfter, hrecover, playFrom_total Eval.total_popHandling]
  exact bind_congr fun _ => playFrom_recoverCleanup cleanup s

/-- What becomes of a fault in the body of a `try` statement. -/
theorem playAfter_guarded_fault (handlers : List Handler) (orElse cleanup : Option Block)
    (f : Fault) :
    playAfter ev scope next (.fault f) (.guarded handlers orElse cleanup :: frames) d =
      Eval.attempt (findHandler ev scope f.exceptionKind handlers) >>= fun r => match r with
        | .ok none => playCleanup ev scope next cleanup (some (.fault f)) frames d
        | .error s => playCleanup ev scope next cleanup (some s) frames d
        | .ok (some handler) =>
          bindException scope handler f >>= fun _ => Eval.pushHandling f >>= fun _ =>
            next (.onward (.suite handler.body :: .handling f cleanup :: frames)) d := by
  rw [playAfter, recover_guarded, enterHandler, bind_assoc, playFrom_attempt]
  refine bind_congr fun r => ?_
  match r with
  | .ok none => exact playFrom_recoverCleanup cleanup _
  | .error s => exact playFrom_recoverCleanup cleanup s
  | .ok (some handler) =>
    dsimp only
    rw [bind_assoc, playFrom_total (Eval.total_bindException _ _ _)]
    refine bind_congr fun _ => ?_
    rw [bind_assoc, playFrom_total (Eval.total_pushHandling f)]
    rfl

/-- What else stops the body of a `try` statement is not handled. -/
theorem playAfter_guarded {s : Stop} (hs : ∀ f, s ≠ .fault f) (handlers : List Handler)
    (orElse cleanup : Option Block) :
    playAfter ev scope next s (.guarded handlers orElse cleanup :: frames) d =
      playCleanup ev scope next cleanup (some s) frames d := by
  rw [playAfter, recover_guarded]
  match s, hs with
  | .fault f, hs => exact absurd rfl (hs f)
  | .returns _, _ | .breaks, _ | .continues, _ | .gasExhausted, _ | .endless, _ =>
    exact playFrom_recoverCleanup cleanup _

end Play

/-! ## Two plays side by side -/

namespace Coupling

variable {c : Coupling} [c.United] {ev ev' : Evaluator} (h : c.Couples ev ev') (hc : c.Steady)
  (hn : ∀ names, c.Shows names) (scope : ScopeId)

include h hc hn

namespace Couples

/-- A turn does the same in both runs if what is done after it does. -/
theorem playTurn {next next' : Player} (hnext : ∀ progress, c.Talks (next progress) (next' progress))
    (progress : Progress) :
    c.Talks (playTurn ev scope next progress) (playTurn ev' scope next' progress) := by
  match progress with
  | .paused (.returned v) => exact Talks.pure v
  | .paused (.yielded v targets frames) =>
    refine Talks.bind (Talks.ask v) fun action => ?_
    exact Talks.bind (Talks.lift (h.wake hc (hn _) (hn _) action).of_united.sim) hnext
  | .onward [] => exact Talks.pure _
  | .onward (frame :: frames) => exact Talks.bind (Talks.lift (h.turn hc (hn _) (hn _)).of_united.sim) hnext

/-- **Two bodies that are played do the same.** -/
theorem play (fuel : Nat) (progress : Progress) :
    c.Talks (play ev scope fuel progress) (play ev' scope fuel progress) := by
  induction fuel generalizing progress with
  | zero => exact Talks.endless
  | succ fuel ih => exact h.playTurn hc hn scope ih progress

end Couples

end Coupling

end MeteredScript
