import MeteredScript.Proofs.Coupling.Invariant

/-!
# `try` statements that are open in a generator

A generator whose gas ran out takes its frames away, and stops at each `try` statement that
is open there. How many there are changes slowly: a turn opens one of them at most,
and a stop opens none.
-/

namespace MeteredScript

open Coupling

/-- The frames of `try` statements after a step. -/
def Progress.tries : Progress → Nat
  | .onward frames => tryFrames frames
  | .paused _ => 0

section Tries

variable (ev : Evaluator) (s : ScopeId)

theorem tryFrames_suiteOf (block : Option Block) (frames : List Frame) :
    tryFrames (suiteOf block frames) = tryFrames frames := by
  cases block <;> rfl

theorem tryFrames_enterCleanup (cleanup : Option Block) (pending : Option Stop)
    (frames : List Frame) : tryFrames (enterCleanup cleanup pending frames) = tryFrames frames := by
  cases cleanup <;> rfl

theorem tries_suspendAt (operand : Option Expr) (targets : List Expr) (frames : List Frame) :
    Eval.Gives (·.tries = 0) (suspendAt ev s operand targets frames) := by
  cases operand with
  | none => exact .pure rfl
  | some e => exact .bind fun _ => .pure rfl

/-- A statement opens one `try` statement at most. -/
theorem tries_beginStmt (st : Stmt) (frames : List Frame) :
    Eval.Gives (·.tries ≤ tryFrames frames + 1) (beginStmt ev s st frames) := by
  have hsuspend (operand : Option Expr) (targets : List Expr) :
      Eval.Gives (·.tries ≤ tryFrames frames + 1) (suspendAt ev s operand targets frames) :=
    fun m p n hp => by simp [tries_suspendAt ev s operand targets frames m p n hp]
  obtain ⟨span, form⟩ := st
  unfold beginStmt
  dsimp only
  split
  · exact hsuspend _ _
  · exact hsuspend _ _
  · refine .bind fun b => ?_
    cases b with
    | true => exact .pure (Nat.le_succ _)
    | false => exact .pure (by simp [Progress.tries, tryFrames_suiteOf])
  · exact .pure (Nat.le_succ _)
  · exact .bind fun _ => .bind fun _ => .pure (Nat.le_succ _)
  · exact .pure (Nat.le_refl _)
  · exact .bind fun _ => .bind fun _ => .pure (by simp [Progress.tries, tryFrames_suiteOf])
  · exact .bind fun _ => .pure (Nat.le_succ _)

/-- **So does a unit of work.** -/
theorem tries_advanceFrame (frame : Frame) (frames : List Frame) :
    Eval.Gives (·.tries ≤ tryFrames (frame :: frames) + 1) (advanceFrame ev s frame frames) := by
  match frame with
  | .suite [] => exact .pure (Nat.le_succ _)
  | .suite (st :: rest) =>
    unfold advanceFrame
    dsimp only
    split
    · exact tries_beginStmt ev s st (.suite rest :: frames)
    · exact .bind fun _ => .pure (Nat.le_succ _)
  | .whileLoop condition body orElse =>
    refine .bind fun b => ?_
    cases b with
    | true => exact .pure (Nat.le_succ _)
    | false => exact .pure (by simp [Progress.tries, tryFrames_suiteOf, tryFrames])
  | .forLoop target body orElse cursor =>
    refine .bind fun next => ?_
    rcases next with _ | ⟨item, cursor⟩
    · exact .pure (by simp [Progress.tries, tryFrames_suiteOf, tryFrames])
    · exact .bind fun _ => .pure (Nat.le_succ _)
  | .guarded handlers orElse cleanup =>
    cases orElse with
    | none =>
      refine .pure ?_
      simp only [Progress.tries, tryFrames_enterCleanup, tryFrames]
      omega
    | some block => exact .pure (Nat.le_succ _)
  | .afterBody cleanup =>
    refine .pure ?_
    simp only [Progress.tries, tryFrames_enterCleanup, tryFrames]
    omega
  | .handling f cleanup =>
    refine .bind fun _ => .pure ?_
    simp only [Progress.tries, tryFrames_enterCleanup, tryFrames]
    omega
  | .cleanup (some pending) => exact .throw pending
  | .cleanup none => exact .pure (Nat.le_succ _)

/-- A handler takes the place of the `try` statement that it belongs to. -/
theorem tries_enterHandler (handlers : List Handler) (cleanup : Option Block) (stop : Stop)
    (frames : List Frame) :
    Eval.Gives (fun r => ∀ rest, r = .ok rest → tryFrames rest = tryFrames frames + 1)
      (enterHandler ev s handlers cleanup stop frames) := by
  have herror (stop : Stop) : Eval.Gives (α := Except Stop (List Frame))
      (fun r => ∀ rest, r = .ok rest → tryFrames rest = tryFrames frames + 1)
      (Pure.pure (.error stop)) := .pure nofun
  match stop with
  | .fault f =>
    refine .bind fun found => ?_
    match found with
    | .ok (some handler) =>
      refine .bind fun _ => .bind fun _ => .pure ?_
      rintro rest ⟨⟩
      rfl
    | .ok none => exact herror _
    | .error raised => exact herror raised
  | .returns _ | .breaks | .continues | .gasExhausted | .endless => exact herror _

/-- **A stop opens no `try` statement.** -/
theorem tries_unwind (stop : Stop) (frames : List Frame) :
    Eval.Gives (fun r => ∀ rest, r = .ok rest → tryFrames rest ≤ tryFrames frames)
      (unwind ev s stop frames) := by
  induction frames generalizing stop with
  | nil => exact .pure nofun
  | cons frame frames ih =>
    have hrest (stop : Stop) : Eval.Gives
        (fun r => ∀ rest, r = .ok rest → tryFrames rest ≤ tryFrames (frame :: frames))
        (unwind ev s stop frames) := fun m r n hr rest hok =>
      Nat.le_trans (ih stop m r n hr rest hok) (tryFrames_le_cons frame frames)
    have hok {rest : List Frame} (hle : tryFrames rest ≤ tryFrames (frame :: frames)) :
        Eval.Gives (α := Except Stop (List Frame))
          (fun r => ∀ rest, r = .ok rest → tryFrames rest ≤ tryFrames (frame :: frames))
          (Pure.pure (.ok rest)) := by
      refine .pure ?_
      rintro rest ⟨⟩
      exact hle
    have hcleanup (cleanup : Option Block) (stop : Stop) : Eval.Gives
        (fun r => ∀ rest, r = .ok rest → tryFrames rest ≤ tryFrames (frame :: frames))
        (if cleanup.isSome then Pure.pure (.ok (enterCleanup cleanup (some stop) frames))
          else unwind ev s stop frames) := by
      split
      · exact hok (by rw [tryFrames_enterCleanup]; exact tryFrames_le_cons frame frames)
      · exact hrest stop
    cases frame with
    | suite | cleanup => exact hrest stop
    | whileLoop | forLoop =>
      match stop with
      | .breaks => exact hok (Nat.le_refl _)
      | .continues => exact hok (Nat.le_refl _)
      | .fault _ | .returns _ | .gasExhausted | .endless => exact hrest _
    | guarded handlers orElse cleanup =>
      refine .bind_gives (tries_enterHandler ev s handlers cleanup stop frames) fun r hr => ?_
      match r with
      | .ok rest => exact hok (Nat.le_of_eq (hr rest rfl))
      | .error stop => exact hcleanup cleanup stop
    | afterBody cleanup => exact hcleanup cleanup stop
    | handling f cleanup => exact .bind fun _ => hcleanup cleanup stop

theorem tries_recover (stop : Stop) (frames : List Frame) :
    Eval.Gives (·.tries ≤ tryFrames frames) (recover ev s stop frames) := by
  refine .bind_gives (tries_unwind ev s stop frames) fun r hr => ?_
  match r with
  | .ok rest => exact .pure (hr rest rfl)
  | .error (.returns v) => exact .pure (Nat.zero_le _)
  | .error (.fault _) | .error .breaks | .error .continues | .error .gasExhausted
  | .error .endless => exact .throw _

theorem tries_paidTurn (frame : Frame) (frames : List Frame) :
    Eval.Gives (·.tries ≤ tryFrames (frame :: frames) + 1)
      (paidTurnWith (fun _ x => x) ev s frame frames) := by
  refine .bind_gives (.attempt (tries_advanceFrame ev s frame frames)) fun r hr => ?_
  match r with
  | .ok progress => exact .pure (hr progress rfl)
  | .error stop =>
    intro m p n hp
    have := tries_recover ev s stop frames m p n hp
    have := tryFrames_le_cons frame frames
    omega

theorem tries_wake (targets : List Expr) (frames : List Frame) (resume : Resume) :
    Eval.Gives (·.tries ≤ tryFrames frames) (wake ev s targets frames resume) := by
  refine .bind fun r => ?_
  match r with
  | .ok () => exact .pure (Nat.le_refl _)
  | .error stop => exact tries_recover ev s stop frames

end Tries

/-- Two runs that agree give a value that the first one gives. -/
theorem Coupling.AgreeTo.gives {α : Type} {c : Coupling} {w : c.World} {Out P Q : α → Prop}
    {x : Eval α} {m : Machine} {o : Except Stop α × Machine} (h : c.AgreeTo w Out P (x.on m) o)
    (hx : Eval.Gives Q x) : c.AgreeTo w Out (fun a => P a ∧ Q a) (x.on m) o := by
  have hQ (a : α) (n : Machine) : x.on m = (.ok a, n) → Q a := hx m a n
  generalize x.on m = o at h hQ ⊢
  cases h with
  | ok ha hR => exact .ok ⟨ha, hQ _ _ rfl⟩ hR
  | stop hs hR => exact .stop hs hR
  | endless he => exact .endless he
  | endlessLeft hp => exact .endlessLeft hp
  | endlessRight hp => exact .endlessRight hp
  | excused he => exact .excused he
  | parted ho hp => exact .parted ho hp

end MeteredScript
