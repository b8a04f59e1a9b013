import MeteredScript.Proofs.Dialogue.Turns

/-!
# Frames hold the conversations that are told recursively

One lemma for each thing that frames are made of, and `follows` on top of them:
the machine of frames does what is told recursively, whatever frames are behind.
It is an induction on the room that telling has, and in it on the statements of
a block and on the rounds of a loop.
-/

namespace MeteredScript

open Coupling

section Parts

variable {left right : Prop} {ev ev' : Evaluator} {scope : ScopeId} {exec : Stmt → Talk Unit}
  {t : Turns left right} {frames : List Frame} {k : Sequel Unit}
  (hself : (upToGas left right).Couples ev ev)

include hself

/-! ## `finally` blocks -/

/-- What a `finally` block is followed by. -/
def resultOf : Option Stop → Except Stop Unit
  | none => .ok ()
  | some s => .error s

omit hself in
theorem none_ne_endless : (none : Option Stop) ≠ some .endless := by simp

omit hself in
theorem some_ne_endless {s : Stop} (hs : s ≠ .endless) : some s ≠ some .endless := by simpa using hs

/-- What is done after a `finally` block. -/
def afterCleanup (pending : Option Stop) (k : Sequel Unit) : Sequel Unit
  | .ok (), d => (Talk.ofStop (resultOf pending)).through k d
  | .error h, d => k (.error h) d

omit hself in
theorem through_cleanup (block : Block) (pending : Option Stop) (d : Dialogue) :
    (Talk.execOptional exec (some block) >>= fun _ => Talk.ofStop (resultOf pending)).through k d =
      (Talk.execBlock exec block).through (afterCleanup pending k) d := by
  rw [Talk.through_bind]
  refine Talk.through_congr _ (fun r d => ?_) d
  match r with
  | .ok () | .error _ => rfl

omit hself in
theorem Sequel.Burns.afterCleanup (hk : k.Burns) (pending : Option Stop) :
    (afterCleanup pending k).Burns := by
  intro r d m
  match r, pending with
  | .ok (), none => exact hk (.ok ()) d m
  | .ok (), some s => exact hk (.error (.stop s)) d m
  | .error h, _ => exact hk (.error h) d m

/-- **A `finally` block** and what is pending after it. -/
theorem follows_cleanup (ih : Follows ev scope exec t) (hk : Continues ev scope t frames k)
    (cleanup : Option Block) {pending : Option Stop} (hp : pending ≠ some .endless)
    (d : Dialogue) :
    (upToGas left right).Sim
      (playCleanup ev scope (t.player ev scope) cleanup pending frames d)
      ((Talk.execOptional exec cleanup >>= fun _ => Talk.ofStop (resultOf pending)).through k d) := by
  match cleanup, pending, hp with
  | none, none, _ => exact hk.go t.le_refl d
  | none, some s, hp => exact hk.stop t.le_refl (by simpa using hp) d
  | some block, pending, hp =>
    rw [through_cleanup]
    have hburns := hk.burns.afterCleanup pending
    have hk' : Continues ev scope t (.cleanup pending :: frames) (afterCleanup pending k) := by
      refine ⟨hburns, fun {t'} ht d => ?_, fun ht _ hs d => hk.stop ht hs d, hk.wait⟩
      refine sim_turn hself t' (hburns (.ok ()) d) fun t'' h => ?_
      have hle := Turns.le_trans h.le ht
      match pending, hp with
      | none, _ => exact hk.go hle d
      | some s, hp =>
        have hs : s ≠ .endless := by simpa using hp
        show (upToGas left right).Sim (playStep ev scope _ (throw s) frames d) _
        rw [playStep_throw hs]
        exact hk.stop hle hs d
    exact ih.block hk' block d

/-! ## Loops -/

/-- What is done after a loop is done by the frames as well. -/
structure LoopContinues (ev : Evaluator) (scope : ScopeId) (t : Turns left right)
    (orElse : Option Block) (frames : List Frame) (k : Sequel Bool) : Prop where
  burns : k.Burns
  finished {t' : Turns left right} : t' ≤ t → ∀ d,
    (upToGas left right).Sim (t'.player ev scope (.onward (suiteOf orElse frames)) d)
      (k (.ok true) d)
  broken {t' : Turns left right} : t' ≤ t → ∀ d,
    (upToGas left right).Sim (t'.player ev scope (.onward frames) d) (k (.ok false) d)
  stopped {t' : Turns left right} : t' ≤ t → ∀ {s}, s ≠ .endless → ∀ d,
    (upToGas left right).Sim (playAfter ev scope (t'.player ev scope) s frames d)
      (k (.error (.stop s)) d)
  waiting (d : Dialogue) :
    (upToGas left right).Sim (pure (.error .waiting, d)) (k (.error .waiting) d)

omit hself in
theorem LoopContinues.mono {orElse : Option Block} {k : Sequel Bool}
    (hk : LoopContinues ev scope t orElse frames k) {t' : Turns left right} (ht : t' ≤ t) :
    LoopContinues ev scope t' orElse frames k where
  burns := hk.burns
  finished h := hk.finished (Turns.le_trans h ht)
  broken h := hk.broken (Turns.le_trans h ht)
  stopped h := hk.stopped (Turns.le_trans h ht)
  waiting := hk.waiting

/-- What is done after the body of a loop: the next round, unless it was left. -/
def afterRound (next : Talk Bool) (k : Sequel Bool) : Sequel Unit
  | .ok (), d | .error (.stop .continues), d => next.through k d
  | .error (.stop .breaks), d => k (.ok false) d
  | .error h, d => k (.error h) d

omit hself in
theorem through_round (body : Block) (next : Talk Bool) (k : Sequel Bool) (d : Dialogue) :
    (Talk.runRound exec body >>= fun again => if again then next else pure false).through k d =
      (Talk.execBlock exec body).through (afterRound next k) d := by
  rw [Talk.through_bind, Talk.runRound, Talk.through_bind, Talk.through_attempt]
  refine Talk.through_congr _ (fun r d => ?_) d
  rcases r with (s | _) | _
  · cases s <;> rfl
  · rfl
  · rfl

omit hself in
/-- **A round of a loop**, given the rounds after it. -/
theorem follows_round (ih : Follows ev scope exec t) {loop : Frame} (hloop : loop.IsLoop)
    {orElse : Option Block} {k : Sequel Bool} (hk : LoopContinues ev scope t orElse frames k)
    {next : Talk Bool} (hburns : ∀ d m, Machine.Burns m ((next.through k d).on m).2)
    (hnext : ∀ t' ≤ t, ∀ d, (upToGas left right).Sim
      (t'.player ev scope (.onward (loop :: frames)) d) (next.through k d))
    (body : Block) (d : Dialogue) :
    (upToGas left right).Sim (t.player ev scope (.onward (.suite body :: loop :: frames)) d)
      ((Talk.runRound exec body >>= fun again => if again then next else pure false).through k
        d) := by
  rw [through_round]
  refine ih.block ⟨fun r d m => ?_, fun {t'} ht d => hnext t' ht d, fun {t'} ht s hs d => ?_,
    hk.waiting⟩ body d
  · match r with
    | .ok () | .error (.stop .continues) => exact hburns d m
    | .error (.stop .breaks) => exact hk.burns (.ok false) d m
    | .error .waiting | .error (.stop (.fault _)) | .error (.stop (.returns _))
    | .error (.stop .gasExhausted) | .error (.stop .endless) => exact hk.burns (.error _) d m
  · rw [playAfter_loop hloop]
    match s with
    | .breaks => exact hk.broken ht d
    | .continues => exact hnext t' ht d
    | .fault _ | .returns _ | .gasExhausted | .endless => exact hk.stopped ht hs d

namespace Turns

/-- There are no more turns than a told loop may have rounds, if the turns are
limited at all. -/
def Lasts : Turns left right → Nat → Prop
  | limited _ fuel, rounds => fuel ≤ rounds
  | free _, _ => True

omit hself in
theorem Lasts.after {rounds : Nat} (h : t.Lasts (rounds + 1)) {t' : Turns left right}
    (ht : t.After t') : t'.Lasts rounds := by
  cases ht with
  | limited hp fuel => exact Nat.le_of_succ_le_succ h
  | free hp => trivial

omit hself in
theorem Lasts.mono {rounds : Nat} (h : t.Lasts rounds) {t' : Turns left right} (ht : t' ≤ t) :
    t'.Lasts rounds := by
  cases ht with
  | limited hp hle => exact Nat.le_trans hle h
  | free hp => trivial

end Turns

/-- A loop that is out of rounds. -/
theorem sim_no_rounds (h : t.Lasts 0) (progress : Progress) (d : Dialogue) :
    (upToGas left right).Sim (t.player ev scope progress d) (throw .endless) := by
  cases t with
  | limited hp fuel =>
    rw [show fuel = 0 from Nat.le_zero.1 h]
    exact Sim.throw .endless
  | free hp =>
    exact ⟨fun _ _ => trivial, fun _ => burns_player hself (.free hp) progress d,
      fun _ => .refl, fun _ => .endlessRight hp⟩

section Couple

variable (hself' : (upToGas left right).Couples ev' ev')
  (h : (upToGas left right).Couples ev ev')
  (hexec : ∀ s, (upToGas left right).Talks (exec s) (exec s))

include hself' h hexec

/-- **A `while` loop.** -/
theorem follows_while (condition : Expr) (body : Block) {orElse : Option Block} {k : Sequel Bool}
    (ih : Follows ev scope exec t) (hk : LoopContinues ev scope t orElse frames k) {rounds : Nat}
    (hr : t.Lasts rounds) (d : Dialogue) :
    (upToGas left right).Sim
      (t.player ev scope (.onward (.whileLoop condition body orElse :: frames)) d)
      ((Talk.runWhile ev' exec scope condition body rounds).through k d) := by
  have htalk (rounds : Nat) : (upToGas left right).Talks
      (Talk.runWhile ev' exec scope condition body rounds) _ :=
    hself'.talkWhile upToGas_shows hexec condition body (.refl rounds)
  have hburns (rounds : Nat) := hk.burns.through (htalk rounds)
  induction rounds generalizing t d with
  | zero => exact sim_no_rounds hself hr _ d
  | succ rounds ihr =>
    refine sim_turn hself t (hburns _ d) fun t' ht => sim_tick ?_ hk.burns
    refine sim_step (h.holds (upToGas_shows _)) (fun b => ?_) fun hs => hk.stopped ht.le hs d
    cases b with
    | false => exact hk.finished ht.le d
    | true =>
      have hloop : (Frame.whileLoop condition body orElse).IsLoop := trivial
      have hr' := hr.after ht
      exact follows_round (ih.mono ht.le) hloop (hk.mono ht.le) (hburns rounds)
        (fun t'' ht' d => ihr (ih.mono (Turns.le_trans ht' ht.le))
          (hk.mono (Turns.le_trans ht' ht.le)) (hr'.mono ht') d) body d

/-- **A `for` loop.** -/
theorem follows_for (target : Expr) (body : Block) {orElse : Option Block} {k : Sequel Bool}
    (ih : Follows ev scope exec t) (hk : LoopContinues ev scope t orElse frames k) {rounds : Nat}
    (hr : t.Lasts rounds) (cursor : Cursor) (d : Dialogue) :
    (upToGas left right).Sim
      (t.player ev scope (.onward (.forLoop target body orElse cursor :: frames)) d)
      ((Talk.runFor ev' exec scope target body rounds cursor).through k d) := by
  have htalk (rounds : Nat) (cursor : Cursor) : (upToGas left right).Talks
      (Talk.runFor ev' exec scope target body rounds cursor) _ :=
    hself'.talkFor upToGas_shows hexec target body (.refl rounds) cursor
  have hburns (rounds : Nat) (cursor : Cursor) := hk.burns.through (htalk rounds cursor)
  induction rounds generalizing t cursor d with
  | zero => exact sim_no_rounds hself hr _ d
  | succ rounds ihr =>
    refine sim_turn hself t (hburns _ cursor d) fun t' ht => ?_
    refine sim_step (h.next? cursor) (fun next => ?_) fun hs => hk.stopped ht.le hs d
    match next with
    | none => exact hk.finished ht.le d
    | some (item, cursor) =>
      refine sim_tick ?_ hk.burns
      refine sim_step (h.assignTarget target item (upToGas_shows _)) (fun _ => ?_)
        fun hs => hk.stopped ht.le hs d
      have hloop : (Frame.forLoop target body orElse cursor).IsLoop := trivial
      have hr' := hr.after ht
      exact follows_round (ih.mono ht.le) hloop (hk.mono ht.le) (hburns rounds cursor)
        (fun t'' ht' d => ihr (ih.mono (Turns.le_trans ht' ht.le))
          (hk.mono (Turns.le_trans ht' ht.le)) (hr'.mono ht') cursor d) body d

/-! ## `try` statements -/

section Try

variable {handlers : List Handler} {orElse cleanup : Option Block}

/-- What is done after a `try` statement but for its `finally` block. -/
def afterGuarded (exec : Stmt → Talk Unit) (cleanup : Option Block) (k : Sequel Unit) : Sequel Unit
  | .ok (), d =>
    (Talk.execOptional exec cleanup >>= fun _ => Talk.ofStop (resultOf none)).through k d
  | .error (.stop s), d =>
    (Talk.execOptional exec cleanup >>= fun _ => Talk.ofStop (resultOf (some s))).through k d
  | .error .waiting, d => k (.error .waiting) d

/-- What is done after the body of a `try` statement. -/
def afterTried (ev : Evaluator) (scope : ScopeId) (exec : Stmt → Talk Unit)
    (handlers : List Handler) (orElse : Option Block) (k : Sequel Unit) : Sequel Unit
  | .ok (), d => (Talk.execOptional exec orElse).through k d
  | .error (.stop (.fault f)), d => (Talk.handleFault ev exec scope handlers f).through k d
  | .error h, d => k (.error h) d

/-- What is done after the body of a handler. -/
def afterHandler (k : Sequel Unit) : Sequel Unit
  | .ok (), d => Eval.popHandling >>= fun _ => k (.ok ()) d
  | .error (.stop s), d => Eval.popHandling >>= fun _ => k (.error (.stop s)) d
  | .error .waiting, d => k (.error .waiting) d

omit hself hself' h hexec in
theorem through_runTry (body : Block) (d : Dialogue) :
    (Talk.runTry ev' exec scope body handlers orElse cleanup).through k d =
      (Talk.runGuarded ev' exec scope body handlers orElse).through (afterGuarded exec cleanup k)
        d := by
  rw [Talk.runTry, Talk.through_bind, Talk.through_attempt]
  refine Talk.through_congr _ (fun r d => ?_) d
  rcases r with (_ | _) | _ <;> rfl

omit hself hself' h hexec in
theorem through_runGuarded (body : Block) (d : Dialogue) :
    (Talk.runGuarded ev' exec scope body handlers orElse).through k d =
      (Talk.execBlock exec body).through (afterTried ev' scope exec handlers orElse k) d := by
  rw [Talk.runGuarded, Talk.through_bind, Talk.through_attempt]
  refine Talk.through_congr _ (fun r d => ?_) d
  rcases r with (s | _) | _
  · cases s <;> rfl
  · rfl
  · rfl

omit hself hself' h hexec in
theorem through_whileHandling (f : Fault) (body : Block) (d : Dialogue) :
    (Talk.whileHandling f (Talk.execBlock exec body)).through k d =
      Eval.pushHandling f >>= fun _ => (Talk.execBlock exec body).through (afterHandler k) d := by
  rw [Talk.whileHandling, Talk.through_lift_bind, Eval.attempt_of_total (Eval.total_pushHandling f)]
  refine bind_congr fun _ => ?_
  rw [Talk.through_bind, Talk.through_attempt]
  refine Talk.through_congr _ (fun r d => ?_) d
  rcases r with (s | _) | _
  · dsimp only
    rw [Talk.through_lift_bind, Eval.attempt_of_total Eval.total_popHandling]
    rfl
  · rfl
  · dsimp only
    rw [Talk.through_lift_bind, Eval.attempt_of_total Eval.total_popHandling]
    rfl

omit hself hself' h in
theorem Sequel.Burns.afterGuarded (hk : k.Burns) (cleanup : Option Block) :
    (afterGuarded exec cleanup k).Burns := by
  have hcleanup (pending : Option Stop) := hk.through
    (Talks.bind (Couples.talkOptional hexec cleanup) fun _ => Talks.ofStop (resultOf pending))
  intro r d m
  match r with
  | .ok () => exact hcleanup none d m
  | .error (.stop s) => exact hcleanup (some s) d m
  | .error .waiting => exact hk _ d m

omit hself h in
theorem Sequel.Burns.afterTried (hk : k.Burns) :
    (afterTried ev' scope exec handlers orElse k).Burns := by
  intro r d m
  match r with
  | .ok () => exact hk.through (Couples.talkOptional hexec orElse) d m
  | .error (.stop (.fault f)) =>
    exact hk.through (hself'.talkHandle upToGas_shows hexec upToGas_steady scope handlers f) d m
  | .error .waiting | .error (.stop (.returns _)) | .error (.stop .breaks)
  | .error (.stop .continues) | .error (.stop .gasExhausted) | .error (.stop .endless) =>
    exact hk _ d m

omit hself hself' h hexec in
theorem Sequel.Burns.afterHandler (hk : k.Burns) : (afterHandler k).Burns := by
  intro r d m
  match r with
  | .ok () | .error (.stop _) => exact Machine.Burns.trans (.of_eq rfl rfl) (hk _ d _)
  | .error .waiting => exact hk _ d m

section Cleanup

variable (ih : Follows ev scope exec t) (hk : Continues ev scope t frames k)

include ih hk

omit hself' h in
/-- The `else` block of a `try` statement. -/
theorem continues_afterBody :
    Continues ev scope t (.afterBody cleanup :: frames) (afterGuarded exec cleanup k) := by
  have hburns := Sequel.Burns.afterGuarded hexec hk.burns cleanup
  refine ⟨hburns, fun {t'} ht d => ?_, fun ht s hs d => ?_, hk.wait⟩
  · refine sim_turn hself t' (hburns (.ok ()) d) fun t'' h => ?_
    have hle := Turns.le_trans h.le ht
    have hnone := follows_cleanup hself (ih.mono hle) (hk.mono hle) cleanup none_ne_endless d
    rw [playCleanup_none] at hnone
    exact hnone
  · rw [playAfter_afterBody]
    exact follows_cleanup hself (ih.mono ht) (hk.mono ht) cleanup (some_ne_endless hs) d

omit hself' h in
/-- The body of a handler. -/
theorem continues_handling (f : Fault) :
    Continues ev scope t (.handling f cleanup :: frames)
      (afterHandler (afterGuarded exec cleanup k)) := by
  have hburns := (Sequel.Burns.afterGuarded hexec hk.burns cleanup).afterHandler
  have hpop : (upToGas left right).Sim Eval.popHandling Eval.popHandling :=
    upToGas_steady.popHandling
  refine ⟨hburns, fun {t'} ht d => ?_, fun ht s hs d => ?_, hk.wait⟩
  · refine sim_turn hself t' (hburns (.ok ()) d) fun t'' h => ?_
    have hle := Turns.le_trans h.le ht
    show (upToGas left right).Sim (playStep ev scope _ (Eval.popHandling >>= _) frames d) _
    rw [playStep_total Eval.total_popHandling]
    refine Sim.bind hpop fun _ => ?_
    have hnone := follows_cleanup hself (ih.mono hle) (hk.mono hle) cleanup none_ne_endless d
    rw [playCleanup_none] at hnone
    exact hnone
  · rw [playAfter_handling]
    exact Sim.bind hpop fun _ =>
      follows_cleanup hself (ih.mono ht) (hk.mono ht) cleanup (some_ne_endless hs) d

/-- **The body of a `try` statement.** -/
theorem continues_guarded :
    Continues ev scope t (.guarded handlers orElse cleanup :: frames)
      (afterTried ev' scope exec handlers orElse (afterGuarded exec cleanup k)) := by
  have hburns : (afterTried ev' scope exec handlers orElse (afterGuarded exec cleanup k)).Burns :=
    .afterTried hself' hexec (.afterGuarded hexec hk.burns cleanup)
  refine ⟨hburns, fun {t'} ht d => ?_, fun {t'} ht s hs d => ?_, hk.wait⟩
  · refine sim_turn hself t' (hburns (.ok ()) d) fun t'' h => ?_
    have hle := Turns.le_trans h.le ht
    cases orElse with
    | none =>
      have hnone := follows_cleanup hself (ih.mono hle) (hk.mono hle) cleanup none_ne_endless d
      rw [playCleanup_none] at hnone
      exact hnone
    | some block =>
      exact (ih.mono hle).block
        (continues_afterBody hself hexec (ih.mono hle) (hk.mono hle)) block d
  · have hcleanup {s : Stop} (hs : s ≠ .endless) := follows_cleanup hself (ih.mono ht) (hk.mono ht)
      cleanup (some_ne_endless hs) d
    cases s with
    | fault f =>
      show (upToGas left right).Sim _ ((Talk.handleFault ev' exec scope handlers f).through
        (afterGuarded exec cleanup k) d)
      rw [playAfter_guarded_fault, Talk.handleFault, Talk.through_lift_bind]
      refine Sim.attempt_bind (h.findHandler f.exceptionKind (upToGas_shows _)).sim
        (fun r hr => ?_) (.of_united _)
      rcases r with s | _ | handler
      · exact hcleanup (by simpa using hr)
      · exact hcleanup hs
      · dsimp only
        rw [Talk.through_lift_bind, Eval.attempt_of_total (Eval.total_bindException scope handler f)]
        refine Sim.bind (h.bindException (upToGas_shows _) f) fun _ => ?_
        dsimp only
        rw [through_whileHandling]
        refine Sim.bind (upToGas_steady.pushHandling f) fun _ => ?_
        exact (ih.mono ht).block
          (continues_handling hself hexec (ih.mono ht) (hk.mono ht) f) handler.body d
    | returns | breaks | continues | gasExhausted | endless =>
      rw [playAfter_guarded (by simp)]
      exact hcleanup hs

/-- **A `try` statement.** -/
theorem follows_try (body : Block) (d : Dialogue) :
    (upToGas left right).Sim
      (t.player ev scope
        (.onward (.suite body :: .guarded handlers orElse cleanup :: frames)) d)
      ((Talk.runTry ev' exec scope body handlers orElse cleanup).through k d) := by
  rw [through_runTry, through_runGuarded]
  exact ih.block (continues_guarded hself hself' h hexec ih hk) body d

end Cleanup

end Try

/-! ## Statements that yield -/

section Yield

variable (hk : Continues ev scope t frames k)

include hk

/-- What is done with the value of a `yield`. -/
def afterYield (ev : Evaluator) (scope : ScopeId) (targets : List Expr) (k : Sequel Unit) :
    Sequel Value
  | .ok w, d => (Talk.lift (assignAll ev scope w targets)).through k d
  | .error h, d => k (.error h) d

omit hself hk h hexec in
theorem Sequel.Burns.afterYield (hk : k.Burns) (targets : List Expr) :
    (afterYield ev' scope targets k).Burns := by
  intro r d m
  match r with
  | .ok w => exact hk.through (Talks.lift (hself'.assignAll w (upToGas_shows _))) d m
  | .error h => exact hk (.error h) d m

omit hexec in
/-- **A `yield`** and the targets that wait for its value. -/
theorem sim_yielded (v : Value) (targets : List Expr) (d : Dialogue) :
    (upToGas left right).Sim (t.player ev scope (.paused (.yielded v targets frames)) d)
      ((Talk.handOver v).through (afterYield ev' scope targets k) d) := by
  have hburns : (afterYield ev' scope targets k).Burns := .afterYield hself' hk.burns targets
  have hask : (upToGas left right).Talks (Talk.handOver v) (Talk.handOver v) := Couples.handOver v
  refine sim_player hself t (hburns.through hask d) fun t' ht => ?_
  obtain ⟨actions, said⟩ := d
  rw [playTurn_yielded]
  match actions with
  | [] => exact hk.wait _
  | .throw e :: actions => exact hk.stop ht.le (s := .fault (.raised e)) (by simp) _
  | .send w :: actions =>
    show (upToGas left right).Sim (Eval.attempt (assignAll ev scope w targets) >>= _)
      ((Talk.lift (assignAll ev' scope w targets)).through k _)
    rw [Talk.through_lift]
    refine Sim.attempt_bind (h.assignAll w (upToGas_shows _)) (fun r hr => ?_) (.of_united _)
    match r with
    | .ok () => exact hk.go ht.le _
    | .error s => exact hk.stop ht.le (by simpa using hr) _

omit hexec in
theorem sim_suspendAt (operand : Option Expr) (targets : List Expr) (d : Dialogue) :
    (upToGas left right).Sim
      (playStep ev scope (t.player ev scope) (suspendAt ev scope operand targets frames) frames d)
      ((Talk.yielded ev' scope operand).through (afterYield ev' scope targets k) d) := by
  cases operand with
  | none => exact sim_yielded hself hself' h hk .none targets d
  | some e =>
    refine sim_step (h.eval (upToGas_shows _)) (fun v => ?_) fun hs => hk.stop t.le_refl hs d
    exact sim_yielded hself hself' h hk v targets d

end Yield

end Couple

/-! ## Statements in blocks -/

/-- What is done after a loop that is a statement. -/
def afterLoop (exec : Stmt → Talk Unit) (orElse : Option Block) (k : Sequel Unit) : Sequel Bool
  | .ok finished, d => (if finished then Talk.execOptional exec orElse else pure ()).through k d
  | .error h, d => k (.error h) d

omit hself in
theorem through_loop (u : Talk Bool) (orElse : Option Block) (d : Dialogue) :
    (u >>= fun finished => if finished then Talk.execOptional exec orElse else pure ()).through k d =
      u.through (afterLoop exec orElse k) d := by
  rw [Talk.through_bind]
  refine Talk.through_congr _ (fun r d => ?_) d
  match r with
  | .ok _ | .error _ => rfl

omit hself in
theorem loopContinues (hexec : ∀ s, (upToGas left right).Talks (exec s) (exec s))
    (ih : Follows ev scope exec t) (hk : Continues ev scope t frames k) (orElse : Option Block) :
    LoopContinues ev scope t orElse frames (afterLoop exec orElse k) where
  burns r d m := by
    match r with
    | .ok true => exact hk.burns.through (Couples.talkOptional hexec orElse) d m
    | .ok false => exact hk.burns (.ok ()) d m
    | .error h => exact hk.burns (.error h) d m
  finished ht d := (ih.mono ht).optional (hk.mono ht) orElse d
  broken ht d := hk.go ht d
  stopped ht _ hs d := hk.stop ht hs d
  waiting d := hk.wait d

omit hself in
theorem through_yield (u : Talk Value) (targets : List Expr) (d : Dialogue) :
    (u >>= fun w => Talk.lift (assignAll ev scope w targets)).through k d =
      u.through (afterYield ev scope targets k) d := by
  rw [Talk.through_bind]
  refine Talk.through_congr _ (fun r d => ?_) d
  match r with
  | .ok _ | .error _ => rfl

/-- What is done after a statement of a block. -/
def afterStmt (exec : Stmt → Talk Unit) (rest : Block) (k : Sequel Unit) : Sequel Unit
  | .ok (), d => (Talk.execBlock exec rest).through k d
  | .error h, d => k (.error h) d

omit hself in
theorem through_block (s : Stmt) (rest : Block) (d : Dialogue) :
    (Talk.execBlock exec (s :: rest)).through k d =
      (exec s).through (afterStmt exec rest k) d := by
  rw [Talk.execBlock, Talk.through_bind]
  refine Talk.through_congr _ (fun r d => ?_) d
  cases r <;> rfl

end Parts

/-! ## Bounded evaluators -/

section Bounded

variable {left right : Prop} {bound n : Nat} {scope : ScopeId} {t : Turns left right}
  {frames : List Frame} {k : Sequel Unit}

namespace Turns

/-- **There is room to tell what is played**, or to play what is told. -/
def Fits (bound n : Nat) : Turns left right → Prop
  | limited _ fuel => bound + fuel ≤ n
  | free _ => n ≤ bound

theorem Fits.mono (h : t.Fits bound n) {t' : Turns left right} (ht : t' ≤ t) :
    t'.Fits bound n := by
  cases ht with
  | limited hp hle => exact Nat.le_trans (Nat.add_le_add_left hle bound) h
  | free hp => exact h

theorem Fits.after (h : t.Fits bound (n + 1)) {t' : Turns left right} (ht : t.After t') :
    t'.Fits bound n := by
  cases ht with
  | limited hp fuel => exact Nat.le_of_succ_le_succ h
  | free hp => exact Nat.le_of_succ_le h

theorem Fits.rounds (h : t.Fits bound n) : (upToGas left right).Rounds bound n := by
  cases t with
  | limited hp fuel => exact .of_le hp (Nat.le_of_add_right_le h)
  | free hp => exact .of_ge hp h

theorem Fits.lasts (h : t.Fits bound n) : t.Lasts n := by
  cases t with
  | limited hp fuel => exact Nat.le_trans (Nat.le_add_left fuel bound) h
  | free hp => trivial

end Turns

theorem couples_self (n : Nat) : (upToGas left right).Couples (.bounded n) (.bounded n) :=
  upToGas_complete.bounded_self n

theorem talk_self (n : Nat) (s : Stmt) :
    (upToGas left right).Talks (Talk.exec scope n s) (Talk.exec scope n s) :=
  upToGas_complete.talk_self upToGas_shows scope n s

/-- A statement that neither is a `yield` nor has statements inside it. -/
theorem sim_plain (hfits : (upToGas left right).Couples (.bounded bound) (.bounded n))
    (hk : Continues (.bounded bound) scope t frames k) {s : Stmt}
    (hbegin : beginStmt (.bounded bound) scope s frames =
      (Evaluator.bounded bound).exec s scope >>= fun _ => pure (.onward frames))
    {u : Talk Unit} (hu : u = Talk.lift ((Evaluator.bounded n).exec s scope)) (d : Dialogue) :
    (upToGas left right).Sim
      (playStep (.bounded bound) scope (t.player (.bounded bound) scope)
        (beginStmt (.bounded bound) scope s frames) frames d)
      (u.through k d) := by
  rw [hbegin, hu, Talk.through_lift, playStep, Eval.attempt_bind, bind_assoc]
  refine Sim.attempt_bind (hfits.exec (upToGas_shows _)) (fun r hr => ?_) (.of_united _)
  cases r with
  | ok => exact hk.go t.le_refl d
  | error s => exact hk.stop t.le_refl (by simpa using hr) d

/-- **Beginning a statement that yields** is beginning to tell it. -/
theorem follows_form (hfits : (upToGas left right).Couples (.bounded bound) (.bounded (n + 1)))
    (hfits' : t.Fits bound n) (ih : Follows (.bounded bound) scope (Talk.exec scope n) t)
    (hk : Continues (.bounded bound) scope t frames k) (s : Stmt) (d : Dialogue) :
    (upToGas left right).Sim
      (playStep (.bounded bound) scope (t.player (.bounded bound) scope)
        (beginStmt (.bounded bound) scope s frames) frames d)
      ((Talk.exec scope (n + 1) s).through k d) := by
  have hself : (upToGas left right).Couples _ _ := couples_self bound
  have hself' : (upToGas left right).Couples _ _ := couples_self n
  have h := upToGas_complete.bounded hfits'.rounds
  have hexec (s : Stmt) : (upToGas left right).Talks (Talk.exec scope n s) _ := talk_self n s
  have hloop := loopContinues hexec ih hk
  have hr : t.Lasts (Evaluator.bounded n).rounds := by
    rw [rounds_bounded]
    exact hfits'.lasts
  have hplain {form : StmtForm} {span : Span}
      (hform : Talk.execForm (.bounded n) (Talk.exec scope n) scope form =
        Talk.lift (execForm (.bounded n) scope form)) :
      Talk.exec scope (n + 1) ⟨span, form⟩ =
        Talk.lift ((Evaluator.bounded (n + 1)).exec ⟨span, form⟩ scope) := by
    show (Talk.lift Eval.tick >>= fun _ => Talk.execForm _ _ scope form) =
      Talk.lift (Eval.tick >>= fun _ => execForm _ scope form)
    rw [Talk.lift_bind, hform]
  have hstop {s : Stop} (hs : s ≠ .endless) (d : Dialogue) := hk.stop t.le_refl hs d
  obtain ⟨span, form⟩ := s
  match form with
  | .expr value =>
    cases value with
    | yield operand =>
      refine sim_tick ?_ hk.burns
      have hsim := sim_suspendAt hself hself' h hk operand [] d
      rw [← through_yield] at hsim
      exact hsim
    | _ => exact sim_plain hfits hk rfl (hplain rfl) d
  | .assign targets value =>
    cases value with
    | yield operand =>
      refine sim_tick ?_ hk.burns
      have hsim := sim_suspendAt hself hself' h hk operand targets d
      rw [← through_yield] at hsim
      exact hsim
    | _ => exact sim_plain hfits hk rfl (hplain rfl) d
  | .branch condition body orElse =>
    refine sim_tick (sim_step (h.holds (upToGas_shows _)) (fun b => ?_) (hstop · d)) hk.burns
    cases b with
    | true => exact ih.block hk body d
    | false => exact ih.optional hk orElse d
  | .whileLoop condition body orElse =>
    refine sim_tick ?_ hk.burns
    have hsim := follows_while hself hself' h hexec condition body ih (hloop orElse) hr d
    rw [← through_loop] at hsim
    exact hsim
  | .forLoop target iterable body orElse =>
    refine sim_tick (sim_step (h.eval (upToGas_shows _)) (fun v => ?_) (hstop · d)) hk.burns
    refine sim_step (h.startIteration v) (fun cursor => ?_) (hstop · d)
    have hsim := follows_for hself hself' h hexec target body ih (hloop orElse) hr cursor d
    rw [← through_loop] at hsim
    exact hsim
  | .attempt body handlers orElse cleanup =>
    exact sim_tick (follows_try hself hself' h hexec ih hk body d) hk.burns
  | .select subject cases =>
    refine sim_tick (sim_step (h.eval (upToGas_shows _)) (fun v => ?_) (hstop · d)) hk.burns
    refine sim_step (h.selectCase v (upToGas_shows _)).sim (fun body => ?_) (hstop · d)
    exact ih.optional hk body d
  | .augmented _ _ _ | .function _ _ _ | .classDef _ _ | .returns _ | .raise _ | .breaks
  | .continues | .pass => exact sim_plain hfits hk rfl (hplain rfl) d

/-- **The first statement of a block**, given the statements inside it and after
it. -/
theorem follows_stmt (hfits : t.Fits bound (n + 1))
    (ih : ∀ {t' : Turns left right}, t'.Fits bound n →
      Follows (.bounded bound) scope (Talk.exec scope n) t')
    {rest : Block} (hrest : ∀ {t' : Turns left right}, t' ≤ t → ∀ d, (upToGas left right).Sim
      (t'.player (.bounded bound) scope (.onward (.suite rest :: frames)) d)
      ((Talk.execBlock (Talk.exec scope (n + 1)) rest).through k d))
    (hk : Continues (.bounded bound) scope t frames k) (s : Stmt) (d : Dialogue) :
    (upToGas left right).Sim
      (t.player (.bounded bound) scope (.onward (.suite (s :: rest) :: frames)) d)
      ((Talk.execBlock (Talk.exec scope (n + 1)) (s :: rest)).through k d) := by
  have hself : (upToGas left right).Couples _ _ := couples_self bound
  have h := upToGas_complete.bounded hfits.rounds
  have htalk (block : Block) : (upToGas left right).Talks
      (Talk.execBlock (Talk.exec scope (n + 1)) block) _ :=
    Couples.talkBlock (talk_self (n + 1)) block
  have hk' : Continues (.bounded bound) scope t (.suite rest :: frames)
      (afterStmt (Talk.exec scope (n + 1)) rest k) := by
    refine ⟨fun r d m => ?_, fun ht d => hrest ht d, fun ht s hs d => hk.stop ht hs d, hk.wait⟩
    cases r with
    | ok => exact hk.burns.through (htalk rest) d m
    | error h => exact hk.burns (.error h) d m
  refine sim_turn hself t (hk.burns.through (htalk (s :: rest)) d) fun t' ht => ?_
  rw [through_block, advanceFrame]
  split
  · exact follows_form h (hfits.after ht) (ih (hfits.after ht)) (hk'.mono ht.le) s d
  · rename_i hs
    rw [Talk.exec_eq_lift scope (n + 1) (by simpa using hs), Talk.through_lift, playStep,
      Eval.attempt_bind, bind_assoc]
    refine Sim.attempt_bind (h.exec (upToGas_shows _)) (fun r hr => ?_) (.of_united _)
    cases r with
    | ok => exact hk'.go ht.le d
    | error s => exact hk'.stop ht.le (by simpa using hr) d

/-- **The machine of frames holds the conversation that is told**, where one of the
two has enough room for the other. -/
theorem follows (hfits : t.Fits bound n) :
    Follows (.bounded bound) scope (Talk.exec scope n) t := by
  have hself : (upToGas left right).Couples _ _ := couples_self bound
  induction n generalizing t with
  | zero =>
    intro t' ht block frames k hk d
    match block with
    | [] => exact sim_turn hself t' (hk.burns (.ok ()) d) fun t'' h => hk.go h.le d
    | s :: rest => exact sim_no_rounds hself (hfits.mono ht).lasts _ d
  | succ n ih =>
    intro t' ht block frames k hk d
    induction block generalizing t' d with
    | nil => exact sim_turn hself t' (hk.burns (.ok ()) d) fun t'' h => hk.go h.le d
    | cons s rest ihrest =>
      refine follows_stmt (hfits.mono ht) ih (fun {t''} ht' d => ?_) hk s d
      exact ihrest t'' (Turns.le_trans ht' ht) (hk.mono ht') d

/-- What is done after a body. -/
def afterBody : Sequel Unit
  | .ok (), d => return (.ok .none, d)
  | .error (.stop (.returns v)), d => return (.ok v, d)
  | .error h, d => return (.error h, d)

/-- **A whole body.** -/
theorem follows_body (hfits : t.Fits bound n) (body : Block) (d : Dialogue) :
    (upToGas left right).Sim (t.player (.bounded bound) scope (.onward [.suite body]) d)
      (Talk.runBody scope n body d) := by
  have hself : (upToGas left right).Couples _ _ := couples_self bound
  have hbody : Talk.runBody scope n body d =
      (Talk.execBlock (Talk.exec scope n) body).through afterBody d := by
    rw [Talk.runBody, Talk.bind_apply, Talk.through_attempt]
    refine Talk.through_congr _ (fun r d => ?_) d
    match r with
    | .ok () | .error .waiting => rfl
    | .error (.stop s) => cases s <;> rfl
  have hburns : afterBody.Burns := by
    intro r d m
    match r with
    | .ok () | .error .waiting => exact .refl m
    | .error (.stop s) => cases s <;> exact .refl m
  rw [hbody]
  refine (follows hfits).block ⟨hburns, fun {t'} _ d => ?_, fun _ s hs d => ?_,
    fun d => Sim.pure _⟩ body d
  · exact sim_player hself t' (hburns (.ok ()) d) fun _ _ => Sim.pure _
  · match s with
    | .endless => exact absurd rfl hs
    | .returns v =>
      refine sim_player hself _ (hburns (.error (.stop (.returns v))) d) fun _ _ => Sim.pure _
    | .fault _ | .breaks | .continues | .gasExhausted => exact Sim.pure _

end Bounded

end MeteredScript
