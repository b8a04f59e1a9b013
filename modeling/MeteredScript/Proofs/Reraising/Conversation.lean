import MeteredScript.Proofs.Dialogue.Silent
import MeteredScript.Proofs.Reraising.Statement

/-!
# Blocks of generator bodies whose faults are caught and raised again

What holds of a block that is run in one piece holds of a block with `yield`s in it, of which a
generator body is made: with a handler around it that raises again what it catches, it says the
same to its caller and ends in the same way.
-/

namespace MeteredScript

open Coupling

namespace Talk

variable {α β : Type}

/-- To look at how a conversation ends and go on with it is to do nothing. -/
theorem attempt_bind_ofStop (t : Talk α) : attempt t >>= ofStop = t := by
  funext d
  have hpure : t.through (fun r d => Pure.pure (r, d)) d = t d := bind_pure (m := Eval) (t d)
  rw [bind_apply, through_attempt, ← hpure]
  refine through_congr t (fun r d => ?_) d
  match r with
  | .ok _ | .error (.stop _) | .error .waiting => rfl

end Talk

variable {m n : Machine} {scope : ScopeId} {bound : Nat} {body : Block} {handler : Handler}
  {d : Dialogue}

/-- A conversation may stop with a fault. -/
def Catch.talk : Catch (Except Halt Unit × Dialogue) where
  find
    | .ok (.error (.stop (.fault f)), d) =>
      some (f, fun f => .ok (.error (.stop (.fault f)), d))
    | _ => none
  back {r f again} found := by
    split at found
    · cases found
      rfl
    · cases found
  endless := rfl

/-- What follows on a block with a handler around it. -/
def tellHandler (ev : Evaluator) (scope : ScopeId) (handler : Handler) :
    Except Halt Unit → Dialogue → Eval (Except Halt Unit × Dialogue)
  | .error (.stop (.fault f)), d => Talk.lift (handleFault ev scope [handler] f) d
  | r, d => pure (r, d)

theorem on_talk_around (hu : m.Unmetered) (silent : handlersYield [handler] = false) :
    (Talk.exec scope (bound + 1) (handler.around body) d).on m =
      ((Talk.execBlock (Talk.exec scope bound) body).through
        (tellHandler (.bounded bound) scope handler) d).on
          { m with gas := min (m.gas + 1) Eval.gasCeiling } := by
  have hguarded : Talk.runGuarded (.bounded bound) (Talk.exec scope bound) scope body [handler]
      none d = (Talk.execBlock (Talk.exec scope bound) body).through
        (tellHandler (.bounded bound) scope handler) d := by
    rw [Talk.runGuarded, Talk.bind_apply, Talk.through_attempt]
    refine Talk.through_congr _ (fun r d => ?_) d
    rcases r with ((f | _ | _ | _ | _ | _) | _) | _
    · dsimp only
      rw [Talk.handleFault_eq_lift (fun s => Talk.exec_eq_lift scope bound) silent]
      rfl
    -- No handler is asked for what is no fault.
    all_goals rfl
  show ((Talk.lift Eval.tick >>= fun _ => Talk.attempt (Talk.runGuarded (.bounded bound)
    (Talk.exec scope bound) scope body [handler] none) >>= Talk.ofStop) d).on m = _
  rw [Talk.lift_bind_apply, Eval.on_bind_ok (Eval.on_attempt_of_ne hu.on_tick (by simp)),
    ← hguarded, Talk.attempt_bind_ofStop]

theorem wraps_talk (silent : handlersYield [handler] = false) (bound : Nat) (scope : ScopeId)
    (body : Block) (d : Dialogue) :
    Wraps .talk handler bound scope (Talk.execBlock (Talk.exec scope bound) body d)
      (Talk.exec scope (bound + 1) (handler.around body) d) := by
  have hgas : (upToGas False False).Sim (Talk.execBlock (Talk.exec scope bound) body d)
      (Talk.execBlock (Talk.exec scope bound) body d) :=
    Couples.talkBlock (talk_self bound) body d
  refine ⟨hgas, talk_self _ _ d,
    Couples.talkBlock (peopled_complete.talk_self keeping_shows scope bound) body d,
    fun {m pass} hu passes => ?_⟩
  rw [on_talk_around hu silent, Talk.through]
  generalize min (m.gas + 1) Eval.gasCeiling = paid
  generalize hrun : (Talk.execBlock (Talk.exec scope bound) body d).on m = o at passes
  obtain ⟨r, n⟩ := o
  by_cases ends : r = .error .endless
  · subst ends
    have hend : ((Talk.execBlock (Talk.exec scope bound) body d).on { m with gas := paid }).1 =
        .error .endless := (hgas.result_gas hu paid).trans (congrArg Prod.fst hrun)
    rw [Eval.on_bind_error (Prod.ext hend rfl)]
    exact ⟨rfl, fun other => absurd rfl other⟩
  · obtain ⟨hn, gas, hrun'⟩ := hgas.gas hu hrun ends paid
    match r with
    | .error s =>
      rw [Eval.on_bind_error hrun']
      exact ⟨rfl, fun _ => ⟨gas, _, rfl⟩⟩
    | .ok (.error (.stop (.fault f)), d') =>
      obtain ⟨gas', hpassed⟩ := passes n f _ hn rfl rfl gas
      rw [Eval.on_bind_ok hrun']
      show SameButGas _ ((Talk.lift _ d').on _)
      rw [Talk.lift, Eval.on_bind_ok (Eval.on_attempt_of_ne hpassed (by simp))]
      exact ⟨rfl, fun _ => ⟨gas', _, rfl⟩⟩
    | .ok (.ok (), d') | .ok (.error (.stop (.returns _)), d') | .ok (.error (.stop .breaks), d')
    | .ok (.error (.stop .continues), d') | .ok (.error (.stop .gasExhausted), d')
    | .ok (.error (.stop .endless), d') | .ok (.error .waiting, d') =>
      rw [Eval.on_bind_ok hrun']
      exact ⟨rfl, fun _ => ⟨gas, _, rfl⟩⟩

end MeteredScript
