import MeteredScript.Proofs.Balance.Exact
import MeteredScript.Proofs.Regime.Drive

/-!
# Bounded evaluators under a regime

Here the circle of evaluation is closed for regimes. `Regime.Keeping.task` says
that two evaluators which keep a regime keep it in whatever evaluation can be
asked to do. A regime is *free* if it asks nothing of the values of expressions
and of the generators that are resumed; then every bounded evaluator keeps it
(`Regime.Free.bounded`), and a check that the invariant passes is never noticed
(`Regime.Free.watched`).
-/

namespace MeteredScript

namespace Regime

variable {R : Regime} {Objects : Expr → Prop} {g : R.Stage} {w : R.World}

/-! ## Tasks -/

/-- What a task needs: the right to run code where it runs code, and values
that fit the world. -/
def Allows (R : Regime) (Objects : Expr → Prop) (g : R.Stage) (w : R.World) : Task → Prop
  | .eval _ s => R.runs g s
  | .exec _ s | .block _ s | .script _ s => R.runs g s ∧ R.writes g s
  | .call _ arguments | .method _ _ arguments => Within (R.named w) arguments
  | .assign target v s => R.runs g s ∧ R.writes g s ∧ Within (R.named w) v ∧
    ∀ o ∈ target.attributeObjects, Objects o
  | .drain v => Within (R.named w) v
  | .resume _ r => Within (R.named w) r
  | .close _ => True

/-- **Two evaluators that keep a regime keep it in every task.** -/
theorem Keeping.task {ev ev' : Evaluator} (h : R.Keeping Objects ev ev') {task : Task}
    (allowed : R.Allows Objects g w task) : R.Keeps g w (task.run ev) (task.run ev') := by
  have none {x y : Eval Unit} (hxy : R.Keeps g w x y) :
      R.Keeps g w ((fun _ => Value.none) <$> x) ((fun _ => Value.none) <$> y) :=
    hxy.map _ fun _ _ _ _ => within_none
  cases task with
  | eval e scope => exact h.eval allowed
  | exec s scope => exact none (h.exec allowed.1 allowed.2)
  | block body scope => exact none (h.execBlock allowed.1 allowed.2 body)
  | script body scope => exact h.execModule allowed.1 allowed.2 body within_none
  | call callee arguments => exact h.callValue callee allowed
  | method receiver name arguments => exact h.callMethod receiver name allowed
  | assign target value scope =>
    obtain ⟨runs, writes, hv, ht⟩ := allowed
    exact none (h.assignTarget runs writes target ht hv)
  | drain v =>
    exact (h.collect allowed).map _ fun _ _ _ hitems =>
      within_tuple.2 (within_list.1 (within_array.1 hitems))
  | resume id r => exact h.resume id allowed
  | close id => exact none (h.close id)

/-! ## Closing the circle -/

/-- A generator that is running is refused by every evaluator made out of
another one. -/
theorem refuses_deeper (ev : Evaluator) : Refuses ev.deeper := fun _ _ r running =>
  .inr (on_resume_of_running ev running r)

theorem keeping_idle : R.Keeping Objects .idle .idle where
  eval _ := .throw within_endless
  gives _ _ := .throw _
  exec _ _ := .throw within_endless
  resume _ _ _ := .throw within_endless
  close _ := .closeGenerator (refuses_bounded 0) fun _ => .throw within_endless
  rounds := rfl

/-- **A regime that asks for nothing.** -/
structure Free (R : Regime) : Prop where
  /-- The value of an expression may be anything. -/
  gives (v : Value) : R.gives v
  /-- Any generator may be resumed. -/
  wakes (id : GeneratorId) : R.wakes id

namespace Free

variable (free : R.Free) {ev ev' : Evaluator}

include free

/-- **One level of recursion more.** -/
theorem deeper (h : R.Keeping (fun _ => True) ev ev') :
    R.Keeping (fun _ => True) ev.deeper ev'.deeper where
  eval runs := h.evalExpr runs fun _ _ => trivial
  gives _ _ _ v _ _ := free.gives v
  exec runs writes := h.execStmt runs writes fun _ _ => trivial
  resume id _ hr := h.resumeGenerator (fun _ => trivial) (free.wakes id) hr
  close id := .closeGenerator (refuses_deeper ev) fun hr =>
    h.resumeGenerator (fun _ => trivial) (free.wakes id) hr
  rounds := congrArg (· + 1) h.rounds

/-- **Every bounded evaluator keeps a free regime.** -/
theorem bounded (n : Nat) : R.Keeping (fun _ => True) (.bounded n) (.bounded n) := by
  induction n with
  | zero => exact keeping_idle
  | succ n ih => exact free.deeper ih

end Free

/-- **An operation of a host keeps a regime** if bounded evaluators do. -/
theorem after_perform {α : Type} [Holder α] {s : Session} (inv : R.Inv g w s.machine)
    {x : Evaluator → Eval α} (keeps : ∀ n, R.Keeps g w (x (.bounded n)) (x (.bounded n)))
    (ends : (s.perform (.boundedly x)).1 ≠ .error .endless) :
    R.After g w (s.perform (.boundedly x)).1 (s.perform (.boundedly x)).2.machine := by
  rw [Session.perform_eq, Eval.on_boundedly] at ends ⊢
  rcases keeps s.machine.bound w s.machine (R.grows_refl w) inv with ⟨endless, -⟩ | ⟨-, -, after⟩
  · exact absurd endless ends
  · exact after

/-! ## Watched runs -/

section Watched

variable {α : Type} [Holder α] {x y : Eval α} (check : Machine → Bool)
  (passes : ∀ {g : R.Stage} {w : R.World} {m : Machine}, R.Inv g w m → check (R.cover m) = true)

include passes

/-- A check that the invariant passes is not noticed. -/
theorem Keeps.checked (h : R.Keeps g w x y) (alarm : Eval α) :
    R.Keeps g w x (Eval.checked check alarm y) := by
  intro w₁ m hw inv
  rw [Eval.checked, Eval.on_bind_ok (Eval.on_get (R.cover m)), if_pos (passes inv)]
  exact h w₁ m hw inv

/-- **The invariant holds throughout**: to check it before each operation makes
no difference. -/
theorem Free.watched (free : R.Free) (alarm : (α : Type) → Eval α) (n : Nat) :
    R.Keeping (fun _ => True) (.bounded n) (.watched check alarm n) := by
  induction n with
  | zero => exact keeping_idle
  | succ n ih =>
    have deeper := free.deeper ih
    exact {
      eval := fun runs => (deeper.eval runs).checked check passes _
      gives := deeper.gives
      exec := fun runs writes => (deeper.exec runs writes).checked check passes _
      resume := fun id _ hr => (deeper.resume id hr).checked check passes _
      close := fun id => .closeGenerator (refuses_bounded (n + 1)) fun hr =>
        (deeper.resume id hr).checked check passes _
      rounds := deeper.rounds }

end Watched

end Regime

end MeteredScript
