import MeteredScript.Proofs.Balance.Exact
import MeteredScript.Proofs.Lifecycle.Growth

/-!
# What stays through a run

A property that endures is there after each task and after each operation of a host, and
nobody who looks during a task ever finds it missing. That is so of the functions of a
machine (`functions_stay`): a function pointer, once it leads to a function, leads to
the same one whenever it is followed.
-/

namespace MeteredScript

open Coupling

namespace Coupling.Enduring

variable {W : Type} {Inv : W → Machine → Prop} (h : Enduring Inv) {w : W} {m : Machine}
  {s s' : Session}

include h

/-- **To look for the property before each operation** of an evaluator makes no
difference. -/
theorem watched {check : Machine → Bool} (passes : ∀ w m, Inv w m → check m = true)
    (alarm : (α : Type) → Eval α) (bound : Nat) :
    (keeping Inv).Couples (.bounded bound) (.watched check alarm bound) := by
  induction bound with
  | zero => exact h.complete.idle
  | succ bound ih =>
    have deeper := h.complete.deeper ih
    refine deeper.checked passes fun id => h.complete.closeGenerator (fun id r => ?_) id
    exact (deeper.resume id r).checked passes (alarm Value)

/-- The property is there after a task that comes to an end. -/
theorem after_task (bound : Nat) (task : Task) (hI : Inv w m)
    (ends : ((task.run (.bounded bound)).on m).1 ≠ .error .endless) :
    Inv w ((task.run (.bounded bound)).on m).2 := by
  have same := (h.complete.bounded_self bound).task (fun _ => keeping_shows _) task
  rcases same.alike hI with ⟨endless, -⟩ | ⟨-, -, after⟩
  · exact absurd endless ends
  · exact after.1

/-- It is there throughout the task. -/
theorem throughout_task {check : Machine → Bool} (passes : ∀ w m, Inv w m → check m = true)
    (alarm : (α : Type) → Eval α) (bound : Nat) (task : Task) (hI : Inv w m)
    (ends : ((task.run (.bounded bound)).on m).1 ≠ .error .endless) :
    (task.run (.watched check alarm bound)).on m = (task.run (.bounded bound)).on m := by
  have same := (h.watched passes alarm bound).task (fun _ => keeping_shows _) task
  rcases same.alike hI with ⟨endless, -⟩ | ⟨same, -⟩
  · exact absurd endless ends
  · exact same

omit h in
/-- It is there after what a host performs. -/
theorem after_perform {α : Type} {x : Evaluator → Eval α}
    (hx : ∀ n, (keeping Inv).Sim (x (.bounded n)) (x (.bounded n))) (hI : Inv w s.machine)
    (ends : (s.perform (.boundedly x)).1 ≠ .error .endless) :
    Inv w (s.perform (.boundedly x)).2.machine := by
  rw [Session.perform_eq, Eval.on_boundedly] at ends ⊢
  rcases (hx s.machine.bound).alike hI with ⟨endless, -⟩ | ⟨-, -, after⟩
  · exact absurd endless ends
  · exact after.1

theorem after_run (body : Block) (hI : Inv w s.machine) (ends : (s.run body).1 ≠ .error .endless) :
    Inv w (s.run body).2.machine :=
  after_perform (fun n => (h.complete.bounded_self n).execModule (keeping_shows _) _) hI ends

theorem after_step (hI : Inv w s.machine) (step : s.Step s') : Inv w s'.machine := by
  have self (n : Nat) := h.complete.bounded_self n
  cases step with
  | run body ends => exact h.after_run body hI ends
  | call name arguments ends =>
    unfold Session.call at ends ⊢
    cases found : s.machine.scopes.findLocal? s.globals name with
    | none => exact hI
    | some callee =>
      rw [found] at ends
      exact after_perform (fun n => (self n).callValue callee arguments) hI ends
  | send id value ends => exact after_perform (fun n => (self n).resume id _) hI ends
  | throw id e ends => exact after_perform (fun n => (self n).resume id _) hI ends
  | close id ends => exact after_perform (fun n => (self n).close id) hI ends
  | define name value => exact h.define s.globals name value hI
  | clearOutput => exact h.congr hI rfl rfl

/-- **It is there in every session that a host gets to.** -/
theorem after_leads (hI : Inv w s.machine) (leads : s.Leads s') : Inv w s'.machine := by
  induction leads with
  | refl => exact hI
  | step _ step ih => exact h.after_step ih step
  | @evaluate s' body _ ends ih =>
    have fresh : Inv w (s'.machine.fresh .standard) := h.congr ih rfl rfl
    exact h.after_run body fresh ends

end Coupling.Enduring

/-- **The functions of a machine stay** in all that comes after it. -/
structure FunctionsStay (m : Machine) : Prop where
  atFirst : m.KeepsFunctions m
  /-- They are there after each task. -/
  after {n : Machine} (bound : Nat) (task : Task) : m.KeepsFunctions n →
    ((task.run (.bounded bound)).on n).1 ≠ .error .endless →
    m.KeepsFunctions ((task.run (.bounded bound)).on n).2
  /-- They are there throughout the task: a check that they pass, made before each operation,
  makes no difference. -/
  throughout {n : Machine} {check : Machine → Bool} (alarm : (α : Type) → Eval α) (bound : Nat)
    (task : Task) : (∀ k, m.KeepsFunctions k → check k = true) → m.KeepsFunctions n →
    ((task.run (.bounded bound)).on n).1 ≠ .error .endless →
    (task.run (.watched check alarm bound)).on n = (task.run (.bounded bound)).on n
  /-- They are there between the operations of a host. -/
  between {s s' : Session} : m.KeepsFunctions s.machine → s.Leads s' →
    m.KeepsFunctions s'.machine

theorem functions_stay (m : Machine) : FunctionsStay m where
  atFirst := .refl m
  after bound task kept ends := (functions_enduring m).after_task (w := ()) bound task kept ends
  throughout alarm bound task passes kept ends :=
    (functions_enduring m).throughout_task (w := ()) (fun _ => passes) alarm bound task kept ends
  between kept leads := (functions_enduring m).after_leads (w := ()) kept leads

end MeteredScript
