import MeteredScript.Proofs.Conduct.Drive
import MeteredScript.Proofs.Leaves

/-!
# Evaluations that do not end the host

Only `Eval.abort` ends the host, and only a removal from a set ever gets there. So every built-in
function, every method but that one, every operator, store and iteration is *calm*: it does not
end the host, if the code of the script that it runs does not. To say this of all code of the
script, what it does to the host is kept from being noticed (`Evaluator.quiet`).

To be calm is a rule of conduct (`calming`), to which every lawful evaluation keeps.
-/

namespace MeteredScript

open Eval

variable {α β : Type} {ev : Evaluator}

/-! ## What evaluations are made of -/

/-- **What does not end the host.** -/
abbrev Eval.Calm (x : Eval α) : Prop := Leaves Machine.aborted x

/-- **Code of the script that does not end the host.** -/
structure Evaluator.Calm (ev : Evaluator) : Prop where
  eval (e : Expr) (scope : ScopeId) : (ev.eval e scope).Calm
  exec (s : Stmt) (scope : ScopeId) : (ev.exec s scope).Calm
  resume (id : GeneratorId) (r : Resume) : (ev.resume id r).Calm

/-- Do the same, and let nobody notice if it ends the host. -/
def Eval.quiet (x : Eval α) : Eval α := fun m =>
  match x m with
  | .ok a n => .ok a { n with aborted := m.aborted }
  | .error s n => .error s { n with aborted := m.aborted }

theorem Eval.calm_quiet (x : Eval α) : x.quiet.Calm := fun m => by
  unfold Eval.on Eval.quiet
  cases x m <;> rfl

/-- **The same code of the script**, of which nobody notices that it ends the host. -/
def Evaluator.quiet (ev : Evaluator) : Evaluator where
  eval e scope := (ev.eval e scope).quiet
  exec s scope := (ev.exec s scope).quiet
  resume id r := (ev.resume id r).quiet
  rounds := ev.rounds

theorem Evaluator.calm_quiet (ev : Evaluator) : ev.quiet.Calm where
  eval e scope := (ev.eval e scope).calm_quiet
  exec s scope := (ev.exec s scope).calm_quiet
  resume id r := (ev.resume id r).calm_quiet

/-! ## The rule -/

/-- **The rule that the host goes on** if it does, whatever else happens. -/
def calming : Conduct where
  World := Bool
  Kept aborted m := m.aborted = aborted
  Stops _ := True
  strict := False

theorem lawful_calming : calming.Lawful where
  congr kept _ _ same := same.trans kept
  kept_define _ _ _ := id
  kept_addScope _ _ _ _ := id
  kept_setGenerator _ _ _ := id
  kept_newFunction _ := id
  placed := False.elim
  stops _ _ := trivial
  stays _ := False.elim

/-- What keeps to this rule is calm. -/
theorem Conduct.Runs.calm {S : Stop → Prop} {P : α → Prop} {x : Eval α}
    (runs : calming.Runs S P x) : x.Calm := fun m => (runs m.aborted m rfl).1

/-- What is calm keeps to this rule. -/
theorem Eval.Calm.runs {S : Stop → Prop} {x : Eval α} (calm : x.Calm) (hS : ∀ s, S s) :
    calming.Runs S (fun _ => True) x := by
  intro aborted m kept
  refine ⟨(calm m).trans kept, ?_⟩
  cases (x.on m).1 with
  | ok => trivial
  | error s => exact hS s

/-- **Calm code of the script** keeps to it, and so does what is made of it. -/
theorem Evaluator.Calm.binds (calm : ev.Calm) : calming.Binds ev where
  toLawful := lawful_calming
  eval e scope := (calm.eval e scope).runs fun _ => trivial
  exec scope _ := (calm.exec _ scope).runs fun _ => False.elim
  resume id r := (calm.resume id r).runs fun _ => trivial

end MeteredScript
