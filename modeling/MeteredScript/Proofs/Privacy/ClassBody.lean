import MeteredScript.Proofs.Privacy.Names
import MeteredScript.Proofs.Scoping.Session

/-!
# Class bodies are invisible to nested scopes

Code that is nested in a class body, in a function, a comprehension, a generator or
another class, does not see what the class body binds. Two runs of such code on
machines that differ there end alike, and the machines again differ there alone
(`Eval.Unaware`).

The exception is the first iterable of a comprehension. It is evaluated in the class
body, and whatever it looks up where it stands it looks up there.
-/

namespace MeteredScript

open Regime

/-! ## Two runs -/

/-- **Two evaluations do the same on machines that differ in the bindings of a scope**,
the second on the one with the given bindings, and leave machines that differ in the same
way. So both print the same lines and use the same gas. -/
structure Eval.Unaware {α : Type} (c : ScopeId) (b : Bindings) (m : Machine) (x y : Eval α) :
    Prop where
  result : (y.on (m.withBindings c b)).1 = (x.on m).1
  machine : (x.on m).1 ≠ .error .endless →
    (y.on (m.withBindings c b)).2 = (x.on m).2.withBindings c b

/-- The regime of a class body says this of evaluations that it relates. -/
theorem Regime.Keeps.unaware {α : Type} [Holder α] {c : ScopeId} {m : Machine} {b : Bindings}
    {x y : Eval α} (h : (classBody c (some ⟨m.scopes.bindings c, b⟩)).Keeps () () x y)
    (body : m.InClassBody c) : Eval.Unaware c b m x y := by
  have same := h () m trivial (body.inv fun k member => by cases member; rfl)
  refine ⟨same.fst_eq, fun ends => ?_⟩
  rcases same with ⟨endless, -⟩ | ⟨same, -⟩
  · exact absurd endless ends
  · exact congrArg Prod.snd same

/-! ## Tasks -/

namespace Task

/-- The values that a task is given. -/
instance : Holder Task where
  Names
    | .eval _ _ | .exec _ _ | .block _ _ | .script _ _ | .close _ => fun _ => False
    | .call _ arguments | .method _ _ arguments => Holder.Names arguments
    | .assign _ v _ => Holder.Names v
    | .drain v => Holder.Names v
    | .resume _ r => Holder.Names r

/-- The scope in which a task runs code at first, if it is told one. -/
def scope? : Task → Option ScopeId
  | .eval _ s | .exec _ s | .block _ s | .script _ s | .assign _ _ s => some s
  | .call _ _ | .method _ _ _ | .drain _ | .resume _ _ | .close _ => none

theorem allows_classBody {c : ScopeId} {mask : Option Mask} {task : Task}
    (given : Within (· ≠ c) task) (elsewhere : mask.isSome → task.scope? ≠ some c) :
    (classBody c mask).Allows (fun _ => True) () () task := by
  have runs {s : ScopeId} (here : task.scope? = some s) (masked : mask.isSome) : s ≠ c :=
    fun same => elsewhere masked (same ▸ here)
  cases task with
  | eval e s => exact runs rfl
  | exec st s => exact ⟨runs rfl, runs rfl⟩
  | block body s => exact ⟨runs rfl, runs rfl⟩
  | script body s => exact ⟨runs rfl, runs rfl⟩
  | call | method | drain | resume => exact given
  | assign target v s => exact ⟨runs rfl, runs rfl, given, fun _ _ => trivial⟩
  | close => trivial

end Task

/-- A check of the machine before each operation of a task is never noticed. -/
structure Task.Passes (task : Task) (check : Machine → Bool) (bound : Nat) (m : Machine) :
    Prop where
  result (alarm : (α : Type) → Eval α) : ((task.run (.watched check alarm bound)).on m).1 =
    ((task.run (.bounded bound)).on m).1
  machine (alarm : (α : Type) → Eval α) : ((task.run (.bounded bound)).on m).1 ≠ .error .endless →
    (task.run (.watched check alarm bound)).on m = (task.run (.bounded bound)).on m

/-- A check that the invariant of a regime passes is not noticed, if nothing is veiled. -/
theorem Regime.Free.passes {R : Regime} (free : R.Free) (bare : R.veil = id) {g : R.Stage}
    {w : R.World} {m : Machine} (inv : R.Inv g w m) {task : Task}
    (allowed : R.Allows (fun _ => True) g w task) {check : Machine → Bool}
    (checked : ∀ {g : R.Stage} {w : R.World} {m : Machine}, R.Inv g w m → check m = true)
    (bound : Nat) : task.Passes check bound m := by
  have uncovered (m : Machine) : R.cover m = m := by
    rw [cover, bare]
    rfl
  have same (alarm : (α : Type) → Eval α) :=
    (keeps_iff bare).1 ((free.watched check
      (fun {_ _ m} inv => (uncovered m).symm ▸ checked inv) alarm bound).task allowed)
      w m (R.grows_refl w) inv
  refine ⟨fun alarm => (same alarm).fst_eq, fun alarm ends => ?_⟩
  rcases same alarm with ⟨endless, -⟩ | ⟨same, -⟩
  · exact absurd endless ends
  · exact same

/-! ## Class bodies -/

/-- **What class bodies show**, in all that evaluation can be asked to do. -/
structure ClassPrivacy (bound : Nat) : Prop where
  /-- In a session of a host that makes up no class objects, class objects lead to scopes
  that are there whenever anything is done. -/
  inside {s : Session} {task : Task} {check : Machine → Bool} : s.Honest → s.Accepts task →
    (∀ m : Machine, m.ClassesInside → check m = true) → task.Passes check bound s.machine
  /-- So a class statement makes a scope that nothing leads to. -/
  opens {m : Machine} (parent : Option ScopeId) : m.ClassesInside →
    ∃ c m', (Eval.newScope .classBody parent).on m = (.ok c, m') ∧ m'.InClassBody c
  /-- Nothing leads there for as long as the body is executed, whatever runs in it or
  elsewhere. -/
  lasts {m : Machine} {c : ScopeId} {task : Task} {check : Machine → Bool} :
    m.InClassBody c → Within (· ≠ c) task →
    (∀ m : Machine, m.InClassBody c → check m = true) → task.Passes check bound m
  /-- That is also so when it is over. -/
  stays {m : Machine} {c : ScopeId} {task : Task} : m.InClassBody c → Within (· ≠ c) task →
    ((task.run (.bounded bound)).on m).1 ≠ .error .endless →
    ((task.run (.bounded bound)).on m).2.InClassBody c
  /-- **Code that runs in any other scope** is unaware of what the class body binds. -/
  elsewhere {m : Machine} {c : ScopeId} {task : Task} (b : Bindings) : m.InClassBody c →
    Within (· ≠ c) task → task.scope? ≠ some c →
    Eval.Unaware c b m (task.run (.bounded bound)) (task.run (.bounded bound))
  /-- So is a comprehension in the class body once its first iterable has a value. -/
  clauses {m : Machine} {c : ScopeId} {outer : Value} (b : Bindings) (form : ComprehensionForm)
    (first : Clause) (rest : List Clause) : m.InClassBody c → Within (· ≠ c) outer →
    Eval.Unaware c b m (evalClauses (.bounded bound) c form first rest outer)
      (evalClauses (.bounded bound) c form first rest outer)
  /-- **The first iterable is looked up in the class body**: the names that it looks up where
  it stands may be any others that the class body binds to the same values, and nothing
  else that the class body binds matters to the comprehension. -/
  firstIterable {m : Machine} {c : ScopeId} (ρ : String → String) (b : Bindings)
    (form : ComprehensionForm) (first : Clause) (rest : List Clause) : m.InClassBody c →
    Mask.Agrees ⟨m.scopes.bindings c, b⟩ ρ first.iterable →
    Eval.Unaware c b m ((Evaluator.bounded bound).eval (.comprehension form (first :: rest)) c)
      ((Evaluator.bounded bound).eval
        (.comprehension form (first.mapIterable (Expr.rename ρ) :: rest)) c)
  /-- The same is true of each expression that stands in the class body. -/
  names {m : Machine} {c : ScopeId} (ρ : String → String) (b : Bindings) (e : Expr) :
    m.InClassBody c → Mask.Agrees ⟨m.scopes.bindings c, b⟩ ρ e →
    Eval.Unaware c b m ((Evaluator.bounded bound).eval e c)
      ((Evaluator.bounded bound).eval (e.rename ρ) c)

/-- **Class bodies are invisible to nested scopes**, except for the first iterables of
comprehensions. -/
theorem class_bodies_are_private (bound : Nat) : ClassPrivacy bound where
  inside {s task check} honest accepts checked := by
    refine free_executing.passes rfl honest.orderly.inv accepts.allows (fun inv => ?_) bound
    exact checked _ (inv.upheld.mono fun s named => (inv.holds.namespaces named).1)
  opens {m} parent inside := ⟨_, _, rfl, inside.inClassBody parent⟩
  lasts {m c task check} body given checked := by
    have inv : (classBody c none).Inv () () m := body.inv nofun
    exact (free_classBody c none).passes rfl inv (Task.allows_classBody given nofun)
      (fun inv => checked _ (Machine.inClassBody_of_inv inv)) bound
  stays {m c task} body given ends := by
    have inv : (classBody c none).Inv () () m := body.inv nofun
    rcases ((free_classBody c none).bounded bound).task (Task.allows_classBody given nofun) () m
      trivial inv with ⟨endless, -⟩ | ⟨-, -, _, _, inv', -⟩
    · exact absurd endless ends
    · exact Machine.inClassBody_of_inv inv'
  elsewhere {m c task} b body given other := by
    have keeping := (free_classBody c (some ⟨m.scopes.bindings c, b⟩)).bounded bound
    exact (keeping.task (Task.allows_classBody given fun _ => other)).unaware body
  clauses {m c outer} b form first rest body given := by
    have keeping := (free_classBody c (some ⟨m.scopes.bindings c, b⟩)).bounded bound
    exact (keeping.evalClauses c form (fun _ _ _ _ => trivial) given).unaware body
  firstIterable {m c} ρ b form first rest body agrees := by
    have same : (Expr.comprehension form (first :: rest)).rename ρ =
        .comprehension form (first.mapIterable (Expr.rename ρ) :: rest) :=
      Expr.rename_eq_mapParts ρ nofun
    rw [← same]
    refine (keeps_rename ρ bound fun x looksUp => ?_).unaware body
    cases looksUp with
    | part member looksUp =>
      obtain rfl := List.mem_singleton.1 member
      exact agrees x looksUp
  names ρ b e body agrees := (keeps_rename ρ bound agrees).unaware body

end MeteredScript
