import MeteredScript.Proofs.Lifecycle.Growth
import MeteredScript.Proofs.Reraising.Handler

/-!
# Code whose faults are caught and raised again

A handler that raises again what it catches looks at nothing but faults, and what becomes of these
is up to the handler (`Passing`). So code with the handler around it does what the code does
(`Wraps`), whatever the code is: `except: raise` changes nothing (`Wraps.bare`), and
`except BaseException as e: raise e` leaves the binding of the name and an exception that was
raised (`Wraps.named`).

The code is a block that is run in one piece (`wraps_block`), or part of a generator body.
-/

namespace MeteredScript

open Coupling

variable {α : Type}

/-! ## Faults that are passed on -/

/-- **What handlers can catch of the results of some code**: the fault, and the result with another
fault in its place. -/
structure Catch (α : Type) where
  find : Except Stop α → Option (Fault × (Fault → Except Stop α))
  /-- The fault is in its place. -/
  back {r f again} : find r = some (f, again) → again f = r
  endless : find (.error .endless) = none

/-- **What a handler makes of a fault**: the fault that it stops with, and the machine. -/
abbrev Passing := Fault → Machine → Fault × Machine

namespace Passing

/-- The fault comes out as it is. -/
def bare : Passing := fun f n => (f, n)

/-- The fault is bound to a name and comes out as an exception that was raised. -/
def named (scope : ScopeId) (name : String) : Passing := fun f n =>
  (f.reraised, n.caught scope name f)

/-- What becomes of an outcome if a fault is passed on. -/
def outcome (pass : Passing) (c : Catch α) (o : Except Stop α × Machine) :
    Except Stop α × Machine :=
  match c.find o.1 with
  | some (f, again) => (again (pass f o.2).1, (pass f o.2).2)
  | none => o

/-- **Gas does not matter** to what becomes of faults. -/
structure Gasless (pass : Passing) : Prop where
  withGas (f : Fault) (n : Machine) (gas limit : Nat) :
    pass f (n.withGas gas limit) = ((pass f n).1, (pass f n).2.withGas gas limit)
  config (f : Fault) (n : Machine) : (pass f n).2.config = n.config

theorem gasless_bare : bare.Gasless := ⟨fun _ _ _ _ => rfl, fun _ _ => rfl⟩

theorem gasless_named (scope : ScopeId) (name : String) : (named scope name).Gasless :=
  ⟨fun _ _ _ _ => rfl, fun _ _ => rfl⟩

theorem outcome_bare (c : Catch α) (o : Except Stop α × Machine) : bare.outcome c o = o := by
  unfold outcome
  split
  next f again found => exact Prod.ext (c.back found) rfl
  next => rfl

variable {pass : Passing} {c : Catch α} {o o' : Except Stop α × Machine}

theorem Gasless.outcome (h : pass.Gasless) (same : SameButGas o o') :
    SameButGas (pass.outcome c o) (pass.outcome c o') := by
  obtain ⟨r, n⟩ := o
  obtain ⟨r', n'⟩ := o'
  obtain ⟨result, machine⟩ := same
  dsimp only at result machine
  subst result
  unfold Passing.outcome
  cases found : c.find r' with
  | none => exact ⟨rfl, machine⟩
  | some p =>
    have ends : r' ≠ .error .endless := by
      rintro rfl
      rw [c.endless] at found
      cases found
    obtain ⟨gas, limit, rfl⟩ := machine ends
    dsimp only
    rw [h.withGas]
    exact ⟨rfl, fun _ => ⟨gas, limit, rfl⟩⟩

theorem Gasless.config_outcome (h : pass.Gasless) : (pass.outcome c o).2.config = o.2.config := by
  unfold Passing.outcome
  split
  · exact h.config _ _
  · rfl

end Passing

variable {m n : Machine} {scope : ScopeId} {bound : Nat} {body : Block} {handler : Handler}
  {pass : Passing} {c : Catch α} {x y : Eval α}

/-- **A handler passes a fault on** in some way, where gas does not matter. -/
def Handler.Passes (handler : Handler) (bound : Nat) (scope : ScopeId) (pass : Passing) (f : Fault)
    (n : Machine) : Prop :=
  ∀ gas, ∃ gas', (handleFault (.bounded bound) scope [handler] f).on { n with gas } =
    (.error (.fault (pass f n).1), { (pass f n).2 with gas := gas' })

theorem passes_bare (hu : n.Unmetered) (f : Fault) :
    Handler.bare.Passes (bound + 1) scope .bare f n := fun gas =>
  ⟨_, on_handleFault_bare (m := { n with gas }) hu f⟩

theorem passes_named (hu : n.Unmetered) (names : n.NamesBase scope)
    (inside : scope.index < n.scopes.scopes.size) (name : String) (f : Fault) :
    (Handler.named name).Passes (bound + 2) scope (.named scope name) f n := fun gas =>
  on_handleFault_named (m := { n with gas }) hu (names.congr rfl) inside name f

/-! ## Code with a handler around it -/

/-- **The second code is the first one with a handler around it**: where gas does not matter it does
the same but for the faults, if the handler passes them on. -/
structure Wraps (c : Catch α) (handler : Handler) (bound : Nat) (scope : ScopeId) (x y : Eval α) :
    Prop where
  /-- Gas and the number of scopes are kept track of as in all code. -/
  gas : (upToGas False False).Sim x x
  gas_around : (upToGas False False).Sim y y
  size : (keeping Peopled).Sim x x
  around {m : Machine} {pass : Passing} (hu : m.Unmetered)
    (passes : ∀ n f again, n.Unmetered → (x.on m).2 = n → c.find (x.on m).1 = some (f, again) →
      handler.Passes bound scope pass f n) : SameButGas (pass.outcome c (x.on m)) (y.on m)

namespace Wraps

/-- **A handler that passes faults on changes nothing else**, as long as gas does not run out. -/
theorem passed (h : Wraps c handler bound scope x y) (gasless : pass.Gasless)
    (passes : ∀ f again, (x.on m.unmetered).2.Unmetered →
      c.find (x.on m.unmetered).1 = some (f, again) →
      handler.Passes bound scope pass f (x.on m.unmetered).2)
    (direct : ¬ (x.on m).2.Spent) (again : ¬ (y.on m).2.Spent) :
    SameUpToGas (pass.outcome c (x.on m)) (y.on m) := by
  have hsame := SameButGas.of_unmetered h.gas h.gas_around gasless.outcome
    (h.around m.unmetered_unmetered fun n f again hn hx found => by
      subst hx
      exact passes f again hn found) direct again
  refine hsame.exact ((h.gas_around.left upToGas_lenient m).1.trans ?_)
  rw [gasless.config_outcome]
  exact (h.gas.left upToGas_lenient m).1.symm

/-- **`except: raise` changes nothing**, as long as gas does not run out. -/
theorem bare (h : Wraps c .bare (bound + 1) scope x y) (direct : ¬ (x.on m).2.Spent)
    (again : ¬ (y.on m).2.Spent) : SameUpToGas (x.on m) (y.on m) := by
  rw [← Passing.outcome_bare c (x.on m)]
  exact h.passed Passing.gasless_bare (fun f _ hn _ => passes_bare hn f) direct again

/-- **`except BaseException as e: raise e` raises each fault again**, as long as gas does not run
out and `BaseException` means the class of all exceptions where there is a fault. -/
theorem named {name : String} (h : Wraps c (.named name) (bound + 2) scope x y)
    (inside : scope.index < m.scopes.scopes.size)
    (names : (c.find (x.on m).1).isSome → (x.on m).2.NamesBase scope)
    (direct : ¬ (x.on m).2.Spent) (again : ¬ (y.on m).2.Spent) :
    SameUpToGas ((Passing.named scope name).outcome c (x.on m)) (y.on m) := by
  refine h.passed (Passing.gasless_named scope name) (fun f put hn found => ?_) direct again
  have ends : (x.on m.unmetered).1 ≠ .error .endless := by
    intro ends
    rw [ends, c.endless] at found
    cases found
  -- what is found without a limit on gas is what is found with one
  have hsame := h.gas.sameButGas_unmetered direct
  obtain ⟨gas, limit, hmachine⟩ := hsame.2 (by rwa [← hsame.1])
  have hnamed : (x.on m.unmetered).2.NamesBase scope :=
    (names (by rw [← hsame.1, found]; rfl)).congr (by rw [hmachine]; rfl)
  exact passes_named hn hnamed
    (Nat.lt_of_lt_of_le inside (size_le_of_sim h.size (m := m.unmetered) rfl ends)) name f

end Wraps

/-! ## Blocks -/

/-- **A block with a handler around it**, and nothing else. -/
def Handler.around (handler : Handler) (body : Block) : Stmt :=
  StmtForm.synthetic (.attempt body [handler] none none)

/-- A block may stop with a fault. -/
def Catch.block : Catch Unit where
  find
    | .error (.fault f) => some (f, fun f => .error (.fault f))
    | _ => none
  back {r f again} found := by
    split at found
    · cases found
      rfl
    · cases found
  endless := rfl

theorem execStmt_around (ev : Evaluator) :
    execStmt ev (handler.around body) scope = Eval.tick >>= fun _ =>
      Eval.attempt (ev.execBlock scope body) >>= fun r => match r with
        | .error (.fault f) => handleFault ev scope [handler] f
        | r => Eval.ofStop r := by
  show (Eval.tick >>= fun _ => Eval.attempt (runGuarded ev scope body [handler] none) >>=
    Eval.ofStop) = _
  rw [attempt_bind_ofStop, runGuarded]
  refine bind_congr fun _ => bind_congr fun r => ?_
  cases r with
  | ok _ => rfl
  | error s => cases s <;> rfl

theorem wraps_block (handler : Handler) (bound : Nat) (scope : ScopeId) (body : Block) :
    Wraps .block handler bound scope ((Evaluator.bounded bound).execBlock scope body)
      ((Evaluator.bounded (bound + 1)).exec (handler.around body) scope) := by
  have hgas : (upToGas False False).Sim ((Evaluator.bounded bound).execBlock scope body)
      ((Evaluator.bounded bound).execBlock scope body) :=
    (couples_self bound).execBlock (upToGas_shows _)
  refine ⟨hgas, (couples_self _).exec (upToGas_shows _),
    (peopled_complete.bounded_self bound).execBlock (keeping_shows _), fun {m pass} hu passes => ?_⟩
  show SameButGas _ ((execStmt (.bounded bound) (handler.around body) scope).on m)
  rw [execStmt_around, Eval.on_bind_ok hu.on_tick]
  generalize min (m.gas + 1) Eval.gasCeiling = paid
  generalize hrun : ((Evaluator.bounded bound).execBlock scope body).on m = o at passes
  obtain ⟨r, n⟩ := o
  by_cases ends : r = .error .endless
  · subst ends
    have hend : (((Evaluator.bounded bound).execBlock scope body).on { m with gas := paid }).1 =
        .error .endless := (hgas.result_gas hu paid).trans (congrArg Prod.fst hrun)
    rw [Eval.on_bind_error (Eval.on_attempt_of_endless (Prod.ext hend rfl))]
    exact ⟨rfl, fun other => absurd rfl other⟩
  · obtain ⟨hn, gas, hrun'⟩ := hgas.gas hu hrun ends paid
    rw [Eval.on_bind_ok (Eval.on_attempt_of_ne hrun' ends)]
    match r with
    | .error (.fault f) =>
      obtain ⟨gas', hpassed⟩ := passes n f _ hn rfl rfl gas
      dsimp only
      rw [hpassed]
      exact ⟨rfl, fun _ => ⟨gas', _, rfl⟩⟩
    | .ok () | .error (.returns _) | .error .breaks | .error .continues | .error .gasExhausted
    | .error .endless => exact ⟨rfl, fun _ => ⟨gas, _, rfl⟩⟩

end MeteredScript
