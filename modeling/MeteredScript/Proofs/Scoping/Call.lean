import MeteredScript.Proofs.Representation.Invariant
import MeteredScript.Proofs.Scoping.Session

/-!
# Scopes are written by the code that runs in them

What other code can do to a scope is to set attributes of a class object that
leads to it, or to resume the generator it belongs to. `Evaluator.barring` is
an evaluator that sounds an alarm when something of the kind is about to
happen. As long as it does not, all that runs outside of the scope leaves the
bindings of the scope as they are (`bindings_barring`).

So a call leaves the scopes of its caller alone. An expression moreover never
changes the scope it is evaluated in, whatever it resumes and whatever classes
it changes (`keeping_asserting`): no class object leads to a scope in which
code still runs, and no generator that runs can be resumed.
-/

namespace MeteredScript

open Regime

variable {t : ScopeId} {b : Bindings} {led : Prop}

/-! ## The regime -/

/-- **The regime that spares a scope**, in which it keeps its bindings. Class
objects may lead to the scope or not, and if they do, their attributes are not
set. -/
def Regime.sparing (t : ScopeId) (b : Bindings) (led : Prop) : Regime where
  Stage := Unit
  World := Unit
  Grows _ _ := True
  named _ s := s = t → led
  Holds _ _ tree := t.index < tree.scopes.size ∧ tree.bindings t = b
  runs _ _ := True
  writes _ s := s ≠ t
  gives v := led → ∀ name, v ≠ .classObject name t
  wakes id := id.scope ≠ t
  grows_refl _ := trivial
  grows_trans _ _ := trivial
  named_mono _ h := h
  define name v other holds := by
    rw [ScopeTree.size_define, ScopeTree.bindings_define_of_ne _ _ _ other.symm]
    exact holds
  setAttribute {g w tree s className} name v named gives holds := by
    have other : t ≠ s := fun same => gives (named same.symm) className (by rw [same])
    rw [ScopeTree.size_define, ScopeTree.bindings_define_of_ne _ _ _ other]
    exact holds
  make {g w tree} kind parent body holds := by
    refine ⟨fun same => Nat.ne_of_gt holds.1 (congrArg ScopeId.index same), ?_⟩
    rw [ScopeTree.size_addScope, ScopeTree.bindings_addScope]
    exact ⟨Nat.lt_succ_of_lt holds.1, holds.2⟩
  enter {g w tree} kind parent holds := by
    have other : (tree.addScope kind parent none).1 ≠ t :=
      fun same => Nat.ne_of_gt holds.1 (congrArg ScopeId.index same)
    refine ⟨(), trivial, other, ?_, fun _ _ _ holds' =>
      ⟨holds', (), trivial, fun same => absurd same other, holds'⟩⟩
    rw [ScopeTree.size_addScope, ScopeTree.bindings_addScope]
    exact ⟨Nat.lt_succ_of_lt holds.1, holds.2⟩
  wake {g w tree id state} other holds _ _ := by
    refine ⟨(), (), trivial, trivial, other, ?_, fun _ tree' _ _ holds' _ => ?_⟩
    all_goals
      rw [ScopeTree.size_setGenerator, ScopeTree.bindings_setGenerator]
      assumption
  complete holds _ _ := by
    refine ⟨(), trivial, holds, fun _ tree' _ _ holds' => ?_⟩
    rw [ScopeTree.size_setGenerator, ScopeTree.bindings_setGenerator]
    exact holds'

/-! ## Evaluators that bar a scope -/

open Classical in
/-- Sound an alarm if one of certain expressions gives a class object that leads
to a scope. -/
noncomputable def Evaluator.alert (ev : Evaluator) (t : ScopeId) (alarm : Eval Value)
    (objects : Expr → Prop) : Evaluator :=
  { ev with
    eval := fun e s => do
      let v ← ev.eval e s
      if objects e ∧ ∃ name, v = .classObject name t then alarm else return v }

/-- **An evaluator that bars a scope.** It sounds an alarm instead of resuming
the generator of the scope. If class objects may lead to the scope, it also
does so when the object of an attribute target turns out to be one of them. -/
noncomputable def Evaluator.barring (t : ScopeId) (led : Prop) (alarm : Eval Value) :
    (bound : Nat) → Evaluator
  | 0 => .idle
  | bound + 1 =>
    { eval := fun e s =>
        let ev := (barring t led alarm bound).alert t alarm fun o => led ∧ o ∈ e.clauseObjects
        evalExpr ev e s
      exec := fun st s =>
        let ev := (barring t led alarm bound).alert t alarm fun o =>
          led ∧ o ∈ st.form.attributeObjects
        execStmt ev st s
      resume := fun id r => do
        if id.scope = t then alarm
        else
          let state ← Eval.generatorState id
          let ev := (barring t led alarm bound).alert t alarm fun o =>
            led ∧ o ∈ state.drivenObjects
          resumeFrom ev id state r
      rounds := (barring t led alarm bound).rounds + 1 }

section Barring

variable {ev : Evaluator}

/-- An alert evaluator does not go on with a class object that leads to the
scope. -/
theorem keeping_alert (h : (sparing t b led).Keeping (fun _ => ¬ led) ev ev)
    (objects : Expr → Prop) :
    (sparing t b led).Keeping (fun o => led → objects o)
      (ev.alert t (throw .endless) fun o => led ∧ objects o)
      (ev.alert t (throw .endless) fun o => led ∧ objects o) where
  eval runs := by
    refine (h.eval runs).bind fun _ v _ hv => ?_
    split
    · exact .throw within_endless
    · exact .pure hv
  gives {e} s known := by
    refine .bind fun v => ?_
    split
    · exact .throw _
    · rename_i silent
      exact .pure fun led name same => silent ⟨⟨led, known led⟩, name, same⟩
  exec := h.exec
  resume := h.resume
  close := h.close
  rounds := rfl

theorem refuses_barring (n : Nat) : Refuses (.barring t led (throw .endless) n) := by
  intro m id r running
  cases n with
  | zero => exact .inl rfl
  | succ n =>
    by_cases own : id.scope = t
    · refine .inl ?_
      show (if id.scope = t then _ else _) = _
      rw [if_pos own]
    · refine .inr ?_
      show (if id.scope = t then _ else _ : Eval Value).on m = _
      rw [if_neg own, Eval.on_bind_ok (on_generatorState id m), running]
      cases r <;> rfl

/-- **Whatever runs outside of a scope that is barred** leaves its bindings as
they are. -/
theorem keeping_barring (n : Nat) :
    (sparing t b led).Keeping (fun _ => ¬ led) (.barring t led (throw .endless) n)
      (.barring t led (throw .endless) n) := by
  induction n with
  | zero => exact keeping_idle
  | succ n ih =>
    have resumed {g : Unit} {w : Unit} (id : GeneratorId) {r : Resume}
        (hr : Within ((sparing t b led).named w) r) :
        (sparing t b led).Keeps g w
          ((Evaluator.barring t led (throw .endless) (n + 1)).resume id r)
          ((Evaluator.barring t led (throw .endless) (n + 1)).resume id r) := by
      show (sparing t b led).Keeps g w (if id.scope = t then _ else _)
        (if id.scope = t then _ else _)
      split
      · exact .throw within_endless
      · rename_i other
        intro w₁ m hw inv
        rw [Eval.on_bind_ok (on_generatorState id m),
          Eval.on_bind_ok (on_generatorState id (Regime.cover _ m)), generator_cover]
        exact (keeping_alert ih _).alike_resumeFrom other inv (fun o ho _ => ho) (hr.grow hw)
    exact {
      eval := fun runs => (keeping_alert ih _).evalExpr runs fun o ho _ => ho
      gives := fun _ unled _ _ _ _ led => absurd led unled
      exec := fun runs writes => (keeping_alert ih _).execStmt runs writes fun o ho _ => ho
      resume := resumed
      close := fun id => .closeGenerator (refuses_barring (n + 1)) fun hr => resumed id hr
      rounds := rfl }

end Barring

/-! ## Frames of tasks -/

/-- **A task that runs outside of a scope.** Its values lead to the scope only if
anything may. -/
def Task.Outside (t : ScopeId) (led : Prop) : Task → Prop
  | .eval _ _ | .close _ => True
  | .exec _ s | .block _ s | .script _ s => s ≠ t
  | .call _ arguments | .method _ _ arguments => Within (fun s => s = t → led) arguments
  | .assign target v s => s ≠ t ∧ Within (fun s => s = t → led) v ∧
    ∀ o ∈ target.attributeObjects, ¬ led
  | .drain v => Within (fun s => s = t → led) v
  | .resume _ r => Within (fun s => s = t → led) r

theorem Task.Outside.allows {task : Task} (outside : task.Outside t led) :
    (sparing t b led).Allows (fun _ => ¬ led) () () task := by
  cases task with
  | eval | close => trivial
  | exec | block | script => exact ⟨trivial, outside⟩
  | call | method | drain | resume => exact outside
  | assign => exact ⟨trivial, outside⟩

variable {bound : Nat} {m : Machine} {task : Task}

/-- **A task outside of a scope** leaves its bindings as they are, unless an
evaluator that bars the scope would sound its alarm. -/
theorem bindings_barring (upheld : m.Upheld fun s => s = t → led)
    (inside : t.index < m.scopes.scopes.size) (outside : task.Outside t led)
    (silent : ∀ alarm, (task.run (.barring t led alarm bound)).on m =
      (task.run (.bounded bound)).on m)
    (ends : ((task.run (.bounded bound)).on m).1 ≠ .error .endless) :
    ((task.run (.bounded bound)).on m).2.scopes.bindings t = m.scopes.bindings t := by
  have inv : (sparing t (m.scopes.bindings t) led).Inv () () m := ⟨upheld, inside, rfl⟩
  have kept := (keeping_barring bound).task outside.allows () m trivial inv
  rw [silent (throw .endless)] at kept
  rcases kept with ⟨endless, -⟩ | ⟨-, -, after⟩
  · exact absurd endless ends
  · obtain ⟨_, _, inv', _⟩ := after
    exact inv'.holds.2

namespace Session

variable {s : Session}

/-- **What a task does to an orderly session.** -/
theorem Orderly.after (orderly : s.Orderly) (accepts : s.Accepts task)
    (ends : ((task.run (.bounded bound)).on s.machine).1 ≠ .error .endless) :
    Orderly ⟨((task.run (.bounded bound)).on s.machine).2, s.globals⟩ ∧
      Within (classes ⟨((task.run (.bounded bound)).on s.machine).2, s.globals⟩)
        ((task.run (.bounded bound)).on s.machine).1 := by
  have kept := (free_executing.bounded bound).task accepts.allows s.purposes s.machine
    (executing.grows_refl _) orderly.inv
  rcases kept with ⟨endless, -⟩ | ⟨-, -, after⟩
  · exact absurd endless ends
  · obtain ⟨w, _, inv, hr⟩ := after
    exact ⟨orderly_of_inv inv, hr.mono fun _ => classes_of_inv inv⟩

/-- A task that runs no statement in the module does not change its bindings. -/
theorem Orderly.bindings (orderly : s.Orderly) (accepts : s.Accepts task)
    (outside : task.Outside s.globals True)
    (ends : ((task.run (.bounded bound)).on s.machine).1 ≠ .error .endless) :
    ((task.run (.bounded bound)).on s.machine).2.scopes.bindings s.globals =
      s.machine.scopes.bindings s.globals := by
  have inv := orderly.inv
  have keeping : executing.Inv (s.stage.keep s.globals (s.machine.scopes.bindings s.globals))
      s.purposes s.machine :=
    inv.move (executing.grows_refl _) (inv.holds.keep (.inl rfl))
  have allowed : executing.Allows (fun _ => True)
      (s.stage.keep s.globals (s.machine.scopes.bindings s.globals)) s.purposes task := by
    cases task with
    | eval e scope => exact .inl accepts
    | exec | block | script => exact absurd accepts outside
    | call | method | drain | resume => exact accepts
    | assign => exact absurd accepts.1 outside.1
    | close => trivial
  rcases (free_executing.bounded bound).task allowed s.purposes s.machine
    (executing.grows_refl _) keeping with ⟨endless, -⟩ | ⟨-, -, after⟩
  · exact absurd endless ends
  · obtain ⟨_, _, inv', _⟩ := after
    exact (inv'.holds.kept (.inl ⟨rfl, rfl⟩)).2

end Session

/-- **Who writes to which scopes**, in all that evaluation can be asked to do. -/
structure ScopeOwnership (bound : Nat) : Prop where
  /-- No expression changes the scope it is evaluated in. To compare the bindings
  before and after each evaluation that is part of an operation makes no
  difference. -/
  expressions {s : Session} {task : Task} (alarm : Eval Value) : s.Honest → s.Accepts task →
    ((task.run (.asserting alarm bound)).on s.machine).1 =
      ((task.run (.bounded bound)).on s.machine).1 ∧
    (((task.run (.bounded bound)).on s.machine).1 ≠ .error .endless →
      (task.run (.asserting alarm bound)).on s.machine =
        (task.run (.bounded bound)).on s.machine)
  /-- In particular the bindings of the module are the same after a host has
  evaluated, called or resumed something. -/
  module {s : Session} {task : Task} : s.Honest → s.Accepts task →
    task.Outside s.globals True →
    ((task.run (.bounded bound)).on s.machine).1 ≠ .error .endless →
    ((task.run (.bounded bound)).on s.machine).2.scopes.bindings s.globals =
      s.machine.scopes.bindings s.globals
  /-- A host that hands back what it was given stays within those limits. -/
  given {s : Session} {task : Task} : s.Honest → s.Accepts task →
    ((task.run (.bounded bound)).on s.machine).1 ≠ .error .endless →
    Within (Session.classes ⟨((task.run (.bounded bound)).on s.machine).2, s.globals⟩)
      ((task.run (.bounded bound)).on s.machine).1
  /-- A scope that no class object leads to keeps its bindings through everything
  that runs outside of it, unless the generator it belongs to is resumed. -/
  unnamed {m : Machine} {t : ScopeId} {task : Task} : m.Upheld (· ≠ t) →
    t.index < m.scopes.scopes.size → task.Outside t False →
    (∀ alarm, (task.run (.barring t False alarm bound)).on m =
      (task.run (.bounded bound)).on m) →
    ((task.run (.bounded bound)).on m).1 ≠ .error .endless →
    ((task.run (.bounded bound)).on m).2.scopes.bindings t = m.scopes.bindings t
  /-- Any scope at all does, unless the generator it belongs to is resumed or an
  attribute target has for its object a class object that leads to it. -/
  outside {m : Machine} {t : ScopeId} {task : Task} : m.heap.Sound →
    t.index < m.scopes.scopes.size → task.Outside t True →
    (∀ alarm, (task.run (.barring t True alarm bound)).on m =
      (task.run (.bounded bound)).on m) →
    ((task.run (.bounded bound)).on m).1 ≠ .error .endless →
    ((task.run (.bounded bound)).on m).2.scopes.bindings t = m.scopes.bindings t

/-- **Scopes are written only by the code that runs in them.** -/
theorem scopes_are_written_by_their_own_code (bound : Nat) : ScopeOwnership bound where
  expressions {s task} alarm honest accepts := by
    have same := (keeping_asserting alarm bound).task accepts.allows s.purposes s.machine
      (executing.grows_refl _) honest.orderly.inv
    refine ⟨same.fst_eq, fun ends => ?_⟩
    rcases same with ⟨endless, -⟩ | ⟨same, -⟩
    · exact absurd endless ends
    · exact same
  module honest accepts outside ends := honest.orderly.bindings accepts outside ends
  given honest accepts ends := (honest.orderly.after accepts ends).2
  unnamed upheld inside outside silent ends := by
    exact bindings_barring (by simpa only [imp_false, ne_eq] using upheld) inside outside silent
      ends
  outside {m t task} sound inside outside silent ends := by
    have upheld : m.Upheld fun _ => True := (inv_lax.2 sound).upheld
    exact bindings_barring (by simpa only [implies_true] using upheld) inside outside silent ends

end MeteredScript
