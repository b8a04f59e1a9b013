import MeteredScript.Proofs.Scoping.Executing

/-!
# Sessions and their class objects

A host talks to a session in values, and a value could be a class object that no
script made, for the scope of the module or of a generator. Nobody gets such an
object out of a session. `Session.Honest` is a session of a host that passes
none in, and there the regime of `Executing` holds between operations, with the
module as the only scope in which code runs.
-/

namespace MeteredScript

open Regime

namespace Session

variable {s s' : Session}

/-- **The scopes that class objects may lead to**: those of no generator, and not
that of the module. -/
def classes (s : Session) (t : ScopeId) : Prop :=
  t.index < s.machine.scopes.scopes.size ∧ s.machine.scopes.generator? t = none ∧ t ≠ s.globals

/-- **A session of a host that makes up no class objects.** -/
inductive Honest : Session → Prop
  | start (config : Config) : Honest (start config)
  | run {s : Session} (body : Block) : s.Honest → (s.run body).1 ≠ .error .endless →
    Honest (s.run body).2
  | call {s : Session} (name : String) {arguments : List Value} : s.Honest →
    Within s.classes arguments → (s.call name arguments).1 ≠ .error .endless →
    Honest (s.call name arguments).2
  | send {s : Session} (id : GeneratorId) {v : Value} : s.Honest → Within s.classes v →
    (s.send id v).1 ≠ .error .endless → Honest (s.send id v).2
  | throw {s : Session} (id : GeneratorId) {e : Exception} : s.Honest → Within s.classes e →
    (s.throw id e).1 ≠ .error .endless → Honest (s.throw id e).2
  | close {s : Session} (id : GeneratorId) : s.Honest → (s.close id).1 ≠ .error .endless →
    Honest (s.close id).2
  | define {s : Session} (name : String) {v : Value} : s.Honest → Within s.classes v →
    Honest (s.define name v)
  | clearOutput {s : Session} : s.Honest → Honest s.clearOutput
  | evaluate {s : Session} (body : Block) : s.Honest →
    (evaluate s body).1 ≠ .error .endless → Honest (evaluate s body).2

/-- **What such a host may ask for**: to run code in the module, and values of
the same kind. -/
def Accepts (s : Session) : Task → Prop
  | .eval _ scope | .exec _ scope | .block _ scope | .script _ scope => scope = s.globals
  | .call _ arguments | .method _ _ arguments => Within s.classes arguments
  | .assign _ v scope => scope = s.globals ∧ Within s.classes v
  | .drain v => Within s.classes v
  | .resume _ r => Within s.classes r
  | .close _ => True

/-! ## Between operations -/

/-- What is run by a host: code in the module. -/
def stage (s : Session) : Executing where
  calls t := t = s.globals
  bodies _ := False
  kept _ _ := False

/-- What scopes are for as far as a host can tell. -/
def purposes (s : Session) : Purposes where
  namespaces := s.classes
  generators t := ∃ state, s.machine.scopes.generator? t = some state

/-- **Between two operations**, the module is there and class objects lead to
other scopes. -/
structure Orderly (s : Session) : Prop where
  upheld : s.machine.Upheld s.classes
  inside : s.globals.index < s.machine.scopes.scopes.size
  module : s.machine.scopes.generator? s.globals = none

theorem Orderly.inv (orderly : s.Orderly) : Regime.executing.Inv s.stage s.purposes s.machine where
  upheld := orderly.upheld
  holds := {
    namespaces := fun ⟨inside, unowned, other⟩ => ⟨inside, unowned, fun active => other <|
      active.elim id False.elim⟩
    generators := id
    calls := fun same => same ▸ ⟨orderly.inside, orderly.module⟩
    bodies := False.elim
    kept := False.elim }

/-- The invariant leaves no more room for class objects than that. -/
theorem classes_of_inv {w : Purposes} (inv : Regime.executing.Inv s.stage w s.machine)
    {t : ScopeId} (named : w.namespaces t) : s.classes t := by
  obtain ⟨inside, unowned, inactive⟩ := inv.holds.namespaces named
  exact ⟨inside, unowned, fun same => inactive (.inl same)⟩

theorem orderly_of_inv {w : Purposes} (inv : Regime.executing.Inv s.stage w s.machine) :
    s.Orderly := by
  have within {t : ScopeId} : w.namespaces t → s.classes t := classes_of_inv inv
  obtain ⟨inside, module⟩ := inv.holds.calls rfl
  exact ⟨inv.upheld.mono fun _ => within, inside, module⟩

/-- What a host may ask for keeps the regime. -/
theorem Accepts.allows {task : Task} (accepts : s.Accepts task) :
    Regime.executing.Allows (fun _ => True) s.stage s.purposes task := by
  have free (b : Bindings) : ¬ s.stage.kept s.globals b := False.elim
  cases task with
  | eval e scope => exact .inl accepts
  | exec | block | script =>
    cases accepts
    exact ⟨.inl rfl, free⟩
  | call | method | drain | resume => exact accepts
  | assign target v scope =>
    obtain ⟨rfl, hv⟩ := accepts
    exact ⟨.inl rfl, free, hv, fun _ _ => trivial⟩
  | close => trivial

/-- An operation of a host is followed by an orderly session. -/
theorem orderly_perform (orderly : s.Orderly) {α : Type} [Holder α] {x : Evaluator → Eval α}
    (keeps : ∀ {ev}, Regime.executing.Keeping (fun _ => True) ev ev →
      Regime.executing.Keeps s.stage s.purposes (x ev) (x ev))
    (ends : (s.perform (.boundedly x)).1 ≠ .error .endless) :
    (s.perform (.boundedly x)).2.Orderly := by
  obtain ⟨w, _, inv, _⟩ := after_perform orderly.inv
    (fun n => keeps (free_executing.bounded n)) ends
  exact orderly_of_inv inv

theorem orderly_run (orderly : s.Orderly) (body : Block)
    (ends : (s.run body).1 ≠ .error .endless) : (s.run body).2.Orderly :=
  orderly_perform orderly
    (fun keeping => keeping.execModule (.inl rfl) (fun _ => False.elim) body within_none) ends

/-- A new session holds nothing. -/
theorem orderly_start (config : Config) : (start config).Orderly := by
  have only {t : ScopeId} {name : String} {v : Value}
      (found : (start config).machine.scopes.findLocal? t name = some v) : False := by
    rw [start, ScopeTree.findLocal?, ScopeTree.bindings_addScope] at found
    cases found
  have unowned (t : ScopeId) : (start config).machine.scopes.generator? t = none := by
    by_cases new : t.index = 0
    · simp [start, Machine.initial, ScopeTree.empty, ScopeTree.addScope, ScopeTree.generator?,
        ScopeTree.scope?, new]
    · exact ScopeTree.generator?_of_size_le _ _ (Nat.one_le_iff_ne_zero.2 new)
  refine ⟨⟨⟨⟨fun _ => .empty, fun _ => .empty⟩, within_heap.2 ⟨?_, ?_, ?_⟩⟩, ?_, ?_, within_nil⟩,
    Nat.zero_lt_one, unowned _⟩
  · exact fun _ => within_emptyArray
  · exact fun _ => within_emptyTable
  · exact fun _ => within_emptyTable
  · exact fun _ => within_functionRecord.2 within_nil
  · refine within_scopes.2 ⟨fun _ _ _ found => (only found).elim, fun id state found => ?_⟩
    rw [unowned id] at found
    cases found

/-- **Sessions of such a host are orderly.** -/
theorem Honest.orderly (honest : s.Honest) : s.Orderly := by
  induction honest with
  | start config => exact orderly_start config
  | run body _ ends ih => exact orderly_run ih body ends
  | @call s name arguments _ given ends ih =>
    unfold Session.call at ends ⊢
    cases bound : s.machine.scopes.findLocal? s.globals name with
    | none => exact ih
    | some callee =>
      rw [bound] at ends
      exact orderly_perform ih (fun keeping => keeping.callValue callee given) ends
  | send id _ given ends ih =>
    exact orderly_perform ih (fun keeping => keeping.resume id (within_send.2 given)) ends
  | throw id _ given ends ih =>
    exact orderly_perform ih (fun keeping => keeping.resume id (within_throw.2 given)) ends
  | close id _ ends ih => exact orderly_perform ih (fun keeping => keeping.close id) ends
  | @define s name v _ given ih =>
    have classes : (s.define name v).classes = s.classes := by
      funext t
      simp only [classes, Session.define, ScopeTree.size_define, ScopeTree.generator?_define]
    refine ⟨classes ▸ ⟨ih.upheld.heap, ih.upheld.function, ?_, ih.upheld.handling⟩, ?_, ?_⟩
    · exact ih.upheld.scopes.define s.globals name given
    · exact (ScopeTree.size_define _ _ _ _).symm ▸ ih.inside
    · exact (ScopeTree.generator?_define _ _ _ _ _).trans ih.module
  | clearOutput _ ih => exact ⟨⟨ih.upheld.heap, ih.upheld.function, ih.upheld.scopes,
      ih.upheld.handling⟩, ih.inside, ih.module⟩
  | @evaluate s body _ ends ih =>
    have fresh : Orderly ⟨s.machine.fresh .standard, s.globals⟩ :=
      ⟨⟨ih.upheld.heap, ih.upheld.function, ih.upheld.scopes, within_nil⟩, ih.inside, ih.module⟩
    exact orderly_run fresh body ends

end Session

end MeteredScript
