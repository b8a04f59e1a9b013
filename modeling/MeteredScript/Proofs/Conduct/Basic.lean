import MeteredScript.Proofs.Conduct.Placed
import MeteredScript.Proofs.Termination.Question

/-!
# Rules of conduct

A *conduct* is a rule about single runs: what every evaluation keeps of the machine, and what an
evaluation may stop for. An evaluation is governed by the rule (`Conduct.Governs`) if it keeps to
both on every machine. Statements stop for more than expressions do, namely for what they tell
the code around them, so what is said of them is a different thing (`Conduct.Stands`).

A rule may be about all code or only about code that is placed (`Conduct.strict`). A strict rule
keeps statements from stopping for a `break` or `continue` where there is no loop around them.

The combinators below are those that evaluations are written with. What has to be shown of a rule
is `Conduct.Lawful`, which asks about the primitives of a machine and no more.
-/

namespace MeteredScript

/-- **A rule** for the runs of code. -/
structure Conduct where
  /-- What a run is looked at relative to. -/
  World : Type
  /-- What a run keeps of the machine. -/
  Kept : World → Machine → Prop
  /-- What an expression, a call or a generator may stop for. -/
  Stops : Stop → Prop
  /-- Whether the rule is about placed code only. -/
  strict : Prop

/-- An end with a value of one kind, or with a stop of another. -/
def Ending {α : Type} (S : Stop → Prop) (P : α → Prop) : Except Stop α → Prop
  | .ok a => P a
  | .error s => S s

namespace Conduct

variable {α β : Type}

/-- **An evaluation keeps to a rule** and ends in a certain way. -/
def Runs (c : Conduct) (S : Stop → Prop) (P : α → Prop) (x : Eval α) : Prop :=
  ∀ w m, c.Kept w m → c.Kept w (x.on m).2 ∧ Ending S P (x.on m).1

/-- **An evaluation is governed** by a rule. -/
abbrev Governs (c : Conduct) (x : Eval α) : Prop := c.Runs c.Stops (fun _ => True) x

/-- What a statement may stop for that is in a loop or in none. -/
def Allows (c : Conduct) (inLoop : Bool) (s : Stop) : Prop := c.strict → s.placed inLoop = true

/-- **A statement keeps to a rule**, in a loop or in none. -/
abbrev Stands (c : Conduct) (inLoop : Bool) (x : Eval α) : Prop :=
  c.Runs (c.Allows inLoop) (fun _ => True) x

/-! ## Sequences -/

namespace Runs

variable {c : Conduct} {S S' : Stop → Prop} {P P' : α → Prop} {Q : β → Prop} {x : Eval α}
  {f : α → Eval β}

theorem mono (h : c.Runs S P x) (hS : ∀ s, S s → S' s) (hP : ∀ a, P a → P' a) :
    c.Runs S' P' x := by
  intro w m kept
  obtain ⟨kept', ends⟩ := h w m kept
  refine ⟨kept', ?_⟩
  generalize (x.on m).1 = r at ends ⊢
  cases r with
  | ok a => exact hP a ends
  | error s => exact hS s ends

theorem pure {a : α} (ha : P a) : c.Runs S P (Pure.pure a) := fun _ _ kept => ⟨kept, ha⟩

theorem throw {s : Stop} (hs : S s) : c.Runs S P (MonadExcept.throw s : Eval α) :=
  fun _ _ kept => ⟨kept, hs⟩

/-- What runs second runs on a machine that the first has kept. -/
theorem bind (hx : c.Runs S P x) (hf : ∀ a, P a → c.Runs S Q (f a)) : c.Runs S Q (x >>= f) := by
  intro w m kept
  have first := hx w m kept
  rw [Eval.on_bind]
  generalize x.on m = o at first ⊢
  obtain ⟨s | a, n⟩ := o
  · exact first
  · exact hf a first.2 w n first.1

theorem ite {p : Prop} [Decidable p] {y : Eval α} (hx : c.Runs S P x) (hy : c.Runs S P y) :
    c.Runs S P (if p then x else y) := by
  split
  · exact hx
  · exact hy

/-- Looking at the machine. -/
theorem read {g : Machine → α} (hx : ∀ m, x.on m = (.ok (g m), m))
    (hP : ∀ w m, c.Kept w m → P (g m)) : c.Runs S P x := by
  intro w m kept
  rw [hx]
  exact ⟨kept, hP w m kept⟩

/-- Changing the machine. -/
theorem change {g : Machine → α} {k : Machine → Machine} (hx : ∀ m, x.on m = (.ok (g m), k m))
    (hk : ∀ w m, c.Kept w m → c.Kept w (k m)) : c.Runs S (fun _ => True) x := by
  intro w m kept
  rw [hx]
  exact ⟨hk w m kept, trivial⟩

end Runs

namespace Governs

variable {c : Conduct} {x : Eval α} {f : α → Eval β}

theorem pure (a : α) : c.Governs (Pure.pure a) := Runs.pure trivial

theorem bind (hx : c.Governs x) (hf : ∀ a, c.Governs (f a)) : c.Governs (x >>= f) :=
  Runs.bind hx fun a _ => hf a

theorem map (f : α → β) (hx : c.Governs x) : c.Governs (f <$> x) := by
  rw [map_eq_pure_bind]
  exact hx.bind fun a => pure (f a)

theorem mapM {f : α → Eval β} (hf : ∀ a, c.Governs (f a)) (as : List α) :
    c.Governs (as.mapM f) := by
  induction as with
  | nil => exact pure []
  | cons a as ih =>
    rw [List.mapM_cons]
    exact (hf a).bind fun b => ih.bind fun bs => pure _

end Governs

namespace Stands

variable {c : Conduct} {inLoop : Bool} {x : Eval α} {f : α → Eval β}

theorem pure (a : α) : c.Stands inLoop (Pure.pure a) := Runs.pure trivial

theorem bind (hx : c.Stands inLoop x) (hf : ∀ a, c.Stands inLoop (f a)) :
    c.Stands inLoop (x >>= f) :=
  Runs.bind hx fun a _ => hf a

theorem map (f : α → β) (hx : c.Stands inLoop x) : c.Stands inLoop (f <$> x) := by
  rw [map_eq_pure_bind]
  exact hx.bind fun a => pure (f a)

end Stands

/-! ## What has to be shown of a rule -/

/-- **A rule that evaluation can keep to.** -/
structure Lawful (c : Conduct) : Prop where
  /-- It is about functions and scopes, and about whether the host ends. -/
  congr {w : c.World} {m n : Machine} : c.Kept w m → n.functions = m.functions →
    n.scopes = m.scopes → n.aborted = m.aborted → c.Kept w n
  kept_define {w : c.World} {m : Machine} (scope : ScopeId) (name : String) (v : Value) :
    c.Kept w m → c.Kept w { m with scopes := m.scopes.define scope name v }
  kept_addScope {w : c.World} {m : Machine} (kind : ScopeKind) (parent : Option ScopeId)
    {state : Option GeneratorState} : (c.strict → ∀ s ∈ state, s.placed = true) → c.Kept w m →
    c.Kept w { m with scopes := (m.scopes.addScope kind parent state).2 }
  kept_setGenerator {w : c.World} {m : Machine} (id : ScopeId) {state : GeneratorState} :
    (c.strict → state.placed = true) → c.Kept w m →
    c.Kept w { m with scopes := m.scopes.setGenerator id state }
  kept_newFunction {w : c.World} {m : Machine} {f : Function} :
    (c.strict → f.body.placed = true) → c.Kept w m →
    c.Kept w { m with functions := m.functions.push f }
  /-- A strict rule keeps the code of the machine placed. -/
  placed {w : c.World} {m : Machine} : c.strict → c.Kept w m → m.Placed
  /-- What may come out of the body of a function is all that a rule is about. -/
  stops {s : Stop} : (∀ v, s ≠ .returns v) → c.Allows false s → c.Stops s
  /-- A strict rule does not let a `break` or `continue` go. -/
  stays {s : Stop} : c.Stops s → c.Allows false s

namespace Lawful

variable {c : Conduct} (law : c.Lawful)

include law

theorem stops_fault (f : Fault) : c.Stops (.fault f) := law.stops nofun fun _ => rfl

theorem stops_gasExhausted : c.Stops .gasExhausted := law.stops nofun fun _ => rfl

theorem stops_endless : c.Stops .endless := law.stops nofun fun _ => rfl

theorem allows_of_stops (inLoop : Bool) {s : Stop} (hs : c.Stops s) : c.Allows inLoop s :=
  fun strict => Stop.placed_of_false (law.stays hs strict) inLoop

/-- What is governed stands anywhere. -/
theorem stands {P : α → Prop} {x : Eval α} (hx : c.Runs c.Stops P x) (inLoop : Bool) :
    c.Runs (c.Allows inLoop) P x :=
  hx.mono (fun _ => law.allows_of_stops inLoop) fun _ => id

/-- A statement begins with something that is governed. -/
theorem before {P : α → Prop} {Q : β → Prop} {inLoop : Bool} {x : Eval α} {f : α → Eval β}
    (hx : c.Runs c.Stops P x) (hf : ∀ a, P a → c.Runs (c.Allows inLoop) Q (f a)) :
    c.Runs (c.Allows inLoop) Q (x >>= f) :=
  (law.stands hx inLoop).bind hf

/-! ## Answers -/

theorem fail (f : Fault) : c.Governs (Eval.fail f : Eval α) := .throw (law.stops_fault f)

theorem require (p : Prop) [Decidable p] (f : Fault) : c.Governs (Eval.require p f) :=
  .ite (Governs.pure ()) (law.fail f)

omit law in
theorem ofStop {S : Stop → Prop} {P : α → Prop} {r : Except Stop α} (hr : Ending S P r) :
    c.Runs S P (Eval.ofStop r) := by
  cases r with
  | ok a => exact .pure hr
  | error s => exact .throw hr

theorem ofTypeFault (r : Except TypeFault α) : c.Governs (Eval.ofTypeFault r) := by
  cases r with
  | ok a => exact .pure a
  | error why => exact law.fail _

theorem ofFault (r : Except Fault α) : c.Governs (Eval.ofFault r) := by
  cases r with
  | ok a => exact .pure a
  | error f => exact law.fail f

theorem ofAnswer (a : Option α) : c.Governs (Eval.ofAnswer a) := by
  cases a with
  | some a => exact .pure a
  | none => exact .throw law.stops_endless

omit law in
theorem heap : c.Governs Eval.heap := .read (fun _ => rfl) fun _ _ _ => trivial

/-- A question that is put to the values on the machine. -/
theorem ask {r : Heap → Except Stop α} (hr : ∀ h : Heap, h.Explains (r h)) :
    c.Governs (do Eval.ofStop (r (← Eval.heap))) := by
  refine Governs.bind heap fun h => ofStop ?_
  cases fails : r h with
  | ok a => trivial
  | error s =>
    rcases hr h s fails with ⟨f, rfl⟩ | ⟨rfl, -⟩
    · exact law.stops_fault f
    · exact law.stops_endless

theorem repr (v : Value) : c.Governs (Eval.repr v) := heap.bind fun _ => law.ofAnswer _

theorem text (v : Value) : c.Governs (Eval.text v) := heap.bind fun _ => law.ofAnswer _

omit law in
theorem isTruthy (v : Value) : c.Governs (Eval.isTruthy v) := heap.bind fun _ => .pure _

/-! ## Primitives -/

/-- What neither functions nor scopes are changed by. -/
theorem aside {x : Eval α} {g : Machine → α} {k : Machine → Machine}
    (hx : ∀ m, x.on m = (.ok (g m), k m)) (functions : ∀ m, (k m).functions = m.functions)
    (scopes : ∀ m, (k m).scopes = m.scopes) (aborted : ∀ m, (k m).aborted = m.aborted) :
    c.Governs x :=
  .change hx fun _ m kept => law.congr kept (functions m) (scopes m) (aborted m)

theorem modifyHeap (f : Heap → Heap) : c.Governs (Eval.modifyHeap f) :=
  law.aside (fun _ => rfl) (fun _ => rfl) (fun _ => rfl) fun _ => rfl

theorem place (r : Fresh) : c.Governs (Eval.place r) :=
  law.aside (fun _ => rfl) (fun _ => rfl) (fun _ => rfl) fun _ => rfl

theorem newException (e : Exception) : c.Governs (Eval.newException e) :=
  law.aside (fun _ => rfl) (fun _ => rfl) (fun _ => rfl) fun _ => rfl

theorem newSerial : c.Governs Eval.newSerial :=
  law.aside (fun _ => rfl) (fun _ => rfl) (fun _ => rfl) fun _ => rfl

theorem print (line : String) : c.Governs (Eval.print line) :=
  law.aside (fun _ => rfl) (fun _ => rfl) (fun _ => rfl) fun _ => rfl

theorem pushHandling (f : Fault) : c.Governs (Eval.pushHandling f) :=
  law.aside (fun _ => rfl) (fun _ => rfl) (fun _ => rfl) fun _ => rfl

theorem popHandling : c.Governs Eval.popHandling :=
  law.aside (fun _ => rfl) (fun _ => rfl) (fun _ => rfl) fun _ => rfl

theorem charge (amount : Nat) : c.Governs (Eval.charge amount) := by
  intro w m kept
  rw [Eval.on_charge]
  refine ⟨law.congr kept rfl rfl rfl, ?_⟩
  split
  · exact law.stops_gasExhausted
  · trivial

theorem define (scope : ScopeId) (name : String) (v : Value) :
    c.Governs (Eval.define scope name v) :=
  .change (fun _ => rfl) fun _ _ => law.kept_define scope name v

theorem newScope (kind : ScopeKind) (parent : Option ScopeId) :
    c.Governs (Eval.newScope kind parent) :=
  .change (fun _ => rfl) fun _ _ => law.kept_addScope kind parent nofun

theorem newFunction (name : String) {f : Function} (placed : c.strict → f.body.placed = true) :
    c.Governs (Eval.newFunction name f) :=
  .change (fun _ => rfl) fun _ _ => law.kept_newFunction placed

theorem newGenerator (kind : ScopeKind) (parent : ScopeId) {body : Block}
    (placed : c.strict → blockPlaced false body = true) :
    c.Governs (Eval.newGenerator kind parent body) := by
  refine .change (fun _ => rfl) fun _ _ => law.kept_addScope kind (some parent) ?_
  rintro strict _ ⟨⟩
  exact placed strict

theorem setGeneratorState (id : GeneratorId) {state : GeneratorState}
    (placed : c.strict → state.placed = true) : c.Governs (Eval.setGeneratorState id state) :=
  .change (fun _ => rfl) fun _ _ => law.kept_setGenerator id.scope placed

/-- A function that the machine has is placed code. -/
theorem function (id : FunctionId) :
    c.Runs c.Stops (fun f => c.strict → f.body.placed = true) (Eval.function id) :=
  .read (fun _ => rfl) fun _ _ kept strict => (law.placed strict kept).function id

/-- So is what a generator has left to do. -/
theorem generatorState (id : GeneratorId) :
    c.Runs c.Stops (fun state => c.strict → state.placed = true) (Eval.generatorState id) :=
  .read (fun _ => rfl) fun _ _ kept strict => (law.placed strict kept).state id

/-! ## Brackets -/

section Brackets

variable {S : Stop → Prop} {P : α → Prop} {x : Eval α} (hx : c.Runs S P x)

include hx

/-- An outcome that someone looks at. -/
theorem leaving {w : c.World} {m : Machine} (kept : c.Kept w m) {T : Stop → Prop}
    {Q : β → Prop} {wrap : Except Stop α → Except Stop β} {tidy : Machine → Machine}
    (functions : ∀ m, (tidy m).functions = m.functions) (scopes : ∀ m, (tidy m).scopes = m.scopes)
    (aborted : ∀ m, (tidy m).aborted = m.aborted) (endless : T .endless)
    (wrapped : ∀ r, Ending S P r → Ending T Q (wrap r)) :
    c.Kept w (Eval.leaving wrap tidy (x.on m)).2 ∧
      Ending T Q (Eval.leaving wrap tidy (x.on m)).1 := by
  have ends := hx w m kept
  generalize x.on m = o at ends ⊢
  obtain ⟨r, n⟩ := o
  by_cases stuck : r = .error .endless
  · subst stuck
    exact ⟨ends.1, endless⟩
  · rw [Eval.leaving_of_ne stuck]
    exact ⟨law.congr ends.1 (functions n) (scopes n) (aborted n), wrapped r ends.2⟩

theorem attempt : c.Runs c.Stops (Ending S P) (Eval.attempt x) := by
  intro w m kept
  rw [Eval.on_attempt]
  exact law.leaving hx kept (fun _ => rfl) (fun _ => rfl) (fun _ => rfl) law.stops_endless
    fun _ ends => ends

/-- Inside a call. -/
theorem inFrame : c.Runs c.Stops (Ending S P) (Eval.inFrame x) := by
  intro w m kept
  by_cases room : m.depth < m.config.maxCallDepth
  · rw [Eval.on_inFrame_of_lt room]
    have deeper : c.Kept w { m with depth := m.depth + 1 } := law.congr kept rfl rfl rfl
    exact law.leaving hx deeper (fun _ => rfl) (fun _ => rfl) (fun _ => rfl) law.stops_endless
      fun _ ends => ends
  · rw [Eval.on_inFrame_of_le (Nat.le_of_not_lt room)]
    exact ⟨kept, law.stops_fault _⟩

/-- With the faults listed that a generator handles. -/
theorem withHandled (faults : List Fault) :
    c.Runs c.Stops (Ending S P) (Eval.withHandled faults x) := by
  intro w m kept
  rw [Eval.on_withHandled]
  have handling : c.Kept w { m with handling := faults ++ m.handling } :=
    law.congr kept rfl rfl rfl
  exact law.leaving hx handling (fun _ => rfl) (fun _ => rfl) (fun _ => rfl) law.stops_endless
    fun _ ends => ends

/-- In a handler. -/
theorem whileHandling (f : Fault) (endless : S .endless) :
    c.Runs S P (Eval.whileHandling f x) := by
  intro w m kept
  rw [Eval.on_whileHandling]
  have handling : c.Kept w { m with handling := f :: m.handling } := law.congr kept rfl rfl rfl
  exact law.leaving hx handling (fun _ => rfl) (fun _ => rfl) (fun _ => rfl) endless
    fun _ ends => ends

end Brackets

end Lawful

end Conduct

end MeteredScript
