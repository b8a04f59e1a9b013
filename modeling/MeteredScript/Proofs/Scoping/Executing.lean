import MeteredScript.Proofs.Regime.Bounded

/-!
# Whose scope is written to

Code runs in a scope: that of the module, of a call, of a comprehension, of a
class body, or of a generator that is being driven. While it runs it may write
there, and nobody else can. Nothing leads to such a scope: no class object has
it as its namespace, since the object is made when the body of the class is
done, and no generator that waits has it as its own.

`Regime.executing` is the regime that says so. To evaluate an expression in a
scope is to pass to a stage at which the bindings of that scope are kept, so an
evaluator that compares them before and after each expression finds no
difference (`keeping_asserting`). This holds in every session in which the host
makes up no class objects for scopes that are no namespaces
(`Session.Honest`).
-/

namespace MeteredScript

open Regime

/-! ## The regime -/

/-- **What is being run**: the scopes of the calls that are going on, those of
the generator bodies, and the bindings that some of them are to keep. -/
structure Executing where
  /-- Scopes in which code runs, for which no generator was made. -/
  calls : ScopeId → Prop
  /-- Scopes in which the bodies of generators run. -/
  bodies : ScopeId → Prop
  /-- Bindings that a scope has to keep. -/
  kept : ScopeId → Bindings → Prop

namespace Executing

/-- The scopes in which code runs. -/
def active (g : Executing) (s : ScopeId) : Prop := g.calls s ∨ g.bodies s

/-- Code runs in one more scope. -/
def call (g : Executing) (s : ScopeId) : Executing :=
  { g with calls := fun t => t = s ∨ g.calls t }

/-- The body of one more generator runs. -/
def drive (g : Executing) (s : ScopeId) : Executing :=
  { g with bodies := fun t => t = s ∨ g.bodies t }

/-- A scope has to keep its bindings. -/
def keep (g : Executing) (s : ScopeId) (b : Bindings) : Executing :=
  { g with kept := fun t c => (t = s ∧ c = b) ∨ g.kept t c }

end Executing

/-- **What scopes are for**, as far as that is settled: some are namespaces of
class objects, and some belong to generators. -/
structure Purposes where
  /-- Class objects may lead to the scope. -/
  namespaces : ScopeId → Prop
  /-- The scope belongs to a generator. -/
  generators : ScopeId → Prop

/-- A purpose once settled stays. -/
structure Purposes.Grows (w w' : Purposes) : Prop where
  namespaces {t : ScopeId} : w.namespaces t → w'.namespaces t
  generators {t : ScopeId} : w.generators t → w'.generators t

namespace Purposes

/-- One more scope may be led to by class objects. -/
def name (w : Purposes) (s : ScopeId) : Purposes :=
  { w with namespaces := fun t => t = s ∨ w.namespaces t }

/-- One more scope belongs to a generator. -/
def own (w : Purposes) (s : ScopeId) : Purposes :=
  { w with generators := fun t => t = s ∨ w.generators t }

theorem grows_name (w : Purposes) (s : ScopeId) : w.Grows (w.name s) := ⟨.inr, id⟩

theorem grows_own (w : Purposes) (s : ScopeId) : w.Grows (w.own s) := ⟨id, .inr⟩

end Purposes

/-- **What holds of scopes while code runs.** -/
structure Executing.Holds (g : Executing) (w : Purposes) (tree : ScopeTree) : Prop where
  /-- No code runs in a namespace, and none belongs to a generator. -/
  namespaces {t : ScopeId} : w.namespaces t →
    t.index < tree.scopes.size ∧ tree.generator? t = none ∧ ¬ g.active t
  generators {t : ScopeId} : w.generators t → ∃ state, tree.generator? t = some state
  calls {t : ScopeId} : g.calls t → t.index < tree.scopes.size ∧ tree.generator? t = none
  /-- A generator whose body runs is running. -/
  bodies {t : ScopeId} : g.bodies t → tree.generator? t = some .running
  kept {t : ScopeId} {b : Bindings} : g.kept t b → g.active t ∧ tree.bindings t = b

namespace Executing.Holds

variable {g : Executing} {w w' : Purposes} {tree tree' : ScopeTree} {s : ScopeId}

/-- Code runs in scopes that are there. -/
theorem lt_size (holds : g.Holds w tree) (active : g.active s) : s.index < tree.scopes.size :=
  active.elim (fun call => (holds.calls call).1) fun body =>
    tree.lt_size_of_generator? s (holds.bodies body)

/-- No code runs in the scope of a generator that waits. -/
theorem not_active (holds : g.Holds w tree) {state : GeneratorState}
    (found : tree.generator? s = some state) (waits : state.Waits) : ¬ g.active s := by
  rintro (call | body)
  · rw [(holds.calls call).2] at found
    cases found
  · rw [holds.bodies body] at found
    cases found
    rcases waits with ⟨_, h⟩ | ⟨_, _, h⟩ <;> cases h

/-- Writing to a scope that has no bindings to keep. -/
theorem define (holds : g.Holds w tree) (free : ∀ b, ¬ g.kept s b) (name : String) (v : Value) :
    g.Holds w (tree.define s name v) where
  namespaces named := by simpa using holds.namespaces named
  generators owned := by simpa using holds.generators owned
  calls call := by simpa using holds.calls call
  bodies body := by simpa using holds.bodies body
  kept {t b} kept := by
    have other : t ≠ s := fun same => free b (same ▸ kept)
    rw [tree.bindings_define_of_ne s t other]
    exact holds.kept kept

/-- A new scope. -/
theorem addScope (holds : g.Holds w tree) (kind : ScopeKind) (parent : Option ScopeId)
    (state : Option GeneratorState) : g.Holds w (tree.addScope kind parent state).2 := by
  have old {t : ScopeId} (inside : t.index < tree.scopes.size) :
      (tree.addScope kind parent state).2.generator? t = tree.generator? t :=
    tree.generator?_addScope_of_ne t kind parent state (Nat.ne_of_lt inside)
  refine ⟨fun named => ?_, fun owned => ?_, fun call => ?_, fun body => ?_, fun kept => ?_⟩
  · obtain ⟨inside, none, inactive⟩ := holds.namespaces named
    rw [old inside, ScopeTree.size_addScope]
    exact ⟨Nat.lt_succ_of_lt inside, none, inactive⟩
  · obtain ⟨state, found⟩ := holds.generators owned
    rw [old (tree.lt_size_of_generator? _ found)]
    exact ⟨state, found⟩
  · obtain ⟨inside, none⟩ := holds.calls call
    rw [old inside, ScopeTree.size_addScope]
    exact ⟨Nat.lt_succ_of_lt inside, none⟩
  · rw [old (holds.lt_size (.inr body))]
    exact holds.bodies body
  · rw [ScopeTree.bindings_addScope]
    exact holds.kept kept

/-- Bringing a generator to another place in its life, if no code runs in its
scope but perhaps its body. -/
theorem setGenerator (holds : g.Holds w tree) (owned : w.generators s) {state : GeneratorState}
    (body : g.bodies s → state = .running) : g.Holds w (tree.setGenerator s state) := by
  obtain ⟨before, found⟩ := holds.generators owned
  have self : (tree.setGenerator s state).generator? s = some state :=
    tree.generator?_setGenerator_self s found state
  have other {t : ScopeId} (ne : t ≠ s) := tree.generator?_setGenerator_of_ne s t ne state
  have ne_of_none {t : ScopeId} (none : tree.generator? t = none) : t ≠ s := by
    rintro rfl
    rw [none] at found
    cases found
  refine ⟨fun named => ?_, fun {t} owned => ?_, fun call => ?_, fun {t} driven => ?_,
    fun kept => ?_⟩
  · obtain ⟨inside, none, inactive⟩ := holds.namespaces named
    rw [other (ne_of_none none), ScopeTree.size_setGenerator]
    exact ⟨inside, none, inactive⟩
  · by_cases same : t = s
    · subst same
      exact ⟨state, self⟩
    · rw [other same]
      exact holds.generators owned
  · obtain ⟨inside, none⟩ := holds.calls call
    rw [other (ne_of_none none), ScopeTree.size_setGenerator]
    exact ⟨inside, none⟩
  · by_cases same : t = s
    · subst same
      rw [self, body driven]
    · rw [other same]
      exact holds.bodies driven
  · rw [ScopeTree.bindings_setGenerator]
    exact holds.kept kept

/-- A scope that has a generator belongs to it. -/
theorem own (holds : g.Holds w tree) {state : GeneratorState}
    (found : tree.generator? s = some state) :
    g.Holds (w.own s) tree :=
  ⟨holds.namespaces, fun owned => owned.elim (fun same => ⟨state, same ▸ found⟩) holds.generators,
    holds.calls, holds.bodies, holds.kept⟩

/-- Code is run in one more scope. -/
theorem call (holds : g.Holds w tree) (inside : s.index < tree.scopes.size)
    (none : tree.generator? s = none) (unnamed : ¬ w.namespaces s) : (g.call s).Holds w tree where
  namespaces {t} named := by
    obtain ⟨inside, none, inactive⟩ := holds.namespaces named
    refine ⟨inside, none, ?_⟩
    rintro ((rfl | call) | body)
    · exact unnamed named
    · exact inactive (.inl call)
    · exact inactive (.inr body)
  generators := holds.generators
  calls call := call.elim (fun same => same ▸ ⟨inside, none⟩) holds.calls
  bodies := holds.bodies
  kept kept := ⟨(holds.kept kept).1.imp .inr id, (holds.kept kept).2⟩

/-- What held before code was run in one more scope holds when that is
over. -/
theorem of_call (holds : (g.call s).Holds w tree) (kept : ∀ {t b}, g.kept t b → g.active t) :
    g.Holds w tree where
  namespaces named := by
    obtain ⟨inside, none, inactive⟩ := holds.namespaces named
    exact ⟨inside, none, fun active => inactive (active.imp .inr id)⟩
  generators := holds.generators
  calls call := holds.calls (.inr call)
  bodies := holds.bodies
  kept bound := ⟨kept bound, (holds.kept bound).2⟩

/-- The body of one more generator is run. -/
theorem drive (holds : g.Holds w tree) (running : tree.generator? s = some .running) :
    (g.drive s).Holds w tree where
  namespaces named := by
    obtain ⟨inside, none, inactive⟩ := holds.namespaces named
    refine ⟨inside, none, ?_⟩
    rintro (call | rfl | body)
    · exact inactive (.inl call)
    · rw [none] at running
      cases running
    · exact inactive (.inr body)
  generators := holds.generators
  calls := holds.calls
  bodies body := body.elim (fun same => same ▸ running) holds.bodies
  kept kept := ⟨(holds.kept kept).1.imp id .inr, (holds.kept kept).2⟩

theorem of_drive (holds : (g.drive s).Holds w tree) (kept : ∀ {t b}, g.kept t b → g.active t) :
    g.Holds w tree where
  namespaces named := by
    obtain ⟨inside, none, inactive⟩ := holds.namespaces named
    exact ⟨inside, none, fun active => inactive (active.imp id .inr)⟩
  generators := holds.generators
  calls := holds.calls
  bodies body := holds.bodies (.inr body)
  kept bound := ⟨kept bound, (holds.kept bound).2⟩

/-- A scope becomes a namespace, if no code runs in it. -/
theorem name (holds : g.Holds w tree) (inside : s.index < tree.scopes.size)
    (none : tree.generator? s = none) (inactive : ¬ g.active s) :
    g.Holds (w.name s) tree where
  namespaces named :=
    named.elim (fun same => same ▸ ⟨inside, none, inactive⟩) holds.namespaces
  generators := holds.generators
  calls := holds.calls
  bodies := holds.bodies
  kept := holds.kept

/-- Keeping the bindings of a scope in which code runs. -/
theorem keep (holds : g.Holds w tree) (active : g.active s) :
    (g.keep s (tree.bindings s)).Holds w tree where
  namespaces := holds.namespaces
  generators := holds.generators
  calls := holds.calls
  bodies := holds.bodies
  kept kept := by
    rcases kept with ⟨rfl, rfl⟩ | kept
    · exact ⟨active, rfl⟩
    · exact holds.kept kept

theorem of_keep {b : Bindings} (holds : (g.keep s b).Holds w tree) : g.Holds w tree where
  namespaces := holds.namespaces
  generators := holds.generators
  calls := holds.calls
  bodies := holds.bodies
  kept kept := holds.kept (.inr kept)

end Executing.Holds

/-- **The regime of scopes that only their own code writes to.** -/
def Regime.executing : Regime where
  Stage := Executing
  World := Purposes
  Grows := Purposes.Grows
  named w := w.namespaces
  Holds := Executing.Holds
  runs g s := g.active s
  writes g s := ∀ b, ¬ g.kept s b
  gives _ := True
  wakes _ := True
  grows_refl _ := ⟨id, id⟩
  grows_trans h h' := ⟨h'.namespaces ∘ h.namespaces, h'.generators ∘ h.generators⟩
  named_mono h := h.namespaces
  define name v free holds := holds.define free name v
  setAttribute name v named _ holds :=
    holds.define (fun _ kept => (holds.namespaces named).2.2 (holds.kept kept).1) name v
  make kind parent body holds := by
    refine ⟨fun b kept => ?_, holds.addScope kind _ _⟩
    exact Nat.lt_irrefl _ (holds.lt_size (holds.kept kept).1)
  enter {g w tree} kind parent holds := by
    have fresh : ¬ g.active (tree.addScope kind parent none).1 := fun active =>
      Nat.lt_irrefl _ (holds.lt_size active)
    have unnamed : ¬ w.namespaces (tree.addScope kind parent none).1 := fun named =>
      Nat.lt_irrefl _ (holds.namespaces named).1
    have inside : (tree.addScope kind parent none).1.index <
        (tree.addScope kind parent none).2.scopes.size := by
      rw [ScopeTree.size_addScope]
      exact Nat.lt_succ_self _
    refine ⟨g.call (tree.addScope kind parent none).1, .inl (.inl rfl),
      fun b kept => fresh (holds.kept kept).1, ?_, fun w' tree' _ holds' => ?_⟩
    · exact (holds.addScope kind parent none).call inside
        (tree.generator?_addScope_self kind parent none) unnamed
    · have back := holds'.of_call fun kept => (holds.kept kept).1
      obtain ⟨inside', none'⟩ := holds'.calls (.inl rfl)
      exact ⟨back, _, w'.grows_name _, .inl rfl, back.name inside' none' fresh⟩
  wake {g w tree id state} _ holds found waits := by
    have inactive := holds.not_active found waits
    have running : g.Holds (w.own id.scope) (tree.setGenerator id.scope .running) :=
      (holds.own found).setGenerator (.inl rfl) fun _ => rfl
    refine ⟨g.drive id.scope, _, w.grows_own id.scope, .inr (.inl rfl),
      fun b kept => inactive (holds.kept kept).1,
      running.drive (tree.generator?_setGenerator_self id.scope found .running), ?_⟩
    intro w' tree' state' hw holds' _
    refine (holds'.of_drive fun kept => (holds.kept kept).1).setGenerator
      (hw.generators (.inl rfl)) fun body => absurd (.inr body) inactive
  complete {g w tree id state} holds found waits := by
    refine ⟨_, w.grows_own id.scope, holds.own found, fun w' tree' c hw holds' => ?_⟩
    exact holds'.setGenerator (hw.generators (.inl rfl)) fun body =>
      absurd (.inr body) (holds.not_active found waits)

theorem Regime.free_executing : Regime.executing.Free := ⟨fun _ => trivial, fun _ => trivial⟩

/-! ## Expressions -/

section Asserting

open Classical in
/-- Run an evaluation and compare the bindings of a scope before and after. If
they differ, sound an alarm. -/
noncomputable def Eval.asserting {α : Type} (s : ScopeId) (alarm x : Eval α) : Eval α := do
  let before := (← get).scopes.bindings s
  let result ← Eval.attempt x
  if (← get).scopes.bindings s = before then Eval.ofStop result else alarm

/-- **An evaluator that compares the bindings** of the scope it evaluates in,
before and after each expression, those inside other expressions included. -/
noncomputable def Evaluator.asserting (alarm : Eval Value) : (bound : Nat) → Evaluator
  | 0 => .idle
  | bound + 1 =>
    { (asserting alarm bound).deeper with
      eval := fun e s => Eval.asserting s alarm (evalExpr (asserting alarm bound) e s) }

variable {g : Executing} {w : Purposes} {s : ScopeId}

/-- An evaluation that keeps what it is told to keep does not change the scope
it runs in. -/
theorem Regime.Keeps.asserting {α : Type} [Holder α] {x y : Eval α} (active : g.active s)
    (h : ∀ b, Regime.executing.Keeps (g.keep s b) w x y) (alarm : Eval α) :
    Regime.executing.Keeps g w x (Eval.asserting s alarm y) := by
  refine (keeps_iff rfl).2 fun w₁ m hw inv => ?_
  have keeping : Regime.executing.Inv (g.keep s (m.scopes.bindings s)) w₁ m :=
    inv.move (Regime.executing.grows_refl w₁) (inv.holds.keep active)
  have same := (keeps_iff rfl).1 (h (m.scopes.bindings s)) w₁ m hw keeping
  rw [Eval.asserting, Eval.on_bind_ok (Eval.on_get m)]
  rcases same with ⟨ends, ends'⟩ | ⟨same, more, after⟩
  · refine .inl ⟨ends, ?_⟩
    rw [Eval.on_bind_error (Eval.on_attempt_of_endless (Prod.ext ends' rfl))]
  · obtain ⟨w', hw', inv', hr⟩ := after
    -- the scope is one that code runs in, so what it had to keep it still has
    have kept : (x.on m).2.scopes.bindings s = m.scopes.bindings s :=
      (inv'.holds.kept (.inl ⟨rfl, rfl⟩)).2
    refine .inr ⟨?_, more, w', hw', inv'.move (Regime.executing.grows_refl w') inv'.holds.of_keep, hr⟩
    have ran : y.on m = ((x.on m).1, (x.on m).2) := same
    rw [Eval.on_bind_ok (Eval.on_attempt_of_ne ran more), Eval.on_bind_ok (Eval.on_get _),
      if_pos kept, Eval.on_ofStop]

/-- **No expression changes the scope it is evaluated in.** -/
theorem keeping_asserting (alarm : Eval Value) (n : Nat) :
    Regime.executing.Keeping (fun _ => True) (.bounded n) (.asserting alarm n) := by
  induction n with
  | zero => exact keeping_idle
  | succ n ih =>
    have deeper := free_executing.deeper ih
    exact {
      eval := fun runs => .asserting runs (fun _ => deeper.eval runs) alarm
      gives := deeper.gives
      exec := deeper.exec
      resume := deeper.resume
      close := deeper.close
      rounds := deeper.rounds }

end Asserting

end MeteredScript
