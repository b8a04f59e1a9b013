import MeteredScript.Proofs.Lifecycle.Transition
import MeteredScript.Proofs.Metering.Budget
import MeteredScript.Proofs.Termination.Question

/-!
# Coming to an end

An evaluator counts the rounds of its loops and the levels of its recursion, and what
exceeds the count is without end. That a run under a limit to its gas never gets there is
said by comparing it with a run that may go on longer: both have the same outcome
(`Eval.Halts`), however much longer the second may go on and whatever it then does. So the
first run does not depend on what is behind its count.

Two runs with the same outcome can both be without end for another reason, when they come
to a question that has no answer. Then that question is one about the values on the
machine that they left behind.

As in `Metering.Budget` a run within a budget is one on a machine with three units of
the budget for each charge that can still be made. A charge that is paid takes three
of them (`Eval.HaltsOf.pay`), and every loop and all but two levels of recursion begin
with one.
-/

namespace MeteredScript

open Coupling

variable {α β : Type}

/-! ## What is pending -/

/-- A run that has no end is over, so that no frame waits to go on with it. -/
def Frame.Definite : Frame → Prop
  | .cleanup pending => pending ≠ some .endless
  | _ => True

/-- Frames none of which waits to go on with a run that has no end. -/
def FramesDefinite (frames : List Frame) : Prop := ∀ frame ∈ frames, frame.Definite

@[simp] theorem framesDefinite_nil : FramesDefinite [] := by simp [FramesDefinite]

@[simp] theorem framesDefinite_cons {frame : Frame} {frames : List Frame} :
    FramesDefinite (frame :: frames) ↔ frame.Definite ∧ FramesDefinite frames := by
  simp [FramesDefinite]

/-- The frames that a generator remembers are definite. -/
def GeneratorState.Definite : GeneratorState → Prop
  | .suspended _ frames => FramesDefinite frames
  | _ => True

/-- **The frames of all generators are definite.** -/
def Machine.Definite (m : Machine) : Prop :=
  ∀ id state, m.scopes.generator? id = some state → state.Definite

namespace Machine.Definite

variable {m : Machine} (h : m.Definite)

include h

theorem generator (id : GeneratorId) : (m.generator id).state.Definite :=
  ScopeTree.AllGenerators.state h trivial id

theorem define (s : ScopeId) (name : String) (v : Value) :
    Definite { m with scopes := m.scopes.define s name v } :=
  ScopeTree.AllGenerators.define h s name v

theorem setGenerator (id : ScopeId) {state : GeneratorState} (hs : state.Definite) :
    Definite { m with scopes := m.scopes.setGenerator id state } :=
  ScopeTree.AllGenerators.setGenerator h id hs

theorem addScope (kind : ScopeKind) (parent : Option ScopeId) {state : Option GeneratorState}
    (hs : ∀ s ∈ state, s.Definite) :
    Definite { m with scopes := (m.scopes.addScope kind parent state).2 } :=
  ScopeTree.AllGenerators.addScope h kind parent hs

end Machine.Definite

/-! ## The budget -/

namespace Machine.Affords

variable {b b' : Nat} {m n : Machine}

theorem le (h : m.Affords b) (hle : b ≤ b') : m.Affords b' := ⟨h.1, Nat.le_trans h.2 hle⟩

/-- Gas is not given back, so the budget still does. -/
theorem burns (h : m.Affords b) (hb : m.Burns n) : n.Affords b := by
  obtain ⟨hc, hg⟩ := hb
  unfold Affords at h ⊢
  rw [hc]
  omega

theorem ticked (h : m.Affords b)
    (hpay : ¬ m.config.gasLimit < min (m.gas + 1) Eval.gasCeiling) : m.ticked.Affords (b - 3) := by
  unfold Affords at h
  unfold Machine.ticked Affords
  dsimp only
  omega

end Machine.Affords

namespace Eval

variable {b b' : Nat} {P : α → Prop} {Q : β → Prop}

/-- **A run that came to an end within a budget**, if the machine it started on affords it.
Given are its outcome and that of a run which may go on longer. -/
structure HaltsAt (b : Nat) (P : α → Prop) (m : Machine) (o o' : Except Stop α × Machine) :
    Prop where
  burns : m.Burns o.2
  definite : o.2.Definite
  /-- The value has a property. -/
  gives : IfOk P o.1
  /-- The longer run is the same. -/
  same : m.Affords b → o' = o
  /-- If there is no end, some question has no answer. -/
  asked : m.Affords b → o.1 = .error .endless → o.2.heap.Unanswered

/-- **The first of two evaluations ends within a budget**, and the second does the same. The
value has a property. -/
def HaltsOf (b : Nat) (P : α → Prop) (x y : Eval α) : Prop :=
  ∀ m : Machine, m.Definite → HaltsAt b P m (x.on m) (y.on m)

/-- **The first of two evaluations ends within a budget**, and the second does the same. -/
abbrev Halts (b : Nat) (x y : Eval α) : Prop := HaltsOf b (fun _ => True) x y

namespace HaltsAt

variable {m n : Machine} {o o' : Except Stop α × Machine}

/-- What was run before took its part of the budget. -/
theorem after (h : HaltsAt b' P n o o') (hburns : m.Burns n)
    (hb : m.Affords b → n.Affords b') : HaltsAt b P m o o' where
  burns := hburns.trans h.burns
  definite := h.definite
  gives := h.gives
  same hm := h.same (hb hm)
  asked hm := h.asked (hb hm)

theorem bind {x y : Eval α} {f g : α → Eval β} (h : HaltsAt b P m (x.on m) (y.on m))
    (hfg : ∀ a, P a → HaltsOf b Q (f a) (g a)) :
    HaltsAt b Q m ((x >>= f).on m) ((y >>= g).on m) := by
  rw [on_bind, on_bind]
  generalize x.on m = o at h ⊢
  generalize y.on m = o' at h ⊢
  obtain ⟨r, n⟩ := o
  cases r with
  | error s =>
    refine ⟨h.burns, h.definite, ifOk_error s, fun hb => ?_, fun hb hend => ?_⟩
    · rw [h.same hb]
    · cases hend
      exact h.asked hb rfl
  | ok a =>
    -- what the first part used up is not given back, so the budget is as good for the second
    have ha := hfg a (h.gives a rfl) n h.definite
    refine ⟨h.burns.trans ha.burns, ha.definite, ha.gives, fun hb => ?_,
      fun hb => ha.asked (hb.burns h.burns)⟩
    rw [h.same hb]
    exact ha.same (hb.burns h.burns)

end HaltsAt

namespace HaltsOf

variable {x y : Eval α} {f g : α → Eval β}

theorem mono (h : HaltsOf b P x y) {P' : α → Prop} (hP : ∀ a, P a → P' a) : HaltsOf b P' x y :=
  fun m hm =>
    have hx := h m hm
    ⟨hx.burns, hx.definite, fun a ha => hP a (hx.gives a ha), hx.same, hx.asked⟩

/-- A larger budget is a weaker assumption. -/
theorem within (h : HaltsOf b' P x y) (hle : b ≤ b') : HaltsOf b P x y :=
  fun m hm => (h m hm).after (.refl m) fun hb => hb.le hle

/-- A value that is given has any property that all given ones have. -/
theorem and_gives (h : HaltsOf b P x y) {P' : α → Prop} (hx : Eval.Gives P' x) :
    HaltsOf b (fun a => P a ∧ P' a) x y :=
  fun m hm =>
    have hm := h m hm
    ⟨hm.burns, hm.definite, fun a ha => ⟨hm.gives a ha, hx m a _ (Prod.ext ha rfl)⟩, hm.same,
      hm.asked⟩

theorem pure {a : α} (ha : P a) : HaltsOf b P (Pure.pure a) (Pure.pure a) := fun m hm =>
  ⟨.refl m, hm, ifOk_ok ha, fun _ => rfl, fun _ => nofun⟩

theorem throw {s : Stop} (hs : s ≠ .endless) :
    HaltsOf b P (MonadExcept.throw s) (MonadExcept.throw s) := fun m hm =>
  ⟨.refl m, hm, ifOk_error s, fun _ => rfl, fun _ hend => absurd (Except.error.inj hend) hs⟩

/-- No machine affords a budget of less than one charge. -/
theorem endless (hb : b < 3) : HaltsOf b P (MonadExcept.throw Stop.endless) y := fun m hm =>
  have hpoor : ¬ m.Affords b := fun h => by have := h.2; omega
  ⟨.refl m, hm, ifOk_error _, fun h => absurd h hpoor, fun h => absurd h hpoor⟩

theorem bind (h : HaltsOf b P x y) (hfg : ∀ a, P a → HaltsOf b Q (f a) (g a)) :
    HaltsOf b Q (x >>= f) (y >>= g) :=
  fun m hm => (h m hm).bind hfg

theorem ite {p : Prop} [Decidable p] {x' y' : Eval α} (h : HaltsOf b P x y)
    (h' : HaltsOf b P x' y') : HaltsOf b P (if p then x else x') (if p then y else y') := by
  split
  · exact h
  · exact h'

/-- To look at how an evaluation ended is to know that it ended. -/
theorem attempt (h : HaltsOf b P x y) :
    HaltsOf b (fun r => IfOk P r ∧ r ≠ .error .endless) (Eval.attempt x) (Eval.attempt y) := by
  intro m hm
  have hx := h m hm
  rw [on_attempt, on_attempt]
  generalize x.on m = o at hx ⊢
  generalize y.on m = o' at hx ⊢
  obtain ⟨r, n⟩ := o
  by_cases hr : r = .error .endless
  · subst hr
    refine ⟨hx.burns, hx.definite, ifOk_error _, fun hb => ?_, fun hb _ => hx.asked hb rfl⟩
    rw [hx.same hb]
  · have hlook := leaving_of_ne (β := Except Stop α) hr .ok id n
    rw [hlook]
    refine ⟨hx.burns, hx.definite, ifOk_ok ⟨hx.gives, hr⟩, fun hb => ?_, fun _ => nofun⟩
    rw [hx.same hb, hlook]

/-- What is done with a result that was looked at. -/
theorem attempt_bind (h : HaltsOf b P x y) {f g : Except Stop α → Eval β}
    (hfg : ∀ r, IfOk P r → r ≠ .error .endless → HaltsOf b Q (f r) (g r)) :
    HaltsOf b Q (Eval.attempt x >>= f) (Eval.attempt y >>= g) :=
  h.attempt.bind fun r hr => hfg r hr.1 hr.2

/-- **What is done after a unit of gas was asked for**: with three units less of the
budget, or without gas. -/
theorem attempt_tick {f g : Except Stop Unit → Eval α}
    (hok : HaltsOf (b - 3) P (f (.ok ())) (g (.ok ())))
    (hend : HaltsOf b P (f (.error .gasExhausted)) (g (.error .gasExhausted))) :
    HaltsOf b P (Eval.attempt Eval.tick >>= f) (Eval.attempt Eval.tick >>= g) := by
  intro m hm
  have hcharge := on_charge 1 m
  have hburns : m.Burns m.ticked := (Machine.WindsDown.charge m 1).burns
  split at hcharge
  · have hrefused := on_attempt_of_ne hcharge (by simp)
    rw [tick, on_bind_ok hrefused, on_bind_ok hrefused]
    exact (hend m.ticked hm).after hburns fun hb => hb.burns hburns
  · rename_i hpay
    have hpaid := on_attempt_of_ne hcharge (by simp)
    rw [tick, on_bind_ok hpaid, on_bind_ok hpaid]
    exact (hok m.ticked hm).after hburns fun hb => hb.ticked hpay

/-- **What is paid for** may take three units less of the budget. -/
theorem pay (h : HaltsOf (b - 3) P x y) :
    HaltsOf b P (do Eval.tick; x) (do Eval.tick; y) := by
  -- a charge that is looked at and one that is not differ in nothing but the form
  rw [← attempt_bind_ofStop Eval.tick, bind_assoc, bind_assoc]
  exact attempt_tick h (throw (by simp))

end HaltsOf

/-! ## Evaluations that do not recurse -/

namespace HaltsOf

/-- What reads the machine ends. -/
theorem read {x : Eval α} {g : Machine → α} (hx : ∀ m, x.on m = (.ok (g m), m))
    (hP : ∀ m : Machine, m.Definite → P (g m)) : HaltsOf b P x x := fun m hm => by
  rw [hx]
  exact ⟨.refl m, hm, ifOk_ok (hP m hm), fun _ => rfl, fun _ => nofun⟩

theorem ofTypeFault (r : Except TypeFault α) (hP : ∀ a, r = .ok a → P a) :
    HaltsOf b P (Eval.ofTypeFault r) (Eval.ofTypeFault r) := by
  cases r with
  | ok a => exact pure (hP a rfl)
  | error why => exact throw (by simp)

theorem generatorState (id : GeneratorId) :
    HaltsOf b GeneratorState.Definite (Eval.generatorState id) (Eval.generatorState id) :=
  read (fun _ => rfl) fun _ hm => hm.generator id

end HaltsOf

namespace Halts

variable {x y : Eval α} {f g : α → Eval β}

theorem pure (a : α) : Halts b (Pure.pure a) (Pure.pure a) := HaltsOf.pure trivial

theorem bind (h : Halts b x y) (hfg : ∀ a, Halts b (f a) (g a)) : Halts b (x >>= f) (y >>= g) :=
  HaltsOf.bind h fun a _ => hfg a

theorem map (f : α → β) (h : Halts b x y) : Halts b (f <$> x) (f <$> y) := by
  rw [map_eq_pure_bind, map_eq_pure_bind]
  exact bind h fun a => pure (f a)

theorem mapM {f g : α → Eval β} (h : ∀ a, Halts b (f a) (g a)) (l : List α) :
    Halts b (l.mapM f) (l.mapM g) := by
  induction l with
  | nil => exact pure []
  | cons a l ih =>
    rw [List.mapM_cons, List.mapM_cons]
    exact bind (h a) fun v => bind ih fun vs => pure (v :: vs)

theorem fail (f : Fault) : Halts b (Eval.fail f : Eval α) (Eval.fail f) := HaltsOf.throw (by simp)

theorem ofFault (r : Except Fault α) : Halts b (Eval.ofFault r) (Eval.ofFault r) := by
  cases r with
  | ok a => exact pure a
  | error f => exact fail f

theorem ofTypeFault (r : Except TypeFault α) : Halts b (Eval.ofTypeFault r) (Eval.ofTypeFault r) :=
  HaltsOf.ofTypeFault r fun _ _ => trivial

/-- A result that was looked at is no lack of one. -/
theorem ofStop {r : Except Stop α} (hr : r ≠ .error .endless) :
    Halts b (Eval.ofStop r) (Eval.ofStop r) := by
  cases r with
  | ok a => exact pure a
  | error s => exact HaltsOf.throw fun hs => hr (by rw [hs])

theorem require (p : Prop) [Decidable p] (f : Fault) :
    Halts b (Eval.require p f) (Eval.require p f) :=
  HaltsOf.ite (pure ()) (fail f)

/-! ### Questions -/

/-- **A question is put to the values on the machine**, so that if there is no answer it is
among those that have none. -/
theorem ask {r : Heap → Except Stop α} (hr : ∀ h : Heap, h.Explains (r h)) :
    Halts b (do Eval.ofStop (r (← Eval.heap))) (do Eval.ofStop (r (← Eval.heap))) :=
  fun m hm => by
    rw [on_bind_ok (show Eval.heap.on m = (.ok m.heap, m) from rfl), on_ofStop]
    exact ⟨.refl m, hm, fun _ _ => trivial, fun _ => rfl, fun _ => (hr m.heap).unanswered⟩

theorem askFor {r : Heap → Option α} (hr : ∀ h : Heap, r h = none → h.Unanswered) :
    Halts b (do Eval.ofAnswer (r (← Eval.heap))) (do Eval.ofAnswer (r (← Eval.heap))) :=
  fun m hm => by
    rw [on_bind_ok (show Eval.heap.on m = (.ok m.heap, m) from rfl)]
    cases hans : r m.heap with
    | some a => exact pure a m hm
    | none =>
      exact ⟨.refl m, hm, fun _ _ => trivial, fun _ => rfl, fun _ _ => hr m.heap hans⟩

theorem repr (v : Value) : Halts b (Eval.repr v) (Eval.repr v) :=
  askFor fun _ => Heap.unanswered_of_repr?

theorem text (v : Value) : Halts b (Eval.text v) (Eval.text v) :=
  askFor fun _ => Heap.unanswered_of_text?

/-! ### Primitives -/

/-- What changes the machine ends. -/
theorem change {x : Eval α} {g : Machine → α} {k : Machine → Machine}
    (hx : ∀ m, x.on m = (.ok (g m), k m)) (hconfig : ∀ m, (k m).config = m.config)
    (hgas : ∀ m, (k m).gas = m.gas) (hdefinite : ∀ m : Machine, m.Definite → (k m).Definite) :
    Halts b x x := fun m hm => by
  rw [hx]
  exact ⟨.of_eq (hconfig m) (hgas m), hdefinite m hm, fun _ _ => trivial, fun _ => rfl,
    fun _ => nofun⟩

theorem get : Halts b (MonadState.get : Eval Machine) MonadState.get :=
  HaltsOf.read (fun _ => rfl) fun _ _ => trivial

theorem heap : Halts b Eval.heap Eval.heap := HaltsOf.read (fun _ => rfl) fun _ _ => trivial

theorem function (id : FunctionId) : Halts b (Eval.function id) (Eval.function id) :=
  HaltsOf.read (fun _ => rfl) fun _ _ => trivial

theorem own? (s : ScopeId) (name : String) : Halts b (Eval.own? s name) (Eval.own? s name) :=
  HaltsOf.read (fun _ => rfl) fun _ _ => trivial

theorem find? (s : ScopeId) (name : String) : Halts b (Eval.find? s name) (Eval.find? s name) :=
  HaltsOf.read (fun _ => rfl) fun _ _ => trivial

theorem handled? : Halts b Eval.handled? Eval.handled? :=
  HaltsOf.read (fun _ => rfl) fun _ _ => trivial

theorem isTruthy (v : Value) : Halts b (Eval.isTruthy v) (Eval.isTruthy v) :=
  bind heap fun _ => pure _

theorem charge (amount : Nat) : Halts b (Eval.charge amount) (Eval.charge amount) := fun m hm => by
  have hburns := m.burns_charge amount
  rw [on_charge] at hburns ⊢
  refine ⟨hburns, hm, fun _ _ => trivial, fun _ => rfl, fun _ => ?_⟩
  dsimp only
  split <;> nofun

theorem tick : Halts b Eval.tick Eval.tick := charge 1

theorem modifyHeap (f : Heap → Heap) : Halts b (Eval.modifyHeap f) (Eval.modifyHeap f) :=
  change (fun _ => rfl) (fun _ => rfl) (fun _ => rfl) fun _ hm => hm

theorem place (r : Fresh) : Halts b (Eval.place r) (Eval.place r) :=
  change (fun _ => rfl) (fun _ => rfl) (fun _ => rfl) fun _ hm => hm

theorem newSerial : Halts b Eval.newSerial Eval.newSerial :=
  change (fun _ => rfl) (fun _ => rfl) (fun _ => rfl) fun _ hm => hm

theorem newException (e : Exception) : Halts b (Eval.newException e) (Eval.newException e) :=
  bind newSerial fun _ => pure _

theorem newFunction (name : String) (f : Function) :
    Halts b (Eval.newFunction name f) (Eval.newFunction name f) :=
  change (fun _ => rfl) (fun _ => rfl) (fun _ => rfl) fun _ hm => hm

theorem print (line : String) : Halts b (Eval.print line) (Eval.print line) :=
  change (fun _ => rfl) (fun _ => rfl) (fun _ => rfl) fun _ hm => hm

theorem abort : Halts b Eval.abort Eval.abort :=
  change (fun _ => rfl) (fun _ => rfl) (fun _ => rfl) fun _ hm => hm

theorem reprHolding (held : List Guard) (v : Value) :
    Halts b (Eval.reprHolding held v) (Eval.reprHolding held v) :=
  heap.bind fun _ => HaltsOf.ite (abort.bind fun _ => repr v) (repr v)

theorem pushHandling (f : Fault) : Halts b (Eval.pushHandling f) (Eval.pushHandling f) :=
  change (fun _ => rfl) (fun _ => rfl) (fun _ => rfl) fun _ hm => hm

theorem popHandling : Halts b Eval.popHandling Eval.popHandling :=
  change (fun _ => rfl) (fun _ => rfl) (fun _ => rfl) fun _ hm => hm

theorem define (s : ScopeId) (name : String) (v : Value) :
    Halts b (Eval.define s name v) (Eval.define s name v) :=
  change (fun _ => rfl) (fun _ => rfl) (fun _ => rfl) fun _ hm => hm.define s name v

theorem newScope (kind : ScopeKind) (parent : Option ScopeId) :
    Halts b (Eval.newScope kind parent) (Eval.newScope kind parent) :=
  change (fun _ => rfl) (fun _ => rfl) (fun _ => rfl) fun _ hm => hm.addScope kind parent nofun

theorem newGenerator (kind : ScopeKind) (parent : ScopeId) (body : Block) :
    Halts b (Eval.newGenerator kind parent body) (Eval.newGenerator kind parent body) := by
  refine change (fun _ => rfl) (fun _ => rfl) (fun _ => rfl) fun _ hm => hm.addScope kind _ ?_
  rintro s ⟨⟩
  exact trivial

theorem setGeneratorState (id : GeneratorId) {state : GeneratorState} (hs : state.Definite) :
    Halts b (Eval.setGeneratorState id state) (Eval.setGeneratorState id state) :=
  change (fun _ => rfl) (fun _ => rfl) (fun _ => rfl) fun _ hm => hm.setGenerator id.scope hs

/-- A generator may end in any way. -/
theorem complete (id : GeneratorId) (completion : Completion) :
    Halts b (Eval.setGeneratorState id (.completed completion))
      (Eval.setGeneratorState id (.completed completion)) :=
  setGeneratorState id trivial

theorem lookup (s : ScopeId) (name : String) :
    Halts b (Eval.lookup s name) (Eval.lookup s name) := by
  refine bind (find? s name) fun v => ?_
  cases v with
  | some v => exact pure v
  | none =>
    dsimp only
    split
    · exact pure _
    · split
      · exact pure _
      · exact fail _

end Halts

/-! ### Brackets -/

/-- A change of the counters or of what is being handled ends. -/
theorem Halts.tidy {f : Machine → Machine} (hconfig : ∀ m, (f m).config = m.config)
    (hgas : ∀ m, (f m).gas = m.gas) (hscopes : ∀ m, (f m).scopes = m.scopes) :
    Halts b (modify f : Eval Unit) (modify f) :=
  change (fun _ => rfl) hconfig hgas fun m hm id state hid => hm id state (hscopes m ▸ hid)

section Brackets

variable {x y : Eval α} (h : HaltsOf b P x y)

include h

/-- A call one level deeper. -/
theorem HaltsOf.inFrame :
    HaltsOf b (fun r => IfOk P r ∧ r ≠ .error .endless) (Eval.inFrame x) (Eval.inFrame y) := by
  refine bind Halts.get fun m _ => bind (Halts.require _ _) fun _ _ => ?_
  refine bind (Halts.tidy (fun _ => rfl) (fun _ => rfl) fun _ => rfl) fun _ _ => ?_
  refine bind h.attempt fun r hr => ?_
  exact bind (Halts.tidy (fun _ => rfl) (fun _ => rfl) fun _ => rfl) fun _ _ => pure hr

/-- A body whose handlers are active again. -/
theorem HaltsOf.withHandled (faults : List Fault) :
    HaltsOf b (fun r => IfOk P r ∧ r ≠ .error .endless) (Eval.withHandled faults x)
      (Eval.withHandled faults y) := by
  refine bind Halts.get fun m _ => ?_
  refine bind (Halts.tidy (fun _ => rfl) (fun _ => rfl) fun _ => rfl) fun _ _ => ?_
  refine bind h.attempt fun r hr => ?_
  exact bind (Halts.tidy (fun _ => rfl) (fun _ => rfl) fun _ => rfl) fun _ _ => pure hr

/-- The handler of a fault. -/
theorem HaltsOf.whileHandling (f : Fault) :
    Halts b (Eval.whileHandling f x) (Eval.whileHandling f y) := by
  refine bind (Halts.pushHandling f) fun _ _ => bind h.attempt fun r hr => ?_
  exact bind Halts.popHandling fun _ _ => Halts.ofStop hr.2

end Brackets

end Eval

end MeteredScript
