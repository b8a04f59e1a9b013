import MeteredScript.Proofs.Coupling.WindDown
import MeteredScript.Syntax.Names

/-!
# Two runs side by side

What can be said about evaluation is mostly said about two runs: of one script
on machines that differ in something the script cannot see, of one evaluation
with more and with less room to recurse, of a script written in two ways. A
*coupling* says when two machines count as alike, and `Coupling.Sim` says that
two evaluations, started on machines that are alike, end in the same way on
machines that are alike again. A statement about a single run is the case in
which the two machines are the same and have the property in question.

Two runs may also part for good: when gas runs out in one of them, nothing is
said about what the other does afterwards. Such an *excuse* must hold on,
whatever is still run, so a coupling also says how its two machines may
change. What is still run can then be any code, and so a coupling with excuses
has to be about all code.

Or gas runs out in the left run and something is said about what follows. Then the
two runs have *parted*: the left one winds down, and the right one goes on with
whatever it does, or came to a stop for good. That the left one winds down, wherever
a stop is looked at, is what `Coupling.Unwinds` is about.

The combinators below are those that evaluations are written with. So a
statement about all of evaluation needs a look at each primitive and no more,
which is what `Coupling.Lawful` asks for.
-/

namespace MeteredScript

/-- What is asked of machines that have parted holds where none ever do. -/
theorem Machine.Spent.of_never {m : Machine} (h : False) : m.Spent := h.elim

/-- **A way to compare two runs.** -/
structure Coupling where
  /-- What a comparison is relative to, such as the depth of calls at which
  both runs start. -/
  World : Type
  /-- When two machines are alike. -/
  Related : World → Machine → Machine → Prop
  /-- How the machine of the left run may change. -/
  Left : Machine → Machine → Prop
  /-- How the machine of the right run may change. -/
  Right : Machine → Machine → Prop
  /-- When nothing is said about two runs any more. -/
  Excused : Machine → Machine → Prop
  /-- Whether nothing is said about a left run without end. -/
  patientLeft : Prop
  /-- Whether nothing is said about a right run without end. -/
  patientRight : Prop
  /-- The names that the machines need not agree on. -/
  hidden : String → Prop
  /-- When two runs have parted, the right one of which came to a stop for good or goes
  on. -/
  Parted : (halted : Bool) → Machine → Machine → Prop := fun _ _ _ => False
  /-- What is said about two runs without end. -/
  Endless : World → Machine → Machine → Prop := fun _ _ _ => True
  left_refl (m : Machine) : Left m m
  left_trans {m n k : Machine} : Left m n → Left n k → Left m k
  right_refl (m : Machine) : Right m m
  right_trans {m n k : Machine} : Right m n → Right n k → Right m k
  excused_mono {m n k l : Machine} : Excused m n → Left m k → Right n l → Excused k l
  shown_of_excused {m n : Machine} : Excused m n → ∀ name, ¬ hidden name
  spent_of_parted {halted : Bool} {m n : Machine} : Parted halted m n → m.Spent := by
    exact Machine.Spent.of_never
  parted_windsDown {halted : Bool} {m n k : Machine} :
    Parted halted m n → m.WindsDown k → Parted halted k n := by exact fun h _ => h
  parted_right {halted : Bool} {m n k : Machine} :
    Parted false m n → Right n k → Parted halted m k := by exact fun h _ => h
  shown_of_parted {m n : Machine} : Parted false m n → ∀ name, ¬ hidden name := by
    exact fun h _ _ => h
  endless_of_related {w : World} {m m' : Machine} : Related w m m' → Endless w m m' := by
    exact fun _ => trivial

namespace Coupling

variable {α β σ : Type}

/-- There are excuses, or partings after which both runs go on. -/
def Lenient (c : Coupling) : Prop := ∃ m n, c.Excused m n ∨ c.Parted false m n

/-- None of the names is hidden. -/
def Shows (c : Coupling) (names : List String) : Prop := ∀ name ∈ names, ¬ c.hidden name

@[simp] theorem shows_nil (c : Coupling) : c.Shows [] := by simp [Shows]

@[simp] theorem shows_cons {c : Coupling} {name : String} {names : List String} :
    c.Shows (name :: names) ↔ ¬ c.hidden name ∧ c.Shows names := by
  simp [Shows]

@[simp] theorem shows_append {c : Coupling} {names names' : List String} :
    c.Shows (names ++ names') ↔ c.Shows names ∧ c.Shows names' := by
  simp [Shows, or_imp, forall_and]

/-- A coupling with excuses is about all code. -/
theorem Lenient.shows {c : Coupling} (hc : c.Lenient) (names : List String) : c.Shows names := by
  obtain ⟨m, n, he | hp⟩ := hc
  · exact fun name _ => c.shown_of_excused he name
  · exact fun name _ => c.shown_of_parted hp name

/-- **Two runs never part.** -/
class United (c : Coupling) : Prop where
  together (halted : Bool) (m n : Machine) : ¬ c.Parted halted m n

/-- Nothing is said about a left run without end once two runs have parted. -/
def Patient (c : Coupling) : Prop :=
  ∀ (halted : Bool) (m n : Machine), c.Parted halted m n → c.patientLeft

theorem Patient.of_united (c : Coupling) [c.United] : c.Patient :=
  fun _ _ _ hp => absurd hp (United.together _ _ _)

/-- **How a run that is out of gas may go on**: it stops for that, or it gave one of
some values with which it will. -/
def OutOfGas (Out : α → Prop) : Except Stop α → Prop
  | .ok a => Out a
  | .error s => s = .gasExhausted

/-- Whether a run came to a stop for good. -/
def halted : Except Stop α → Bool
  | .error .endless => true
  | _ => false

/-- **How two runs may end**, the values of which have a property, those of a run out
of gas apart. -/
inductive AgreeTo (c : Coupling) (w : c.World) (Out P : α → Prop) :
    Except Stop α × Machine → Except Stop α × Machine → Prop
  | ok {a : α} {m m' : Machine} : P a → c.Related w m m' →
    AgreeTo c w Out P (.ok a, m) (.ok a, m')
  | stop {s : Stop} {m m' : Machine} : s ≠ .endless → c.Related w m m' →
    AgreeTo c w Out P (.error s, m) (.error s, m')
  | endless {m m' : Machine} : c.Endless w m m' →
    AgreeTo c w Out P (.error .endless, m) (.error .endless, m')
  | endlessLeft {m : Machine} {o : Except Stop α × Machine} : c.patientLeft →
    AgreeTo c w Out P (.error .endless, m) o
  | endlessRight {m : Machine} {o : Except Stop α × Machine} : c.patientRight →
    AgreeTo c w Out P o (.error .endless, m)
  | excused {o o' : Except Stop α × Machine} : c.Excused o.2 o'.2 → AgreeTo c w Out P o o'
  | parted {o o' : Except Stop α × Machine} : OutOfGas Out o.1 →
    c.Parted (halted o'.1) o.2 o'.2 → AgreeTo c w Out P o o'

/-- **How two runs may end**, the values of which have a property. -/
abbrev Agree (c : Coupling) (w : c.World) (P : α → Prop) :
    Except Stop α × Machine → Except Stop α × Machine → Prop :=
  AgreeTo c w (fun _ => False) P

/-- **Two evaluations do the same**, and the values they give have a property, those
of a run out of gas apart. -/
structure SimTo (c : Coupling) (Out P : α → Prop) (x y : Eval α) : Prop where
  total : c.Lenient → ∀ a, P a
  left : c.Lenient → ∀ m, c.Left m (x.on m).2
  right : c.Lenient → ∀ m, c.Right m (y.on m).2
  agree {w : c.World} {m m' : Machine} : c.Related w m m' →
    c.AgreeTo w Out P (x.on m) (y.on m')

/-- **Two evaluations do the same**, and the values they give have a
property. A run that is out of gas gives no value. -/
abbrev SimOf (c : Coupling) (P : α → Prop) (x y : Eval α) : Prop := c.SimTo (fun _ => False) P x y

/-- **Two evaluations do the same.** -/
abbrev Sim (c : Coupling) (x y : Eval α) : Prop := c.SimOf (fun _ => True) x y

variable {c : Coupling} {Out P : α → Prop}

theorem OutOfGas.mono {Out' : α → Prop} (hOut : ∀ a, Out a → Out' a) {r : Except Stop α}
    (h : OutOfGas Out r) : OutOfGas Out' r := by
  match r, h with
  | .ok a, h => exact hOut a h
  | .error _, h => exact h

/-- Where no value is given the stop is there. -/
theorem OutOfGas.eq {r : Except Stop α} (h : OutOfGas (fun _ => False) r) :
    r = .error .gasExhausted := by
  match r, h with
  | .error _, h => exact congrArg _ h

theorem AgreeTo.mono {w : c.World} {Out' P' : α → Prop} (hOut : ∀ a, Out a → Out' a)
    (hP : ∀ a, P a → P' a) {o o' : Except Stop α × Machine} (h : c.AgreeTo w Out P o o') :
    c.AgreeTo w Out' P' o o' := by
  cases h with
  | ok ha hR => exact .ok (hP _ ha) hR
  | stop hs hR => exact .stop hs hR
  | endless he => exact .endless he
  | endlessLeft hp => exact .endlessLeft hp
  | endlessRight hp => exact .endlessRight hp
  | excused he => exact .excused he
  | parted ho hp => exact .parted (ho.mono hOut) hp

theorem SimTo.mono {Out' P' : α → Prop} {x y : Eval α} (h : c.SimTo Out P x y)
    (hOut : ∀ a, Out a → Out' a) (hP : ∀ a, P a → P' a) : c.SimTo Out' P' x y where
  total hc a := hP a (h.total hc a)
  left := h.left
  right := h.right
  agree hR := (h.agree hR).mono hOut hP

theorem SimOf.mono {P' : α → Prop} {x y : Eval α} (h : c.SimOf P x y)
    (hP : ∀ a, P a → P' a) : c.SimOf P' x y :=
  SimTo.mono h (fun _ => id) hP

theorem SimOf.sim {x y : Eval α} (h : c.SimOf P x y) : c.Sim x y :=
  h.mono fun _ _ => trivial

/-- A run that is out of gas need not give a value. -/
theorem SimOf.to {x y : Eval α} (h : c.SimOf P x y) : c.SimTo Out P x y :=
  SimTo.mono h (fun _ => False.elim) fun _ => id

/-- Runs that never part need not be told what they give out of gas. -/
theorem SimTo.of_united [c.United] {x y : Eval α} (h : c.SimTo Out P x y) :
    c.SimOf P x y where
  total := h.total
  left := h.left
  right := h.right
  agree {w m m'} hR := by
    have hxy := h.agree hR
    generalize x.on m = o at hxy ⊢
    generalize y.on m' = o' at hxy ⊢
    cases hxy with
    | ok ha hR => exact .ok ha hR
    | stop hs hR => exact .stop hs hR
    | endless he => exact .endless he
    | endlessLeft hp => exact .endlessLeft hp
    | endlessRight hp => exact .endlessRight hp
    | excused he => exact .excused he
    | parted _ hp => exact absurd hp (United.together _ _ _)

/-! ## Winding down -/

/-- **Without gas an evaluation winds down**: it is a left run without end of which
nothing is said, or it stops for the lack of gas or gives one of some values, and
nothing happens on the way. -/
def Unwinds (c : Coupling) (Out : α → Prop) (x : Eval α) : Prop :=
  ∀ (halted : Bool) (m n : Machine), c.Parted halted m n →
    c.patientLeft ∧ (x.on m).1 = .error .endless ∨
      OutOfGas Out (x.on m).1 ∧ m.WindsDown (x.on m).2

namespace Unwinds

variable {Out' : β → Prop}

theorem of_united [c.United] (x : Eval α) : c.Unwinds Out x :=
  fun _ _ _ hp => absurd hp (United.together _ _ _)

theorem mono {Out₁ : α → Prop} {x : Eval α} (h : c.Unwinds Out x) (hOut : ∀ a, Out a → Out₁ a) :
    c.Unwinds Out₁ x :=
  fun _ _ _ hp => (h _ _ _ hp).imp id fun h => ⟨h.1.mono hOut, h.2⟩

theorem pure {a : α} (ha : Out a) : c.Unwinds Out (Pure.pure a) :=
  fun _ _ _ _ => .inr ⟨ha, .refl _⟩

/-- The lack of gas goes through. -/
theorem throw : c.Unwinds Out (MonadExcept.throw Stop.gasExhausted : Eval α) :=
  fun _ _ _ _ => .inr ⟨rfl, .refl _⟩

theorem endless (hp : c.patientLeft) :
    c.Unwinds Out (MonadExcept.throw Stop.endless : Eval α) :=
  fun _ _ _ _ => .inl ⟨hp, rfl⟩

theorem tidy {f : Machine → Machine} (hf : ∀ m : Machine, m.WindsDown (f m)) :
    c.Unwinds (fun _ => True) (modify f : Eval Unit) :=
  fun _ _ _ _ => .inr ⟨trivial, hf _⟩

theorem attempt {x : Eval α} (h : c.Unwinds Out x) :
    c.Unwinds (OutOfGas Out) (Eval.attempt x) := by
  intro halted m n hp
  have hx := h _ _ _ hp
  rw [Eval.on_attempt]
  generalize x.on m = o at hx ⊢
  obtain ⟨r, k⟩ := o
  rcases hx with ⟨hpl, hx⟩ | ⟨hx, hdown⟩
  · cases hx
    exact .inl ⟨hpl, rfl⟩
  · have hr : r ≠ .error .endless := by
      rintro rfl
      cases hx
    rw [Eval.leaving_of_ne hr]
    exact .inr ⟨hx, hdown⟩

theorem charge (amount : Nat) : c.Unwinds (fun _ => False) (Eval.charge amount) := by
  refine fun _ _ _ hp => .inr ?_
  rw [(c.spent_of_parted hp).on_charge]
  exact ⟨rfl, .charge _ _⟩

theorem bind {x : Eval α} {f : α → Eval β} (h : c.Unwinds Out x)
    (hf : ∀ a, Out a → c.Unwinds Out' (f a)) : c.Unwinds Out' (x >>= f) := by
  intro halted m n hp
  have hx := h _ _ _ hp
  rw [Eval.on_bind]
  generalize x.on m = o at hx ⊢
  obtain ⟨r, k⟩ := o
  cases r with
  | error s => exact hx.imp (fun h => ⟨h.1, congrArg _ (Except.error.inj h.2)⟩) id
  | ok a =>
    obtain ⟨-, hx⟩ | ⟨hx, hdown⟩ := hx
    · cases hx
    · exact (hf a hx _ _ _ (c.parted_windsDown hp hdown)).imp id fun h => ⟨h.1, hdown.trans h.2⟩

end Unwinds

/-! ## Sequences -/

theorem SimTo.pure {a : α} (ha : P a) (ht : c.Lenient → ∀ a, P a) :
    c.SimTo Out P (Pure.pure a) (Pure.pure a) where
  total := ht
  left _ m := c.left_refl m
  right _ m := c.right_refl m
  agree hR := .ok ha hR

theorem SimOf.pure {a : α} (ha : P a) (ht : c.Lenient → ∀ a, P a) :
    c.SimOf P (Pure.pure a) (Pure.pure a) :=
  SimTo.pure ha ht

theorem Sim.pure (a : α) : c.Sim (Pure.pure a) (Pure.pure a) :=
  SimOf.pure trivial fun _ _ => trivial

theorem SimOf.throw (s : Stop) (ht : c.Lenient → ∀ a, P a) :
    c.SimOf P (MonadExcept.throw s) (MonadExcept.throw s) where
  total := ht
  left _ m := c.left_refl m
  right _ m := c.right_refl m
  agree hR := by
    cases s with
    | endless => exact .endless (c.endless_of_related hR)
    | _ => exact .stop (by simp) hR

theorem Sim.throw (s : Stop) : c.Sim (throw s : Eval α) (throw s) :=
  SimOf.throw s fun _ _ => trivial

/-- Nothing is undone by what runs second. -/
theorem evolves_of_bind {K : Machine → Machine → Prop} (hK : ∀ m, K m m) (x : Eval α)
    {f : α → Eval β} (hf : ∀ a m, K m ((f a).on m).2) (m : Machine) :
    K (x.on m).2 ((x >>= f).on m).2 := by
  rw [Eval.on_bind]
  rcases x.on m with ⟨a | s, n⟩
  · exact hK n
  · exact hf _ n

/-- Runs that parted stay so, whatever the right one runs second. -/
theorem Parted.bind {m : Machine} {o : Except Stop α × Machine}
    (hp : c.Parted (halted o.1) m o.2) {f : α → Eval β}
    (hf : c.Lenient → ∀ a m, c.Right m ((f a).on m).2) :
    let o' := match o with
      | (.ok a, n) => (f a).on n
      | (.error s, n) => (.error s, n)
    c.Parted (halted o'.1) m o'.2 := by
  obtain ⟨r, n⟩ := o
  match r, hp with
  | .ok a, hp => exact c.parted_right hp (hf ⟨m, n, .inr hp⟩ a n)
  | .error .endless, hp | .error (.fault _), hp | .error (.returns _), hp | .error .breaks, hp
  | .error .continues, hp | .error .gasExhausted, hp => exact hp

/-- What runs second starts on machines that are alike, or after a run that is out of
gas. -/
theorem AgreeTo.bind {Out' Q : β → Prop} {w : c.World} {x y : Eval α} {m m' : Machine}
    (h : c.AgreeTo w Out P (x.on m) (y.on m')) {f g : α → Eval β}
    (hf : c.Lenient → ∀ a m, c.Left m ((f a).on m).2)
    (hg : c.Lenient → ∀ a m, c.Right m ((g a).on m).2)
    (hfg : ∀ {a n n'}, P a → c.Related w n n' → c.AgreeTo w Out' Q ((f a).on n) ((g a).on n'))
    (hOut : ∀ a, Out a → c.Unwinds Out' (f a)) :
    c.AgreeTo w Out' Q ((x >>= f).on m) ((y >>= g).on m') := by
  have hleft (hc : c.Lenient) := evolves_of_bind c.left_refl x (hf hc) m
  have hright (hc : c.Lenient) := evolves_of_bind c.right_refl y (hg hc) m'
  rw [Eval.on_bind] at hleft ⊢
  rw [Eval.on_bind] at hright ⊢
  generalize x.on m = o at hleft h ⊢
  generalize y.on m' = o' at hright h ⊢
  cases h with
  | ok ha hR => exact hfg ha hR
  | stop hs hR => exact .stop hs hR
  | endless he => exact .endless he
  | endlessLeft hp => exact .endlessLeft hp
  | endlessRight hp => exact .endlessRight hp
  | excused he =>
    have hc : c.Lenient := ⟨_, _, .inl he⟩
    exact .excused (c.excused_mono he (hleft hc) (hright hc))
  | parted ho hp =>
    have hpart := Parted.bind hp hg
    obtain ⟨r, n⟩ := o
    match r, ho with
    | .error s, ho => exact .parted ho hpart
    | .ok a, ho =>
      rcases hOut a ho _ _ _ hp with ⟨hpl, hend⟩ | ⟨hend, hdown⟩
      · show c.AgreeTo w Out' Q ((f a).on n) _
        rw [show (f a).on n = (.error .endless, ((f a).on n).2) from Prod.ext hend rfl]
        exact .endlessLeft hpl
      · exact .parted hend (c.parted_windsDown hpart hdown)

/-- What runs second does the same after the same, and winds down after a run that is
out of gas. -/
theorem SimTo.bindOf {Out' Q : β → Prop} {x y : Eval α} {f g : α → Eval β}
    (h : c.SimTo Out P x y) (hfg : ∀ a, P a → c.SimTo Out' Q (f a) (g a))
    (hOut : ∀ a, Out a → c.Unwinds Out' (f a)) (hQ : c.Lenient → ∀ b, Q b) :
    c.SimTo Out' Q (x >>= f) (y >>= g) := by
  have hf (hc : c.Lenient) (a : α) := (hfg a (h.total hc a)).left hc
  have hg (hc : c.Lenient) (a : α) := (hfg a (h.total hc a)).right hc
  have hleft (hc : c.Lenient) := evolves_of_bind c.left_refl x (hf hc)
  have hright (hc : c.Lenient) := evolves_of_bind c.right_refl y (hg hc)
  exact ⟨hQ, fun hc m => c.left_trans (h.left hc m) (hleft hc m),
    fun hc m => c.right_trans (h.right hc m) (hright hc m),
    fun hR => (h.agree hR).bind hf hg (fun ha hR => (hfg _ ha).agree hR) hOut⟩

theorem SimOf.bindOf {Out Q : β → Prop} {x y : Eval α} {f g : α → Eval β} (h : c.SimOf P x y)
    (hfg : ∀ a, P a → c.SimTo Out Q (f a) (g a)) (hQ : c.Lenient → ∀ b, Q b) :
    c.SimTo Out Q (x >>= f) (y >>= g) :=
  SimTo.bindOf h hfg (fun _ => False.elim) hQ

theorem SimOf.bind {x y : Eval α} {f g : α → Eval β} (h : c.SimOf P x y)
    (hfg : ∀ a, P a → c.Sim (f a) (g a)) : c.Sim (x >>= f) (y >>= g) :=
  SimOf.bindOf h hfg fun _ _ => trivial

theorem Sim.bind {x y : Eval α} {f g : α → Eval β} (h : c.Sim x y)
    (hfg : ∀ a, c.Sim (f a) (g a)) : c.Sim (x >>= f) (y >>= g) :=
  SimOf.bind h fun a _ => hfg a

/-- A left run without end is as good as any. -/
theorem SimOf.endless_left (hp : c.patientLeft) {x y : Eval α} (h : c.SimOf P x y) :
    c.SimOf P (MonadExcept.throw Stop.endless) y where
  total := h.total
  left _ m := c.left_refl m
  right := h.right
  agree _ := .endlessLeft hp

/-- So is a right one. -/
theorem SimOf.endless_right (hp : c.patientRight) {x y : Eval α} (h : c.SimOf P x y) :
    c.SimOf P x (MonadExcept.throw Stop.endless) where
  total := h.total
  left := h.left
  right _ m := c.right_refl m
  agree _ := .endlessRight hp

theorem Sim.map {x y : Eval α} (f : α → β) (h : c.Sim x y) : c.Sim (f <$> x) (f <$> y) := by
  rw [map_eq_pure_bind, map_eq_pure_bind]
  exact Sim.bind h fun a => Sim.pure (f a)

theorem Sim.ite {p : Prop} [Decidable p] {x y x' y' : Eval α} (h : c.Sim x y)
    (h' : c.Sim x' y') : c.Sim (if p then x else x') (if p then y else y') := by
  split
  · exact h
  · exact h'

theorem Sim.mapM {f g : α → Eval β} (h : ∀ a, c.Sim (f a) (g a)) (l : List α) :
    c.Sim (l.mapM f) (l.mapM g) := by
  induction l with
  | nil => exact Sim.pure []
  | cons a l ih =>
    rw [List.mapM_cons, List.mapM_cons]
    exact Sim.bind (h a) fun b => Sim.bind ih fun bs => Sim.pure (b :: bs)

/-! ## Stops -/

theorem Sim.fail (f : Fault) : c.Sim (Eval.fail f : Eval α) (Eval.fail f) := Sim.throw _

theorem Sim.ofStop (r : Except Stop α) : c.Sim (Eval.ofStop r) (Eval.ofStop r) := by
  cases r with
  | ok a => exact Sim.pure a
  | error s => exact Sim.throw s

theorem Sim.ofFault (r : Except Fault α) : c.Sim (Eval.ofFault r) (Eval.ofFault r) := by
  cases r with
  | ok a => exact Sim.pure a
  | error f => exact Sim.fail f

theorem SimOf.ofTypeFault {r : Except TypeFault α} (hP : ∀ a, r = .ok a → P a)
    (ht : c.Lenient → ∀ a, P a) : c.SimOf P (Eval.ofTypeFault r) (Eval.ofTypeFault r) := by
  cases r with
  | ok a => exact SimOf.pure (hP a rfl) ht
  | error why => exact SimOf.throw _ ht

theorem Sim.ofTypeFault (r : Except TypeFault α) :
    c.Sim (Eval.ofTypeFault r) (Eval.ofTypeFault r) :=
  SimOf.ofTypeFault (fun _ _ => trivial) fun _ _ => trivial

theorem Sim.ofAnswer (a : Option α) : c.Sim (Eval.ofAnswer a) (Eval.ofAnswer a) := by
  cases a with
  | none => exact Sim.throw _
  | some a => exact Sim.pure a

/-- The value, if there is one, has a property. -/
def IfOk (P : α → Prop) (r : Except Stop α) : Prop := ∀ a, r = .ok a → P a

theorem ifOk_ok {a : α} (ha : P a) : IfOk P (.ok a) := by
  rintro _ ⟨⟩
  exact ha

theorem ifOk_error (s : Stop) : IfOk P (.error s) := by
  rintro _ ⟨⟩

/-- Looking at how an evaluation ends leaves the machine as it is. -/
theorem on_attempt_snd (x : Eval α) (m : Machine) : ((Eval.attempt x).on m).2 = (x.on m).2 := by
  rw [Eval.on_attempt]
  obtain ⟨r, n⟩ := x.on m
  by_cases hr : r = .error .endless
  · rw [hr]
    rfl
  · rw [Eval.leaving_of_ne hr]
    rfl

theorem SimTo.attempt {x y : Eval α} (h : c.SimTo Out P x y) :
    c.SimTo (OutOfGas Out) (IfOk P) (Eval.attempt x) (Eval.attempt y) where
  total hc _ a _ := h.total hc a
  left hc m := by rw [on_attempt_snd]; exact h.left hc m
  right hc m := by rw [on_attempt_snd]; exact h.right hc m
  agree {w m m'} hR := by
    have hxy := h.agree hR
    have hx := on_attempt_snd x m
    have hy := on_attempt_snd y m'
    rw [Eval.on_attempt] at hx ⊢
    rw [Eval.on_attempt] at hy ⊢
    generalize x.on m = o at hx hxy ⊢
    generalize y.on m' = o' at hy hxy ⊢
    cases hxy with
    | ok ha hR => exact .ok (ifOk_ok ha) hR
    | stop hs hR =>
      rw [Eval.leaving_of_ne (by simpa using hs), Eval.leaving_of_ne (by simpa using hs)]
      exact .ok (ifOk_error _) hR
    | endless he => exact .endless he
    | endlessLeft hp => exact .endlessLeft hp
    | endlessRight hp =>
      rw [Eval.leaving_endless]
      exact .endlessRight hp
    | excused he => exact .excused (by rw [hx, hy]; exact he)
    | parted ho hp =>
      obtain ⟨r, n⟩ := o
      have hr : r ≠ .error .endless := by
        rintro rfl
        cases ho
      rw [Eval.leaving_of_ne hr]
      refine .parted ho ?_
      obtain ⟨r', n'⟩ := o'
      match r', hp with
      | .error .endless, hp => exact hp
      | .ok _, hp | .error (.fault _), hp | .error (.returns _), hp | .error .breaks, hp
      | .error .continues, hp | .error .gasExhausted, hp => exact hp

/-- What is done with a result that was looked at. It may be the lack of gas. -/
theorem SimOf.attempt_bindOf {Q : β → Prop} {x y : Eval α} (h : c.SimOf P x y)
    {f g : Except Stop α → Eval β} (hfg : ∀ r, IfOk P r → c.SimOf Q (f r) (g r))
    (hend : c.Unwinds (fun _ => False) (f (.error .gasExhausted)))
    (hQ : c.Lenient → ∀ b, Q b) :
    c.SimOf Q (Eval.attempt x >>= f) (Eval.attempt y >>= g) := by
  refine SimTo.bindOf (SimTo.attempt h) hfg (fun r hr => ?_) hQ
  rw [hr.eq]
  exact hend

/-- To look at a result and go on with it is to do nothing. -/
theorem attempt_bind_ofStop (x : Eval α) : Eval.attempt x >>= Eval.ofStop = x := by
  funext m
  simp only [Eval.attempt, bind, EStateM.bind]
  cases x m with
  | ok a n => rfl
  | error s n => cases s <;> rfl

/-- A result that is looked at is no lack of one. -/
theorem attempt_bind_congr (x : Eval α) {f g : Except Stop α → Eval β}
    (h : ∀ r, r ≠ .error .endless → f r = g r) :
    Eval.attempt x >>= f = Eval.attempt x >>= g := by
  funext m
  simp only [Eval.attempt, bind, EStateM.bind]
  cases x m with
  | ok a n =>
    show f (.ok a) n = g (.ok a) n
    rw [h _ (by simp)]
  | error s n =>
    cases s with
    | endless => rfl
    | fault | returns | breaks | continues | gasExhausted =>
      exact congrFun (h _ (by simp)) n

/-- What is done with a result that was looked at. -/
theorem Sim.attempt_bind {x y : Eval α} (h : c.Sim x y) {f g : Except Stop α → Eval β}
    (hfg : ∀ r, r ≠ .error .endless → c.Sim (f r) (g r))
    (hend : c.Unwinds (fun _ => False) (f (.error .gasExhausted))) :
    c.Sim (Eval.attempt x >>= f) (Eval.attempt y >>= g) := by
  let cut (f : Except Stop α → Eval β) : Except Stop α → Eval β
    | .error .endless => MonadExcept.throw .endless
    | r => f r
  have hcut (f : Except Stop α → Eval β) (r : Except Stop α) (hr : r ≠ .error .endless) :
      f r = cut f r := by
    match r, hr with
    | .ok _, _ | .error (.fault _), _ | .error (.returns _), _ | .error .breaks, _
    | .error .continues, _ | .error .gasExhausted, _ => rfl
  rw [attempt_bind_congr x (hcut f), attempt_bind_congr y (hcut g)]
  refine SimOf.attempt_bindOf h (fun r _ => ?_) hend fun _ _ => trivial
  by_cases hr : r = .error .endless
  · subst hr
    exact Sim.throw .endless
  · rw [← hcut f r hr, ← hcut g r hr]
    exact hfg r hr

theorem SimOf.ofStop {r : Except Stop α} (hr : IfOk P r) (ht : c.Lenient → ∀ a, P a) :
    c.SimOf P (Eval.ofStop r) (Eval.ofStop r) := by
  cases r with
  | ok a => exact SimOf.pure (hr a rfl) ht
  | error s => exact SimOf.throw s ht

/-! ## Reading -/

/-- Two runs read the same where the machines that are alike agree. -/
theorem Sim.read {x : Eval α} {g : Machine → α} (hx : ∀ m, x.on m = (.ok (g m), m))
    (hP : c.Lenient → ∀ a, P a)
    (hg : ∀ {w : c.World} {m m' : Machine}, c.Related w m m' → g m = g m' ∧ P (g m)) :
    c.SimOf P x x where
  total := hP
  left _ m := by rw [hx]; exact c.left_refl m
  right _ m := by rw [hx]; exact c.right_refl m
  agree hR := by
    obtain ⟨hg, hP⟩ := hg hR
    rw [hx, hx, ← hg]
    exact .ok hP hR

end Coupling

end MeteredScript
