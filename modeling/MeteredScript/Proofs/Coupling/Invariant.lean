import MeteredScript.Proofs.Coupling.Bounded

/-!
# Invariants as couplings

A run that keeps a property of its machine is a run beside itself: two machines
are alike if they are the same machine and it has the property. So what was
shown of couplings gives the invariants of evaluation.

The two runs need not use the same evaluator. One may be watched, that is,
check the machine before everything that it does. If no check ever fails, the
watched run is the same as the other one, and that is how a property is shown
to hold throughout a run and not only at its end.
-/

namespace MeteredScript

variable {α β : Type}

/-! ## Values -/

/-- Whatever value an evaluation gives, on any machine, has a property. -/
def Eval.Gives (P : α → Prop) (x : Eval α) : Prop := ∀ m a n, x.on m = (.ok a, n) → P a

namespace Eval.Gives

variable {P : α → Prop} {Q : β → Prop}

theorem pure {a : α} (ha : P a) : Gives P (Pure.pure a) := by
  intro m b n h
  rw [on_pure] at h
  cases h
  exact ha

theorem throw (s : Stop) : Gives P (MonadExcept.throw s) := by
  intro m b n h
  rw [on_throw] at h
  cases h

theorem bind {x : Eval α} {f : α → Eval β} (hf : ∀ a, Gives Q (f a)) : Gives Q (x >>= f) := by
  intro m b n h
  rw [on_bind] at h
  split at h
  · exact hf _ _ _ _ h
  · cases h

/-- What runs second may make use of what the first gives. -/
theorem bind_gives {x : Eval α} {f : α → Eval β} (hx : Gives P x)
    (hf : ∀ a, P a → Gives Q (f a)) : Gives Q (x >>= f) := by
  intro m b n h
  rw [on_bind] at h
  split at h
  · rename_i a m' ran
    exact hf a (hx m a m' ran) _ _ _ h
  · cases h

theorem attempt {x : Eval α} (hx : Gives P x) :
    Gives (fun r => ∀ a, r = .ok a → P a) (Eval.attempt x) := by
  rintro m _ n h a rfl
  by_cases endless : (x.on m).1 = .error .endless
  · rw [on_attempt_of_endless (Prod.ext endless rfl)] at h
    cases h
  · rw [on_attempt_of_ne rfl endless, Prod.mk.injEq, Except.ok.injEq] at h
    exact hx m a (x.on m).2 (Prod.ext h.1 rfl)

end Eval.Gives

/-! ## Postconditions -/

/-- **Two runs of an evaluation have the same outcome under a cover**, one with a
property, unless both are without end. The second ends with what the first ends with, and
its machine is that of the first with something covered. -/
def AlikeUnder (cover : Machine → Machine) (Q : Except Stop α → Machine → Prop)
    (o o' : Except Stop α × Machine) : Prop :=
  (o.1 = .error .endless ∧ o'.1 = .error .endless) ∨
    (o' = (o.1, cover o.2) ∧ o.1 ≠ .error .endless ∧ Q o.1 o.2)

namespace AlikeUnder

variable {cover : Machine → Machine} {Q : Except Stop α → Machine → Prop}
  {R : Except Stop β → Machine → Prop}

theorem ok {a : α} {m : Machine} (h : Q (.ok a) m) :
    AlikeUnder cover Q (.ok a, m) (.ok a, cover m) :=
  .inr ⟨rfl, by simp, h⟩

theorem error {s : Stop} {m : Machine} (h : Q (.error s) m) :
    AlikeUnder cover Q (.error s, m) (.error s, cover m) := by
  by_cases hs : s = .endless
  · subst hs
    exact .inl ⟨rfl, rfl⟩
  · exact .inr ⟨rfl, by simpa using hs, h⟩

theorem mono {Q' : Except Stop α → Machine → Prop} {o o' : Except Stop α × Machine}
    (h : AlikeUnder cover Q o o') (hQ : ∀ r m, Q r m → Q' r m) : AlikeUnder cover Q' o o' := by
  rcases h with h | ⟨heq, hne, h⟩
  · exact .inl h
  · exact .inr ⟨heq, hne, hQ _ _ h⟩

theorem fst_eq {o o' : Except Stop α × Machine} (h : AlikeUnder cover Q o o') : o'.1 = o.1 := by
  rcases h with ⟨h, h'⟩ | ⟨heq, -, -⟩
  · rw [h, h']
  · rw [heq]

/-- What runs second starts where the first ends. -/
theorem bind {x y : Eval α} {f g : α → Eval β} {m m' : Machine}
    (h : AlikeUnder cover Q (x.on m) (y.on m'))
    (hok : ∀ a n, Q (.ok a) n → AlikeUnder cover R ((f a).on n) ((g a).on (cover n)))
    (herror : ∀ s n, Q (.error s) n → R (.error s) n) :
    AlikeUnder cover R ((x >>= f).on m) ((y >>= g).on m') := by
  rw [Eval.on_bind, Eval.on_bind]
  generalize x.on m = o at h
  generalize y.on m' = o' at h
  obtain ⟨r, n⟩ := o
  obtain ⟨r', n'⟩ := o'
  rcases h with ⟨h, h'⟩ | ⟨heq, hne, h⟩
  · dsimp only at h h'
    subst h h'
    exact .inl ⟨rfl, rfl⟩
  · injection heq with hr hn
    subst hr hn
    cases r' with
    | ok a => exact hok a n h
    | error s => exact error (herror s n h)

/-- The same is made of the same outcome. -/
theorem leaving {o o' : Except Stop α × Machine} (h : AlikeUnder cover Q o o')
    {wrap : Except Stop α → Except Stop β} {tidy tidy' : Machine → Machine}
    (hwrap : ∀ r, r ≠ .error .endless → wrap r ≠ .error .endless)
    (htidy : ∀ n, tidy' (cover n) = cover (tidy n))
    (hR : ∀ r n, Q r n → R (wrap r) (tidy n)) :
    AlikeUnder cover R (Eval.leaving wrap tidy o) (Eval.leaving wrap tidy' o') := by
  obtain ⟨r, n⟩ := o
  obtain ⟨r', n'⟩ := o'
  rcases h with ⟨h, h'⟩ | ⟨heq, hne, h⟩
  · dsimp only at h h'
    subst h h'
    exact .inl ⟨rfl, rfl⟩
  · rw [heq, Eval.leaving_of_ne hne, Eval.leaving_of_ne hne, htidy]
    exact .inr ⟨rfl, hwrap r hne, hR r n h⟩

/-- What is done with an outcome that was looked at. -/
theorem attempt_bind {x y : Eval α} {f g : Except Stop α → Eval β} {m m' : Machine}
    (h : AlikeUnder cover Q (x.on m) (y.on m'))
    (hf : ∀ r n, Q r n → AlikeUnder cover R ((f r).on n) ((g r).on (cover n))) :
    AlikeUnder cover R ((Eval.attempt x >>= f).on m) ((Eval.attempt y >>= g).on m') := by
  have hattempt : AlikeUnder cover (fun r n => ∃ a, r = .ok a ∧ Q a n) ((Eval.attempt x).on m)
      ((Eval.attempt y).on m') := by
    rw [Eval.on_attempt, Eval.on_attempt]
    exact h.leaving (fun r _ => by simp) (fun _ => rfl) fun r n hn => ⟨r, rfl, hn⟩
  refine hattempt.bind (fun r n hn => ?_) fun s n hn => by simp at hn
  obtain ⟨a, ha, hn⟩ := hn
  cases ha
  exact hf r n hn

end AlikeUnder

/-- **Two runs of an evaluation have the same outcome**, one with a property,
unless both are without end. -/
def Alike (Q : Except Stop α → Machine → Prop) (o o' : Except Stop α × Machine) : Prop :=
  (o.1 = .error .endless ∧ o'.1 = .error .endless) ∨
    (o' = o ∧ o.1 ≠ .error .endless ∧ Q o.1 o.2)

/-- Nothing is covered then. -/
theorem alike_iff {Q : Except Stop α → Machine → Prop} {o o' : Except Stop α × Machine} :
    Alike Q o o' ↔ AlikeUnder id Q o o' := Iff.rfl

namespace Alike

variable {Q : Except Stop α → Machine → Prop} {R : Except Stop β → Machine → Prop}

theorem ok {a : α} {m : Machine} (h : Q (.ok a) m) : Alike Q (.ok a, m) (.ok a, m) :=
  alike_iff.2 (.ok h)

theorem error {s : Stop} {m : Machine} (h : Q (.error s) m) :
    Alike Q (.error s, m) (.error s, m) :=
  alike_iff.2 (.error h)

theorem mono {Q' : Except Stop α → Machine → Prop} {o o' : Except Stop α × Machine}
    (h : Alike Q o o') (hQ : ∀ r m, Q r m → Q' r m) : Alike Q' o o' :=
  alike_iff.2 ((alike_iff.1 h).mono hQ)

theorem fst_eq {o o' : Except Stop α × Machine} (h : Alike Q o o') : o'.1 = o.1 :=
  (alike_iff.1 h).fst_eq

/-- What runs second starts where the first ends. -/
theorem bind {x y : Eval α} {f g : α → Eval β} {m : Machine} (h : Alike Q (x.on m) (y.on m))
    (hok : ∀ a n, Q (.ok a) n → Alike R ((f a).on n) ((g a).on n))
    (herror : ∀ s n, Q (.error s) n → R (.error s) n) :
    Alike R ((x >>= f).on m) ((y >>= g).on m) :=
  alike_iff.2 ((alike_iff.1 h).bind hok herror)

/-- The same is made of the same outcome. -/
theorem leaving {o o' : Except Stop α × Machine} (h : Alike Q o o')
    {wrap : Except Stop α → Except Stop β} {tidy : Machine → Machine}
    (hwrap : ∀ r, r ≠ .error .endless → wrap r ≠ .error .endless)
    (hR : ∀ r n, Q r n → R (wrap r) (tidy n)) :
    Alike R (Eval.leaving wrap tidy o) (Eval.leaving wrap tidy o') :=
  alike_iff.2 ((alike_iff.1 h).leaving hwrap (fun _ => rfl) hR)

/-- What is done with an outcome that was looked at. -/
theorem attempt_bind {x y : Eval α} {f g : Except Stop α → Eval β} {m : Machine}
    (h : Alike Q (x.on m) (y.on m))
    (hf : ∀ r n, Q r n → Alike R ((f r).on n) ((g r).on n)) :
    Alike R ((Eval.attempt x >>= f).on m) ((Eval.attempt y >>= g).on m) :=
  alike_iff.2 ((alike_iff.1 h).attempt_bind hf)

end Alike

namespace Coupling

variable {W : Type} {Inv : W → Machine → Prop}

/-- **The coupling of each machine with itself**, as long as it has a
property. -/
def keeping (Inv : W → Machine → Prop) : Coupling where
  World := W
  Related w m m' := m' = m ∧ Inv w m
  Left _ _ := True
  Right _ _ := True
  Excused _ _ := False
  patientLeft := False
  patientRight := False
  hidden _ := False
  left_refl _ := trivial
  left_trans _ _ := trivial
  right_refl _ := trivial
  right_trans _ _ := trivial
  excused_mono h _ _ := h
  shown_of_excused h _ _ := h

theorem keeping_shows (names : List String) : (keeping Inv).Shows names := by
  simp [Shows, keeping]

theorem keeping_not_lenient : ¬ (keeping Inv).Lenient := by
  simp [Lenient, keeping]

instance : (keeping Inv).United := ⟨fun _ _ _ h => h⟩

theorem keeping_agree_iff {w : W} {P : α → Prop} {o o' : Except Stop α × Machine} :
    (keeping Inv).Agree w P o o' ↔
      Alike (fun r n => Inv w n ∧ ∀ a, r = .ok a → P a) o o' := by
  constructor
  · intro h
    cases h with
    | ok ha hR =>
      obtain ⟨rfl, hI⟩ := hR
      exact .ok ⟨hI, ifOk_ok ha⟩
    | stop hs hR =>
      obtain ⟨rfl, hI⟩ := hR
      exact .error ⟨hI, ifOk_error _⟩
    | endless _ => exact .inl ⟨rfl, rfl⟩
    | endlessLeft hp | endlessRight hp => exact hp.elim
    | excused he => exact he.elim
    | parted _ hp => exact hp.elim
  · rintro (⟨h, h'⟩ | ⟨heq, hne, hI, hP⟩)
    · obtain ⟨r, n⟩ := o
      obtain ⟨r', n'⟩ := o'
      dsimp only at h h'
      subst h h'
      exact .endless trivial
    · subst heq
      obtain ⟨r, n⟩ := o'
      cases r with
      | ok a => exact .ok (hP a rfl) ⟨rfl, hI⟩
      | error s => exact .stop (fun hs => hne (by rw [hs])) ⟨rfl, hI⟩

theorem keeping_sim {P : α → Prop} {x y : Eval α}
    (h : ∀ w m, Inv w m → Alike (fun r n => Inv w n ∧ IfOk P r) (x.on m) (y.on m)) :
    (keeping Inv).SimOf P x y where
  total hl := absurd hl keeping_not_lenient
  left hl := absurd hl keeping_not_lenient
  right hl := absurd hl keeping_not_lenient
  agree := by
    rintro w m _ ⟨rfl, hI⟩
    exact keeping_agree_iff.2 (h w _ hI)

/-- Two runs that are coupled keep the property. -/
theorem SimOf.alike {P : α → Prop} {x y : Eval α} (h : (keeping Inv).SimOf P x y) {w : W}
    {m : Machine} (hI : Inv w m) : Alike (fun r n => Inv w n ∧ IfOk P r) (x.on m) (y.on m) :=
  keeping_agree_iff.1 (h.agree ⟨rfl, hI⟩)

/-- An evaluation that keeps the property is coupled with itself. -/
theorem keeping_self {x : Eval α} (h : ∀ w m, Inv w m → Inv w (x.on m).2) :
    (keeping Inv).Sim x x := by
  refine keeping_sim fun w m hI => ?_
  have hn := h w m hI
  generalize x.on m = o at hn
  obtain ⟨r, n⟩ := o
  cases r with
  | ok a => exact .ok ⟨hn, fun _ _ => trivial⟩
  | error s => exact .error ⟨hn, fun _ _ => trivial⟩

/-- **What has to be shown of a property** for evaluation to keep it. -/
structure Kept (Inv : W → Machine → Prop) : Prop where
  /-- It is about calls, handlers and scopes alone. -/
  congr {w : W} {m m' : Machine} : Inv w m → m'.config = m.config → m'.depth = m.depth →
    m'.handling = m.handling → m'.scopes = m.scopes → Inv w m'
  define {w : W} {m : Machine} (s : ScopeId) (name : String) (v : Value) : Inv w m →
    Inv w { m with scopes := m.scopes.define s name v }
  addScope {w : W} {m : Machine} (kind : ScopeKind) (parent : Option ScopeId)
    {state : Option GeneratorState} : (∀ s ∈ state, ∃ body, s = .notStarted body) → Inv w m →
    Inv w { m with scopes := (m.scopes.addScope kind parent state).2 }
  inFrame {α : Type} {P : α → Prop} {x y : Eval α} : (keeping Inv).SimOf P x y →
    (keeping Inv).SimOf (IfOk P) (Eval.inFrame x) (Eval.inFrame y)
  whileHandling {α : Type} (f : Fault) {x y : Eval α} : (keeping Inv).Sim x y →
    (keeping Inv).Sim (Eval.whileHandling f x) (Eval.whileHandling f y)

theorem Kept.lawful (h : Kept Inv) : (keeping Inv).Lawful where
  heap_eq := fun hR => by rw [hR.1]
  handled_eq := fun hR => by rw [hR.1]
  function_eq := fun hR id => by rw [hR.1]
  function_shown := fun _ _ => keeping_shows _
  own_eq := fun hR s name _ => by rw [hR.1]
  find_eq := fun hR s name _ => by rw [hR.1]
  charge amount := by
    refine keeping_self fun w m hI => ?_
    rw [Eval.on_charge]
    exact h.congr hI rfl rfl rfl rfl
  modifyHeap f := keeping_self fun w m hI => h.congr hI rfl rfl rfl rfl
  place r := keeping_self fun w m hI => h.congr hI rfl rfl rfl rfl
  newSerial := keeping_self fun w m hI => h.congr hI rfl rfl rfl rfl
  newFunction name f _ := keeping_self fun w m hI => h.congr hI rfl rfl rfl rfl
  print line := keeping_self fun w m hI => h.congr hI rfl rfl rfl rfl
  abort := keeping_self fun w m hI => h.congr hI rfl rfl rfl rfl
  define v _ := keeping_self fun w m hI => h.define _ _ v hI
  setAttribute object name v _ := by
    have hdefine (s : ScopeId) : (keeping Inv).Sim (Eval.define s name v) (Eval.define s name v) :=
      keeping_self fun w m hI => h.define s name v hI
    match object with
    | .classObject _ scope => exact hdefine scope
    | .int _ | .str _ | .bool _ | .none | .list _ | .tuple _ | .set _ | .dict _ | .function _ _
    | .builtin _ | .method _ _ _ | .generator _ _ | .exceptionClass _ | .exception _ _ _ _ =>
      exact Sim.fail _
  newScope kind parent :=
    keeping_self fun w m hI => h.addScope kind parent (by simp) hI
  newGenerator kind parent body _ :=
    keeping_self fun w m hI => h.addScope kind _ (by simp) hI
  newGeneratorExpression scope element first rest outer _ _ := by
    refine keeping_self fun w m hI => ?_
    rw [on_newGeneratorExpression]
    cases Cursor.ofValue m.heap outer with
    | error f => exact h.addScope _ _ (by simp) hI
    | ok cursor => exact h.define _ _ _ (h.addScope _ _ (by simp) hI)
  inFrame h' := (h.inFrame h').to
  whileHandling := h.whileHandling

end Coupling

/-! ## Watched runs -/

/-- Run an evaluation if the machine passes a check, else sound an alarm. -/
def Eval.checked (check : Machine → Bool) (alarm : Eval α) (x : Eval α) : Eval α := do
  if check (← get) then x else alarm

/-- **An evaluator that checks the machine** before each of its operations. -/
def Evaluator.checked (check : Machine → Bool) (alarm : (α : Type) → Eval α) (ev : Evaluator) :
    Evaluator where
  eval e scope := Eval.checked check (alarm Value) (ev.eval e scope)
  exec s scope := Eval.checked check (alarm Unit) (ev.exec s scope)
  resume id r := Eval.checked check (alarm Value) (ev.resume id r)
  rounds := ev.rounds

namespace Coupling

variable {W : Type} {Inv : W → Machine → Prop}

/-- A check that the property passes is never noticed. -/
theorem SimOf.checked {P : α → Prop} {x y : Eval α} (h : (keeping Inv).SimOf P x y)
    {check : Machine → Bool} (hcheck : ∀ w m, Inv w m → check m = true) (alarm : Eval α) :
    (keeping Inv).SimOf P x (Eval.checked check alarm y) := by
  refine keeping_sim fun w m hI => ?_
  rw [Eval.checked, Eval.on_bind_ok (Eval.on_get m), if_pos (hcheck w m hI)]
  exact h.alike hI

/-- **No check is noticed** in a run that keeps the property. -/
theorem Couples.checked {ev ev' : Evaluator} (h : (keeping Inv).Couples ev ev')
    {check : Machine → Bool} (hcheck : ∀ w m, Inv w m → check m = true)
    {alarm : (α : Type) → Eval α}
    (hclose : ∀ id,
      (keeping Inv).Sim (closeGenerator ev id) (closeGenerator (ev'.checked check alarm) id)) :
    (keeping Inv).Couples ev (ev'.checked check alarm) where
  toLawful := h.toLawful
  eval hn := (h.eval hn).checked hcheck _
  exec hn := (h.exec hn).checked hcheck _
  resume id r := (h.resume id r).checked hcheck _
  close := hclose
  rounds := h.rounds

end Coupling

end MeteredScript
