import MeteredScript.Proofs.Comprehension.Start
import MeteredScript.Proofs.Dialogue.Frames

/-!
# A caller who asks for everything

A caller who takes all items of a generator sends `none` at each `yield`. What a
conversation with such a caller comes to is said by `Talk.Draws`: the items that are
handed over, how the conversation ends, and the machine it leaves.

`Yields` compares a run that collects values with such a conversation. It is put
together like a coupling: what both do alike adds no items, and what one does after
another adds its items behind.
-/

namespace MeteredScript

variable {α β γ δ : Type} {m n p : Machine}

namespace Talk

/-- The end of an evaluation as the end of a conversation. -/
def told : Except Stop α → Except Halt α
  | .ok a => .ok a
  | .error s => .error (.stop s)

/-- **What a caller draws who asks for everything**: the items that are handed over,
with how the conversation ends. What else the caller would do is left. -/
def Draws (t : Talk α) (m : Machine) (r : Except Stop α) (items : List Value) (n : Machine) :
    Prop :=
  ∀ more said, (t ⟨List.replicate items.length (.send .none) ++ more, said⟩).on m =
    (.ok (told r, ⟨more, said ++ items⟩), n)

namespace Draws

variable {t : Talk α} {r : Except Stop α} {items items' : List Value}

theorem pure (a : α) (m : Machine) : Draws (Pure.pure a) m (.ok a) [] m := by
  intro more said
  rw [List.append_nil]
  rfl

theorem lift {x : Eval α} (h : x.on m = (r, n)) (hr : r ≠ .error .endless) :
    (Talk.lift x).Draws m r [] n := by
  intro more said
  show (Eval.attempt x >>= _).on m = _
  rw [Eval.on_bind_ok (Eval.on_attempt_of_ne h hr), List.append_nil]
  cases r with
  | ok a => rfl
  | error s => rfl

/-- What is handed over second comes behind. -/
theorem bind {f : α → Talk β} {a : α} {r : Except Stop β} (h : t.Draws m (.ok a) items n)
    (hf : (f a).Draws n r items' p) : (t >>= f).Draws m r (items ++ items') p := by
  intro more said
  show (t _ >>= _).on m = _
  rw [List.length_append, ← List.replicate_append_replicate, List.append_assoc,
    Eval.on_bind_ok (h _ said)]
  show (f a _).on n = _
  rw [hf more, List.append_assoc]

theorem bind_error {f : α → Talk β} {s : Stop} (h : t.Draws m (.error s) items n) :
    (t >>= f).Draws m (.error s) items n := by
  intro more said
  show (t _ >>= _).on m = _
  rw [Eval.on_bind_ok (h more said)]
  rfl

theorem attempt (h : t.Draws m r items n) : (Talk.attempt t).Draws m (.ok r) items n := by
  intro more said
  show (t _ >>= _).on m = _
  rw [Eval.on_bind_ok (h more said)]
  cases r with
  | ok a => rfl
  | error s => rfl

theorem stop (s : Stop) (m : Machine) : (Talk.stop s : Talk α).Draws m (.error s) [] m := by
  intro more said
  rw [List.append_nil]
  rfl

theorem ofStop (r : Except Stop α) (m : Machine) : (Talk.ofStop r).Draws m r [] m := by
  cases r with
  | ok a => exact .pure a m
  | error s => exact .stop s m

/-- A value that is handed over is drawn. -/
theorem handOver (v : Value) (m : Machine) : (Talk.handOver v).Draws m (.ok .none) [v] m :=
  fun _ _ => rfl

end Draws

end Talk

/-! ## Runs that collect -/

/-- The run ends with a value or a fault. -/
def Settles (r : Except Stop α) : Prop := ∀ s, r = .error s → ∃ f, s = .fault f

/-- **How a run that collects and a conversation end**: with values that belong
together, given the items, or with the same fault. -/
inductive Ends (Q : α → β → List Value → Prop) (items : List Value) :
    Except Stop α → Except Stop β → Prop
  | ok {a : α} {b : β} : Q a b items → Ends Q items (.ok a) (.ok b)
  | fault (f : Fault) : Ends Q items (.error (.fault f)) (.error (.fault f))

/-- **A run that collects and a conversation do the same** on machines with one
scope apart. -/
def Yields (k : ScopeId) (floor : Nat) (Q : α → β → List Value → Prop) (x : Eval α)
    (t : Talk β) : Prop :=
  ∀ ⦃d m m' r n⦄, Beside (some k) floor d m m' → x.on m = (r, n) → Settles r →
    ∃ r' items n', Beside (some k) floor d n n' ∧ t.Draws m' r' items n' ∧ Ends Q items r r'

namespace Yields

open Coupling

variable {k : ScopeId} {floor : Nat} {Q : α → β → List Value → Prop} {x : Eval α} {t : Talk β}

theorem mono {Q' : α → β → List Value → Prop} (h : Yields k floor Q x t)
    (hQ : ∀ a b items, Q a b items → Q' a b items) : Yields k floor Q' x t := by
  intro d m m' r n hR hx hr
  obtain ⟨r', items, n', hR', drawn, ends⟩ := h hR hx hr
  refine ⟨r', items, n', hR', drawn, ?_⟩
  cases ends with
  | ok hab => exact .ok (hQ _ _ _ hab)
  | fault f => exact .fault f

theorem pure {a : α} {b : β} (h : Q a b []) : Yields k floor Q (Pure.pure a) (Pure.pure b) := by
  intro d m m' r n hR hx _
  cases hx
  exact ⟨.ok b, [], m', hR, .pure b m', .ok h⟩

/-- Nothing is said about a run without end. -/
theorem endless : Yields k floor Q (throw .endless) t := by
  intro d m m' r n hR hx hr
  cases hx
  obtain ⟨f, hf⟩ := hr .endless rfl
  cases hf

/-- A value that is handed over. -/
theorem handOver {Q : α → Value → List Value → Prop} {a : α} {v : Value} (h : Q a .none [v]) :
    Yields k floor Q (Pure.pure a) (Talk.handOver v) := by
  intro d m m' r n hR hx _
  cases hx
  exact ⟨.ok .none, [v], m', hR, .handOver v m', .ok h⟩

/-- What both do alike hands nothing over. -/
theorem lift {x y : Eval α} (h : (beside (some k) floor).Sim x y) :
    Yields k floor (fun a b items => b = a ∧ items = []) x (Talk.lift y) := by
  intro d m m' r n hR hx hr
  have hxy := h.agree hR
  rw [hx] at hxy
  have hlift {r : Except Stop α} {n n' : Machine} (hne : r ≠ .error .endless)
      (hy : y.on m' = (r, n')) (hR : Beside (some k) floor d n n')
      (hends : Ends (fun a b items => b = a ∧ items = []) [] r r) :
      ∃ r' items n', Beside (some k) floor d n n' ∧ (Talk.lift y).Draws m' r' items n' ∧
        Ends (fun a b items => b = a ∧ items = []) items r r' :=
    ⟨r, [], n', hR, .lift hy hne, hends⟩
  generalize hy : y.on m' = o at hxy
  cases hxy with
  | ok _ hR' => exact hlift (by simp) hy hR' (.ok ⟨rfl, rfl⟩)
  | stop hs hR' =>
    obtain ⟨f, rfl⟩ := hr _ rfl
    exact hlift (by simp) hy hR' (.fault f)
  | endless _ | endlessLeft _ =>
    obtain ⟨f, hf⟩ := hr _ rfl
    cases hf
  | endlessRight hp => exact hp.elim
  | excused he => exact he.elim
  | parted _ hp => exact hp.elim

/-- What is done second hands over what comes behind. -/
theorem bind {R : γ → δ → List Value → Prop} {f : α → Eval γ} {g : β → Talk δ}
    (h : Yields k floor Q x t)
    (hfg : ∀ a b items, Q a b items →
      Yields k floor (fun c d items' => R c d (items ++ items')) (f a) (g b)) :
    Yields k floor R (x >>= f) (t >>= g) := by
  intro d m m' r p hR hrun hr
  rw [Eval.on_bind] at hrun
  cases hx : x.on m with
  | mk r₁ n =>
    rw [hx] at hrun
    match r₁ with
    | .error s =>
      cases hrun
      obtain ⟨f, rfl⟩ := hr s rfl
      obtain ⟨r', items, n', hR', drawn, ends⟩ := h hR hx fun _ heq => ⟨f, by cases heq; rfl⟩
      cases ends
      exact ⟨_, items, n', hR', drawn.bind_error, .fault f⟩
    | .ok a =>
      obtain ⟨r', items, n', hR', drawn, ends⟩ := h hR hx fun _ heq => by cases heq
      cases ends with
      | ok hab =>
        obtain ⟨r', items', p', hR', drawn', ends⟩ := hfg a _ items hab hR' hrun hr
        refine ⟨r', items ++ items', p', hR', drawn.bind drawn', ?_⟩
        cases ends with
        | ok hcd => exact .ok hcd
        | fault f => exact .fault f

/-- What follows on something that both do alike. -/
theorem lift_bind {Q : β → γ → List Value → Prop} {x y : Eval α}
    (h : (beside (some k) floor).Sim x y)
    {f : α → Eval β} {g : α → Talk γ} (hfg : ∀ a, Yields k floor Q (f a) (g a)) :
    Yields k floor Q (x >>= f) (Talk.lift y >>= g) := by
  refine Yields.bind (Yields.lift h) ?_
  rintro a _ _ ⟨rfl, rfl⟩
  exact hfg _

/-- Gas that only the conversation uses makes no difference. -/
theorem tick (h : Yields k floor Q x t) :
    Yields k floor Q x (Talk.lift Eval.tick >>= fun _ => t) := by
  intro d m m' r n hR hx hr
  have hR₁ : Beside (some k) floor d m { m' with gas := min (m'.gas + 1) Eval.gasCeiling } :=
    { hR with }
  obtain ⟨r', items, n', hR', drawn, ends⟩ := h hR₁ hx hr
  have paid := Talk.Draws.lift hR.unmetered'.on_tick (by simp)
  exact ⟨r', items, n', hR', paid.bind drawn, ends⟩

/-- What the conversation does afterwards with the value it has. -/
theorem andThen {Q' : α → γ → List Value → Prop} {g : β → Talk γ} (h : Yields k floor Q x t)
    (hg : ∀ a b items, Q a b items → ∃ c, g b = Pure.pure c ∧ Q' a c items) :
    Yields k floor Q' x (t >>= g) := by
  rw [← bind_pure x]
  refine h.bind fun a b items hab => ?_
  obtain ⟨c, hc, hQ'⟩ := hg a b items hab
  rw [hc]
  exact Yields.pure (by rw [List.append_nil]; exact hQ')

end Yields

end MeteredScript
