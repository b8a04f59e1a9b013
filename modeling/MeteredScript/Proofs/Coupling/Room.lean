import MeteredScript.Proofs.Coupling.Bounded
import MeteredScript.Proofs.Coupling.Bracket

/-!
# Runs with more room to recurse

Two runs on the same machine, of which the right one may recurse deeper, are the
same unless the left one runs out of room (`Eval.Extends`). So what a bounded
evaluator does does not depend on the bound, as long as it comes to an end.
-/

namespace MeteredScript

variable {α β : Type}

namespace Eval

/-- **The second evaluation does what the first does**, if that comes to an
end. -/
def Extends (x y : Eval α) : Prop :=
  ∀ m, (x.on m).1 ≠ .error .endless → y.on m = x.on m

/-- Two evaluations come to the same ends. -/
def Meets (x y : Eval α) : Prop :=
  ∀ m o, o.1 ≠ .error .endless → (x.on m = o ↔ y.on m = o)

namespace Extends

variable {x y z : Eval α}

theorem refl (x : Eval α) : x.Extends x := fun _ _ => rfl

theorem trans (h : x.Extends y) (h' : y.Extends z) : x.Extends z := by
  intro m hne
  have hy := h m hne
  rw [h' m (by rw [hy]; exact hne), hy]

theorem bind (x : Eval α) {f g : α → Eval β} (h : ∀ a, (f a).Extends (g a)) :
    (x >>= f).Extends (x >>= g) := by
  intro m hne
  rw [on_bind] at hne ⊢
  rw [on_bind]
  cases hx : x.on m with
  | mk r n =>
    rw [hx] at hne
    match r with
    | .ok a => exact h a n hne
    | .error s => rfl

end Extends

open Classical in
/-- **What evaluations with more and more room come to.** -/
noncomputable def limit (x : Nat → Eval α) : Eval α := fun m =>
  if h : ∃ n, ((x n).on m).1 ≠ .error .endless then x h.choose m else .error .endless m

section Limit

variable {x : Nat → Eval α} {m : Machine}

theorem extends_of_le (hx : ∀ n, (x n).Extends (x (n + 1))) {n k : Nat} (h : n ≤ k) :
    (x n).Extends (x k) := by
  induction h with
  | refl => exact .refl _
  | step _ ih => exact ih.trans (hx _)

/-- The limit is reached, or nothing comes to an end. -/
theorem on_limit (x : Nat → Eval α) (m : Machine) :
    (∃ n, ((x n).on m).1 ≠ .error .endless ∧ (limit x).on m = (x n).on m) ∨
      ((∀ n, ((x n).on m).1 = .error .endless) ∧ (limit x).on m = (.error .endless, m)) := by
  by_cases h : ∃ n, ((x n).on m).1 ≠ .error .endless
  · refine .inl ⟨h.choose, h.choose_spec, ?_⟩
    rw [on, limit, dif_pos h]
    rfl
  · refine .inr ⟨fun n => Classical.byContradiction fun hne => h ⟨n, hne⟩, ?_⟩
    rw [on, limit, dif_neg h]

theorem limit_eq_iff (hx : ∀ n, (x n).Extends (x (n + 1))) {o : Except Stop α × Machine}
    (ho : o.1 ≠ .error .endless) : (limit x).on m = o ↔ ∃ n, (x n).on m = o := by
  rcases on_limit x m with ⟨n, hne, heq⟩ | ⟨hall, heq⟩
  · rw [heq]
    refine ⟨fun h => ⟨n, h⟩, ?_⟩
    rintro ⟨k, rfl⟩
    rcases Nat.le_total n k with hle | hle
    · exact (extends_of_le hx hle m hne).symm
    · exact extends_of_le hx hle m ho
  · rw [heq]
    refine ⟨fun h => absurd (congrArg Prod.fst h).symm ho, ?_⟩
    rintro ⟨n, rfl⟩
    exact absurd (hall n) ho

end Limit

end Eval

namespace Coupling

variable {P : α → Prop}

/-- **Each machine with itself**, where nothing is said about a left run without
end. -/
def roomier : Coupling where
  World := Unit
  Related _ m m' := m' = m
  Left _ _ := True
  Right _ _ := True
  Excused _ _ := False
  patientLeft := True
  patientRight := False
  hidden _ := False
  left_refl _ := trivial
  left_trans _ _ := trivial
  right_refl _ := trivial
  right_trans _ _ := trivial
  excused_mono h _ _ := h
  shown_of_excused h _ _ := h

theorem roomier_shows (names : List String) : roomier.Shows names := by
  simp [Shows, roomier]

theorem roomier_not_lenient {p : Prop} (h : roomier.Lenient) : p := by
  obtain ⟨_, _, h | h⟩ := h <;> exact h.elim

instance : roomier.United := ⟨fun _ _ _ h => h⟩

/-- An evaluation does the same as itself. -/
theorem roomier_self (hP : ∀ a, P a) (x : Eval α) : roomier.SimOf P x x where
  total := roomier_not_lenient
  left := roomier_not_lenient
  right := roomier_not_lenient
  agree := by
    intro w m m' hR
    rw [show m' = m from hR]
    generalize x.on m = o
    obtain ⟨r, n⟩ := o
    cases r with
    | ok a => exact .ok (hP a) (rfl : n = n)
    | error s =>
      by_cases hs : s = .endless
      · subst hs
        exact .endless trivial
      · exact .stop hs (rfl : n = n)

theorem SimOf.extends {x y : Eval α} (h : roomier.SimOf P x y) : x.Extends y := by
  intro m hne
  have hsame : roomier.Related () m m := rfl
  have hxy := h.agree hsame
  generalize x.on m = o at hxy hne
  generalize y.on m = o' at hxy
  cases hxy with
  | ok _ hR | stop _ hR => rw [show _ = _ from hR]
  | endless _ => exact absurd rfl hne
  | endlessLeft _ => exact absurd rfl hne
  | endlessRight hp => exact hp.elim
  | excused he => exact he.elim
  | parted _ hp => exact hp.elim

theorem roomier_sim (x : Eval α) : roomier.Sim x x := roomier_self (fun _ => trivial) x

theorem roomier_complete : roomier.Complete where
  heap_eq := by rintro w m _ rfl; rfl
  handled_eq := by rintro w m _ rfl; rfl
  function_eq := by rintro w m _ rfl id; rfl
  function_shown _ _ := roomier_shows _
  own_eq := by rintro w m _ rfl s name _; rfl
  find_eq := by rintro w m _ rfl s name _; rfl
  charge _ := roomier_sim _
  modifyHeap _ := roomier_sim _
  place _ := roomier_sim _
  newSerial := roomier_sim _
  newFunction _ _ _ := roomier_sim _
  print _ := roomier_sim _
  abort := roomier_sim _
  define _ _ := roomier_sim _
  setAttribute _ _ _ _ := roomier_sim _
  newScope _ _ := roomier_sim _
  newGenerator _ _ _ _ := roomier_sim _
  newGeneratorExpression _ _ _ _ _ _ _ := roomier_sim _
  inFrame h := SimOf.inFrame (by rintro w m _ rfl; rfl) (fun _ => roomier_sim _) h
  whileHandling f _ _ h := Sim.whileHandling (fun _ => roomier_sim _) f h
  pushHandling _ := roomier_sim _
  popHandling := roomier_sim _
  withHandled faults _ _ h :=
    SimOf.withHandled (fun _ => roomier_sim _) (by rintro w m _ rfl; rfl) faults h
  setGeneratorState _ _ _ := roomier_sim _
  generatorState _ := roomier_self (fun _ => roomier_shows _) _

/-- **More room to recurse** changes nothing but what was endless. -/
theorem roomier_bounded {n n' : Nat} (h : n ≤ n') :
    roomier.Couples (.bounded n) (.bounded n') :=
  roomier_complete.bounded (.of_le trivial h)

end Coupling

end MeteredScript
