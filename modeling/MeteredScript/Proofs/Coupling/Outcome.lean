import MeteredScript.Proofs.Coupling.Gas

/-!
# Outcomes that differ in gas alone

Two evaluations do the same up to gas if they give the same result and leave the same machine but
for the gas used (`SameUpToGas`). They are compared with as much gas as there is, where it does not
matter (`SameButGas.of_unmetered`): what an evaluation does as long as gas does not run out it does
there as well, and only the limit is another one.
-/

namespace MeteredScript

open Coupling

variable {α β : Type} {m n : Machine}

/-- The same result and the same machine but for its gas and the limit of it. After an evaluation
without end no machine is of interest. -/
def SameButGas (o o' : Except Stop α × Machine) : Prop :=
  o'.1 = o.1 ∧ (o.1 ≠ .error .endless → ∃ gas limit, o'.2 = o.2.withGas gas limit)

namespace SameButGas

variable {o o' o'' : Except Stop α × Machine}

theorem symm (h : SameButGas o o') : SameButGas o' o := by
  refine ⟨h.1.symm, fun ends => ?_⟩
  rw [h.1] at ends
  obtain ⟨gas, limit, same⟩ := h.2 ends
  exact ⟨o.2.gas, o.2.config.gasLimit, by rw [same]; rfl⟩

theorem trans (h : SameButGas o o') (h' : SameButGas o' o'') : SameButGas o o'' := by
  refine ⟨h'.1.trans h.1, fun ends => ?_⟩
  obtain ⟨gas, limit, same⟩ := h.2 ends
  obtain ⟨gas', limit', same'⟩ := h'.2 (by rwa [h.1])
  exact ⟨gas', limit', by rw [same', same]; rfl⟩

end SameButGas

/-- **The same result and the same machine but for the gas used.** -/
structure SameUpToGas (o o' : Except Stop α × Machine) : Prop where
  result : o'.1 = o.1
  machine : o.1 ≠ .error .endless → ∃ gas, o'.2 = { o.2 with gas }

/-- Where the limits are the same no more than the gas used can differ. -/
theorem SameButGas.exact {o o' : Except Stop α × Machine} (h : SameButGas o o')
    (config : o'.2.config = o.2.config) : SameUpToGas o o' where
  result := h.1
  machine ends := by
    obtain ⟨gas, limit, same⟩ := h.2 ends
    obtain rfl : limit = o.2.config.gasLimit := by
      rw [← config, same]
      rfl
    exact ⟨gas, same⟩

/-- **Gas makes no difference** where it does not run out. -/
theorem Coupling.Sim.sameButGas {x y : Eval α} (h : (upToGas False False).Sim x y)
    (hx : ¬ (x.on m).2.Spent) {gas limit : Nat} (hy : ¬ (y.on (m.withGas gas limit)).2.Spent) :
    SameButGas (x.on m) (y.on (m.withGas gas limit)) := by
  have hagree := h.agree (w := ()) (⟨⟨gas, limit, rfl⟩, False.elim⟩ :
    (upToGas False False).Related () m (m.withGas gas limit))
  generalize x.on m = o at hagree hx
  generalize y.on (m.withGas gas limit) = o' at hagree hy
  cases hagree with
  | ok _ hR => exact ⟨rfl, fun _ => hR.1⟩
  | stop _ hR => exact ⟨rfl, fun _ => hR.1⟩
  | endless _ => exact ⟨rfl, fun ends => absurd rfl ends⟩
  | endlessLeft hp | endlessRight hp => exact hp.elim
  | excused he => exact (he.elim hx hy).elim
  | parted _ hp => exact hp.elim

/-- Gas that was used before makes no difference to the result where it does not run out. -/
theorem Coupling.Sim.result_gas {x : Eval α} (h : (upToGas False False).Sim x x) (hu : m.Unmetered)
    (gas : Nat) : (x.on { m with gas }).1 = (x.on m).1 :=
  have hu' : Machine.Unmetered (m.withGas gas m.config.gasLimit) := hu
  (h.sameButGas (hu.mono (h.left upToGas_lenient m)).not_spent
    (hu'.mono (h.right upToGas_lenient _)).not_spent).1

/-! ## Where gas does not matter -/

/-- The machine with so much gas that it does not run out. -/
def Machine.unmetered (m : Machine) : Machine := m.withGas m.gas Eval.gasCeiling

theorem Machine.unmetered_unmetered (m : Machine) : m.unmetered.Unmetered := Nat.le_refl _

/-- An evaluation compared with itself where gas does not matter. -/
theorem Coupling.Sim.sameButGas_unmetered {x : Eval α} (h : (upToGas False False).Sim x x)
    (hx : ¬ (x.on m).2.Spent) : SameButGas (x.on m) (x.on m.unmetered) :=
  h.sameButGas hx (m.unmetered_unmetered.mono (h.right upToGas_lenient _)).not_spent

/-- **Two evaluations are compared where gas does not matter.** -/
theorem SameButGas.of_unmetered {x : Eval α} {y : Eval β} (hx : (upToGas False False).Sim x x)
    (hy : (upToGas False False).Sim y y) {f : Except Stop α × Machine → Except Stop β × Machine}
    (hf : ∀ {o o'}, SameButGas o o' → SameButGas (f o) (f o'))
    (h : SameButGas (f (x.on m.unmetered)) (y.on m.unmetered)) (hxs : ¬ (x.on m).2.Spent)
    (hys : ¬ (y.on m).2.Spent) : SameButGas (f (x.on m)) (y.on m) :=
  ((hf (hx.sameButGas_unmetered hxs)).trans h).trans (hy.sameButGas_unmetered hys).symm

end MeteredScript
