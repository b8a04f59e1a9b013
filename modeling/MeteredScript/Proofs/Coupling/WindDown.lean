import MeteredScript.Evaluation.Monad

/-!
# Machines that have run out of gas

A machine is *spent* when more gas was used on it than may be. It stays so,
since gas is never given back, and every further charge on it fails.

What still happens on such a machine is that evaluation winds down: the brackets
that are open are closed one by one, and generators whose bodies were being run
end. `Machine.WindsDown` says that nothing else happened between two machines:
nothing was printed, no container was changed and no name was bound.
-/

namespace MeteredScript

/-- More gas was used than may be. -/
def Machine.Spent (m : Machine) : Prop := m.config.gasLimit < min m.gas Eval.gasCeiling

instance (m : Machine) : Decidable m.Spent := inferInstanceAs (Decidable (_ < _))

/-- The limits are the same and no gas was given back. -/
def Machine.Burns (m n : Machine) : Prop :=
  n.config = m.config ∧ min m.gas Eval.gasCeiling ≤ min n.gas Eval.gasCeiling

namespace Machine

variable {m n k : Machine}

theorem Burns.refl (m : Machine) : m.Burns m := ⟨rfl, Nat.le_refl _⟩

theorem Burns.trans (h : m.Burns n) (h' : n.Burns k) : m.Burns k :=
  ⟨h'.1.trans h.1, Nat.le_trans h.2 h'.2⟩

theorem Burns.of_eq (hc : n.config = m.config) (hg : n.gas = m.gas) : m.Burns n :=
  ⟨hc, Nat.le_of_eq (by rw [hg])⟩

/-- Gas that was spent stays spent. -/
theorem Spent.mono (h : m.Spent) (hb : m.Burns n) : n.Spent := by
  obtain ⟨hc, hg⟩ := hb
  unfold Spent at h ⊢
  rw [hc]
  exact Nat.lt_of_lt_of_le h hg

end Machine

/-- How a generator ends whose body runs out of gas. -/
def GeneratorState.outOfGas : GeneratorState := .completed (.stopped .gasExhausted)

/-- **Scopes between which nothing happened** but that generators ran out of
gas. -/
def ScopeTree.WindsDown (t t' : ScopeTree) : Prop :=
  t'.scopes.size = t.scopes.size ∧
    ∀ id, t'.scope? id = t.scope? id ∨
      t'.scope? id = (t.scope? id).map ({ · with generator := some .outOfGas })

namespace ScopeTree.WindsDown

variable {t t' t'' : ScopeTree}

theorem refl (t : ScopeTree) : t.WindsDown t := ⟨rfl, fun _ => .inl rfl⟩

theorem trans (h : t.WindsDown t') (h' : t'.WindsDown t'') : t.WindsDown t'' := by
  refine ⟨h'.1.trans h.1, fun id => ?_⟩
  rcases h'.2 id with h' | h' <;> rcases h.2 id with h | h <;> rw [h', h]
  · exact .inl rfl
  · exact .inr rfl
  · exact .inr rfl
  · exact .inr (by cases t.scope? id <;> rfl)

theorem setGenerator (t : ScopeTree) (id : ScopeId) :
    t.WindsDown (t.setGenerator id .outOfGas) := by
  refine ⟨by simp [ScopeTree.setGenerator], fun id' => ?_⟩
  simp only [ScopeTree.setGenerator, ScopeTree.scope?, Array.getElem?_modify]
  split
  · exact .inr rfl
  · exact .inl rfl

theorem generator?_eq (h : t.WindsDown t') (id : ScopeId) :
    t'.generator? id = t.generator? id ∨ t'.generator? id = some .outOfGas := by
  unfold ScopeTree.generator?
  rcases h.2 id with h | h <;> rw [h]
  · exact .inl rfl
  · cases t.scope? id with
    | none => exact .inl rfl
    | some s => exact .inr rfl

end ScopeTree.WindsDown

/-- **Machines between which evaluation wound down**: nothing happened but that
gas was used, calls and handlers were left, and generators ran out of gas. -/
structure Machine.WindsDown (m n : Machine) : Prop where
  config : n.config = m.config
  heap : n.heap = m.heap
  functions : n.functions = m.functions
  scopes : m.scopes.WindsDown n.scopes
  nextSerial : n.nextSerial = m.nextSerial
  transcript : n.transcript = m.transcript
  gas : min m.gas Eval.gasCeiling ≤ min n.gas Eval.gasCeiling

namespace Machine.WindsDown

variable {m n k : Machine}

theorem refl (m : Machine) : m.WindsDown m where
  config := rfl
  heap := rfl
  functions := rfl
  scopes := .refl _
  nextSerial := rfl
  transcript := rfl
  gas := Nat.le_refl _

theorem trans (h : m.WindsDown n) (h' : n.WindsDown k) : m.WindsDown k where
  config := h'.config.trans h.config
  heap := h'.heap.trans h.heap
  functions := h'.functions.trans h.functions
  scopes := h.scopes.trans h'.scopes
  nextSerial := h'.nextSerial.trans h.nextSerial
  transcript := h'.transcript.trans h.transcript
  gas := Nat.le_trans h.gas h'.gas

theorem burns (h : m.WindsDown n) : m.Burns n := ⟨h.config, h.gas⟩

theorem depth (m : Machine) (depth : Nat) : m.WindsDown { m with depth } :=
  ⟨rfl, rfl, rfl, .refl _, rfl, rfl, Nat.le_refl _⟩

theorem handling (m : Machine) (handling : List Fault) : m.WindsDown { m with handling } :=
  ⟨rfl, rfl, rfl, .refl _, rfl, rfl, Nat.le_refl _⟩

theorem charge (m : Machine) (amount : Nat) :
    m.WindsDown { m with gas := min (m.gas + amount) Eval.gasCeiling } := by
  refine ⟨rfl, rfl, rfl, .refl _, rfl, rfl, ?_⟩
  dsimp only
  omega

theorem setGenerator (m : Machine) (id : ScopeId) :
    m.WindsDown { m with scopes := m.scopes.setGenerator id .outOfGas } :=
  ⟨rfl, rfl, rfl, .setGenerator _ _, rfl, rfl, Nat.le_refl _⟩

end Machine.WindsDown

theorem Machine.burns_charge (amount : Nat) (m : Machine) :
    m.Burns ((Eval.charge amount).on m).2 := by
  rw [Eval.on_charge]
  exact (WindsDown.charge m amount).burns

/-- Every charge on a spent machine fails. -/
theorem Machine.Spent.on_charge {m : Machine} (h : m.Spent) (amount : Nat) :
    (Eval.charge amount).on m =
      (.error .gasExhausted, { m with gas := min (m.gas + amount) Eval.gasCeiling }) := by
  unfold Spent at h
  rw [Eval.on_charge, if_pos (by omega)]

end MeteredScript
