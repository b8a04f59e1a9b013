import MeteredScript.Evaluation.Assignment
import MeteredScript.Proofs.Augmented.Container

/-!
# Combining two values

An operator computes a fresh value, or it changes its left operand in place. In
both ways there are three things in a row: what may have to be read from the
right operand, what is paid for, and one write to the heap. Nothing that can
fail comes after the write, so a combination that fails has changed nothing
but the gas (`Combines`, `Computes`).

Draining the right operand is the one part that runs code of the script: what
`list += iterable` appends comes from a cursor. It stands before the others
(`drainOperand`), and the combination of what is drained is stated from the
machine that the draining leaves.
-/

namespace MeteredScript

open Eval

variable {ev : Evaluator} {op : BinaryOp} {target operand l r : Value} {m m₁ : Machine}
  {items : Array Value}

/-! ## Fresh values -/

/-- **What computing a fresh value does**: it fails and only gas was used, or
the value is the operator's result put into the heap. -/
inductive Computes (op : BinaryOp) (l r : Value) (m : Machine) :
    Except Stop Value × Machine → Prop
  | refused (s : Stop) (gas : Nat) : Computes op l r m (.error s, { m with gas })
  | computed {c : Fresh} (result : binaryResult m.heap op l r = .ok c) (gas : Nat) :
    Computes op l r m
      (.ok (m.heap.place c).1, { m with gas, heap := (m.heap.place c).2 })

/-- Paying for a repetition touches nothing but the gas. -/
theorem on_chargeRepetition (op : BinaryOp) (l r : Value) (m : Machine) :
    ∃ outcome gas, (chargeRepetition op l r).on m = (outcome, { m with gas }) := by
  rw [chargeRepetition, on_bind_ok (on_heap m)]
  cases repeatLength m.heap op l r with
  | error f => exact ⟨_, m.gas, rfl⟩
  | ok length =>
    rw [on_bind_ok (on_ofFault_ok m length)]
    cases length with
    | none => exact ⟨_, m.gas, rfl⟩
    | some length => exact ⟨_, _, on_charge length m⟩

theorem binaryValue_computes (op : BinaryOp) (l r : Value) (m : Machine) :
    Computes op l r m ((binaryValue op l r).on m) := by
  obtain ⟨paid, gas, hpaid⟩ := on_chargeRepetition op l r m
  rw [binaryValue, on_bind, hpaid]
  cases paid with
  | error s => exact .refused s gas
  | ok _ =>
    dsimp only
    rw [on_bind_ok (on_heap _)]
    dsimp only
    cases result : binaryResult m.heap op l r with
    | error f => exact .refused (.fault f) gas
    | ok c =>
      rw [on_bind_ok (on_ofFault_ok _ c)]
      exact .computed result gas

/-- An augmented assignment words the refusal in its own way. Everything else is
the same. -/
theorem augmentedValue_computes (op : BinaryOp) (l r : Value) (m : Machine) :
    Computes op l r m ((augmentedValue op l r).on m) := by
  have course := binaryValue_computes op l r m
  rw [augmentedValue, on_bind, on_attempt]
  generalize (binaryValue op l r).on m = outcome at course
  cases course with
  | computed result gas => exact .computed result gas
  | refused s gas =>
    cases s with
    | endless => exact .refused .endless gas
    | fault f => cases f <;> exact .refused _ gas
    | returns v => exact .refused _ gas
    | breaks => exact .refused _ gas
    | continues => exact .refused _ gas
    | gasExhausted => exact .refused _ gas

/-! ## Combinations in place -/

/-- What a combination takes from the right operand before it changes
anything. -/
def drainOperand (ev : Evaluator) (op : BinaryOp) (target operand : Value) :
    Eval (Array Value) :=
  match target, op with
  | .list _, .add => ev.collect operand
  | _, _ => pure #[]

/-- **What a container holds after it was combined in place** with an operand
of which the given items were drained, if the two combine. -/
def combined? (h : Heap) (op : BinaryOp) (target operand : Value) (items : Array Value) :
    Option Fresh :=
  match target, op, operand with
  | .list id, .add, _ => some (.list (h.list id ++ items))
  | .list id, .mul, count =>
    count.asInt?.map fun n => .list (repeatList (copies n) (h.list id).toList).toArray
  | .set id, op, .set other => (op.onSets? (h.set id) (h.set other)).map .set
  | .dict id, .bitOr, .dict other => some (.dict ((h.dict id).update (h.dict other)))
  | _, _, _ => none

/-- What is combined stays an object of its sort. -/
theorem fits_combined {h : Heap} {c : Fresh}
    (combined : combined? h op target operand items = some c) : c.Fits target := by
  unfold combined? at combined
  split at combined
  · cases combined
    trivial
  · obtain ⟨n, -, rfl⟩ := Option.map_eq_some_iff.1 combined
    trivial
  · obtain ⟨t, -, rfl⟩ := Option.map_eq_some_iff.1 combined
    trivial
  · cases combined
    trivial
  · cases combined

/-- **What a combination in place does once the operand is drained**: it fails
and only gas was used, or the target has its combined contents. -/
inductive Combines (op : BinaryOp) (target operand : Value) (items : Array Value) (m : Machine) :
    Except Stop Unit × Machine → Prop
  | refused (s : Stop) (gas : Nat) : Combines op target operand items m (.error s, { m with gas })
  | combined {c : Fresh} (result : combined? m.heap op target operand items = some c) (gas : Nat) :
    Combines op target operand items m
      (.ok (), { m with gas, heap := m.heap.refill target c })

theorem repeatInPlace_combines (id : ListId) (count : Value) (m : Machine) :
    Combines .mul (.list id) count items m ((repeatInPlace id count).on m) := by
  rw [repeatInPlace]
  cases counted : count.asInt? with
  | none => exact .refused _ m.gas
  | some n =>
    rw [on_bind_ok (on_heap m)]
    cases repeatLength m.heap .mul (.list id) count with
    | error f => exact .refused (.fault f) m.gas
    | ok length =>
      rw [on_bind_ok (on_ofFault_ok m length), on_bind, on_charge]
      split
      · rename_i paid
        rw [on_modifyHeap, Heap.modifyList_eq_refill]
        obtain ⟨-, rfl⟩ := Prod.mk.inj paid
        exact .combined (by rw [combined?, counted]; rfl) _
      · rename_i paid
        obtain ⟨-, rfl⟩ := Prod.mk.inj paid
        exact .refused _ _

/-- **A combination in place**, from the machine on which the operand is
drained. -/
theorem combineInPlace_combines
    (drained : (drainOperand ev op target operand).on m = (.ok items, m₁)) :
    Combines op target operand items m₁ ((combineInPlace ev op target operand).on m) := by
  unfold combineInPlace
  split
  · -- `list +=`: the one case in which something is drained
    rename_i id
    have collected : (ev.collect operand).on m = (.ok items, m₁) := drained
    rw [on_bind_ok collected, on_modifyHeap, Heap.modifyList_eq_refill]
    exact .combined rfl m₁.gas
  all_goals
    have stays : items = #[] ∧ m₁ = m := by
      simpa [drainOperand, eq_comm] using drained
    obtain ⟨rfl, rfl⟩ := stays
  · exact repeatInPlace_combines _ _ m₁
  · rename_i id other
    rw [on_bind_ok (on_heap m₁)]
    cases result : op.onSets? (m₁.heap.set id) (m₁.heap.set other) with
    | none => exact .refused _ m₁.gas
    | some t =>
      have combined : combined? m₁.heap op (.set id) (.set other) #[] = some (.set t) :=
        congrArg (Option.map Fresh.set) result
      exact .combined combined m₁.gas
  · rw [on_bind_ok (on_heap m₁), on_modifyHeap, Heap.modifyDict_eq_refill]
    exact .combined rfl m₁.gas
  · exact .refused _ m₁.gas

theorem combineInPlace_of_drain_error {s : Stop}
    (drained : (drainOperand ev op target operand).on m = (.error s, m₁)) :
    (combineInPlace ev op target operand).on m = (.error s, m₁) := by
  unfold drainOperand at drained
  split at drained
  · rw [combineInPlace]
    exact on_bind_error drained _
  · cases drained

end MeteredScript
