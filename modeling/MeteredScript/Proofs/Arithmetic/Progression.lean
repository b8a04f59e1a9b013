import MeteredScript.Evaluation.Builtin
import MeteredScript.Proofs.Iteration.Walk

/-!
# Arithmetic progressions are exact

`range` counts in 64 bits: it adds the step until it is at or beyond the bound, or until the sum
does not fit. Which numbers it has to list is a question about integers without a bound, and
`IsProgression` puts it that way: the number at position `k` is `start + k * step`, and there is
a position `k` exactly if that integer lies strictly before the bound. Both agree because a sum
that does not fit is already beyond every bound that does, so stopping there leaves nothing out
(`isProgression_of_overflow`).

Each number is paid for before the next one is computed. Together that is as many units of gas as
there are numbers (`progression_eq_ticks`), and a machine that has not as many left builds no
list.
-/

namespace MeteredScript

open Eval

/-! ## What a progression is -/

/-- An integer lies strictly before a bound, in the direction of a step. -/
def StrictlyBefore (step i stop : Int) : Prop := 0 < step ∧ i < stop ∨ step < 0 ∧ stop < i

/-- Whoever is before the bound some steps later was before it all the time. -/
theorem StrictlyBefore.of_later {step i stop : Int} {k : Nat}
    (h : StrictlyBefore step (i + k * step) stop) : StrictlyBefore step i stop := by
  rcases h with ⟨up, before⟩ | ⟨down, before⟩
  · have := Int.mul_nonneg (Int.natCast_nonneg k) (Int.le_of_lt up)
    exact .inl ⟨up, by omega⟩
  · have := Int.mul_nonneg (Int.natCast_nonneg k) (Int.neg_nonneg_of_nonpos (Int.le_of_lt down))
    rw [Int.mul_neg] at this
    exact .inr ⟨down, by omega⟩

/-- **The terms of a progression**: all the integers `start + k * step` that lie strictly before
the bound, in order. -/
structure IsProgression (start stop step : Int) (terms : List Int64) : Prop where
  /-- A term is what it should be, as an integer without a bound. -/
  exact : ∀ (k : Nat) (hk : k < terms.length), terms[k].toInt = start + k * step
  /-- There are as many terms as lie before the bound. -/
  complete : ∀ k : Nat, k < terms.length ↔ StrictlyBefore step (start + k * step) stop

namespace IsProgression

variable {step start stop next : Int64} {terms : List Int64}

/-- From the bound on there is nothing to list. -/
theorem nil {start stop step : Int} (beyond : ¬ StrictlyBefore step start stop) :
    IsProgression start stop step [] where
  exact _ hk := absurd hk (Nat.not_lt_zero _)
  complete _ :=
    ⟨fun hk => absurd hk (Nat.not_lt_zero _), fun before => absurd before.of_later beyond⟩

/-- Before the bound there is one more term. -/
theorem cons {stop step : Int} (before : StrictlyBefore step next.toInt stop)
    (rest : IsProgression (next.toInt + step) stop step terms) :
    IsProgression next.toInt stop step (next :: terms) where
  exact
    | 0, _ => by simp
    | k + 1, hk => by
      rw [List.getElem_cons_succ, rest.exact k (Nat.lt_of_succ_lt_succ hk)]
      grind
  complete
    | 0 => by simpa using before
    | k + 1 => by
      have shifted : next.toInt + (k + 1 : Nat) * step = next.toInt + step + k * step := by grind
      rw [List.length_cons, Nat.succ_lt_succ_iff, rest.complete, shifted]

end IsProgression

/-- **What does not fit is beyond the bound.** A number before the bound is the last one before it
if the sum with the step has more than 64 bits. -/
theorem isProgression_of_overflow {step next stop : Int64} {f : Fault}
    (before : StrictlyBefore step.toInt next.toInt stop.toInt)
    (overflow : Integer.add next step = .error f) :
    IsProgression next.toInt stop.toInt step.toInt [next] := by
  refine .cons before (.nil fun again => ?_)
  have outside := (Integer.fit_eq_error_iff.1 overflow).1
  have bound := Integer.inRange_toInt stop
  have start := Integer.inRange_toInt next
  unfold Integer.InRange StrictlyBefore at *
  omega

/-! ## Paying by the unit -/

/-- Some units of gas, one after the other. -/
def Eval.ticks : Nat → Eval Unit
  | 0 => pure ()
  | n + 1 => do tick; ticks n

/-- **A machine has that much gas left.** The count of gas stops at its ceiling, and a limit that
is not below the ceiling is never exceeded. -/
def Machine.HasLeft (m : Machine) (n : Nat) : Prop :=
  n ≤ m.config.gasLimit - m.gas ∨ gasCeiling ≤ m.config.gasLimit

/-- The count of gas after some units more: their number is added, up to the ceiling. -/
def Machine.gasAfter (m : Machine) (n : Nat) : Nat :=
  if n = 0 then m.gas else min (m.gas + n) gasCeiling

theorem Eval.on_tick_of_payable {m : Machine}
    (payable : ¬ m.config.gasLimit < min (m.gas + 1) gasCeiling) :
    tick.on m = (.ok (), { m with gas := min (m.gas + 1) gasCeiling }) := by
  rw [tick, on_charge, if_neg payable]

theorem Eval.on_ticks_of_hasLeft {m : Machine} {n : Nat} (h : m.HasLeft n) :
    (ticks n).on m = (.ok (), { m with gas := m.gasAfter n }) := by
  induction n generalizing m with
  | zero => rfl
  | succ n ih =>
    have payable : ¬ m.config.gasLimit < min (m.gas + 1) gasCeiling := by
      unfold Machine.HasLeft at h
      omega
    have rest : Machine.HasLeft { m with gas := min (m.gas + 1) gasCeiling } n := by
      unfold Machine.HasLeft at h ⊢
      dsimp only
      omega
    have count : Machine.gasAfter { m with gas := min (m.gas + 1) gasCeiling } n
        = m.gasAfter (n + 1) := by
      rw [Machine.gasAfter, Machine.gasAfter, if_neg (Nat.succ_ne_zero n)]
      dsimp only
      split <;> omega
    rw [ticks, on_bind_ok (on_tick_of_payable payable), ih rest, count]

theorem Eval.on_ticks_of_not_hasLeft {m : Machine} {n : Nat} (h : ¬ m.HasLeft n) :
    (ticks n).on m =
      (.error .gasExhausted, { m with gas := min (max m.gas m.config.gasLimit + 1) gasCeiling }) := by
  induction n generalizing m with
  | zero => exact absurd (.inl (Nat.zero_le _)) h
  | succ n ih =>
    unfold Machine.HasLeft at h
    by_cases payable : m.config.gasLimit < min (m.gas + 1) gasCeiling
    · have refused : tick.on m =
          (.error .gasExhausted, { m with gas := min (m.gas + 1) gasCeiling }) := by
        rw [tick, on_charge, if_pos payable]
      have count : max m.gas m.config.gasLimit = m.gas := by omega
      rw [ticks, on_bind_error refused, count]
    · have rest : ¬ Machine.HasLeft { m with gas := min (m.gas + 1) gasCeiling } n := by
        unfold Machine.HasLeft
        dsimp only
        omega
      have count : max (min (m.gas + 1) gasCeiling) m.config.gasLimit
          = max m.gas m.config.gasLimit := by omega
      rw [ticks, on_bind_ok (on_tick_of_payable payable), ih rest]
      dsimp only
      rw [count]

/-! ## Counting up or down -/

/-- **The loop lists the terms of a progression**, and takes one unit of gas for each. -/
theorem progression_eq_ticks (step stop next : Int64) (items : Array Value) :
    ∃ terms, IsProgression next.toInt stop.toInt step.toInt terms ∧
      progression step stop next items = do
        ticks terms.length
        return items ++ (terms.map Value.int).toArray := by
  fun_induction progression step stop next items with
  | case1 next items ahead ih =>
    have before : StrictlyBefore step.toInt next.toInt stop.toInt := isBefore_iff.1 ahead
    cases hafter : Integer.add next step with
    | ok after =>
      obtain ⟨terms, listed, same⟩ := ih after hafter
      rw [Integer.fit_eq_ok_iff.1 hafter] at listed
      refine ⟨next :: terms, .cons before listed, ?_⟩
      simp [ticks, same]
    | error f =>
      refine ⟨[next], isProgression_of_overflow before hafter, ?_⟩
      simp [ticks]
  | case2 next items beyond =>
    exact ⟨[], .nil (mt isBefore_iff.2 beyond), by simp [ticks]⟩

/-- **`range` is exact.** It refuses a step of 0, whatever gas there is. Otherwise it lists the
terms of the progression, as integers without a bound have them, in a new list and for one unit of
gas each. If there is less gas, it uses what there is, and builds nothing. -/
theorem range_is_exact (ev : Evaluator) (start stop step : Int64) (m : Machine) :
    let call := (callBuiltin ev .range [.int start, .int stop, .int step]).on m
    (step = 0 → call = (.error (.fault (.saying .valueError "range() arg 3 must not be zero")), m)) ∧
    (step ≠ 0 → ∃ terms, IsProgression start.toInt stop.toInt step.toInt terms ∧
      (m.HasLeft terms.length →
        ∃ id heap,
          call = (.ok (.list id), { m with heap, gas := m.gasAfter terms.length }) ∧
          m.heap.OneListMore heap id (terms.map Value.int)) ∧
      (¬ m.HasLeft terms.length →
        call = (.error .gasExhausted,
          { m with gas := min (max m.gas m.config.gasLimit + 1) gasCeiling }))) := by
  intro call
  have hcall : call = (rangeList start stop step).on m := rfl
  rw [hcall, rangeList]
  constructor
  · intro hzero
    rw [require, if_neg (not_not_intro hzero)]
    rfl
  · intro hstep
    rw [require, if_pos hstep, pure_bind]
    obtain ⟨terms, listed, same⟩ := progression_eq_ticks step stop start #[]
    refine ⟨terms, listed, fun left => ?_, fun short => ?_⟩
    · obtain ⟨id, heap, placed, more⟩ :=
        exists_on_placeList { m with gas := m.gasAfter terms.length } (terms.map Value.int)
      refine ⟨id, heap, ?_, more⟩
      rw [same, bind_assoc, on_bind_ok (on_ticks_of_hasLeft left), pure_bind,
        Array.empty_append, placed]
    · rw [same, bind_assoc, on_bind_error (on_ticks_of_not_hasLeft short)]

end MeteredScript
