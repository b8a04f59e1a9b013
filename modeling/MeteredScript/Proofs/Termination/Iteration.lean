import MeteredScript.Evaluation.Statement
import MeteredScript.Proofs.Termination.Basic

/-!
# Loops come to an end

Every turn of a loop begins with a charge, so there are no more turns than charges that can
be paid. The loops of evaluation are of two kinds: those that go through the items of
something (`Terminating.iterate`) and `while` loops (`Terminating.runWhile`).

`Terminating` says that within a budget all operations of an evaluator end. The modules
after this one say that so does whatever is built on them.
-/

namespace MeteredScript

open Eval

theorem Eval.Halts.startIteration {b : Nat} (v : Value) :
    Halts b (Evaluator.startIteration v) (Evaluator.startIteration v) :=
  Halts.heap.bind fun h => Halts.ofFault (Cursor.ofValue h v)

/-- **All operations of an evaluator end within a budget**, and those of a second one do the
same. The first may go round a loop once for each charge that the budget allows, and the
second no less often. -/
structure Terminating (b : Nat) (ev ev' : Evaluator) : Prop where
  eval (e : Expr) (s : ScopeId) : Halts b (ev.eval e s) (ev'.eval e s)
  exec (st : Stmt) (s : ScopeId) : Halts b (ev.exec st s) (ev'.exec st s)
  resume (id : GeneratorId) (r : Resume) : Halts b (ev.resume id r) (ev'.resume id r)
  enough : b ≤ 3 * ev.rounds + 2
  rounds_le : ev.rounds ≤ ev'.rounds

namespace Terminating

variable {b b' : Nat} {ev ev' : Evaluator}

theorem within (h : Terminating b' ev ev') (hle : b ≤ b') : Terminating b ev ev' where
  eval e s := (h.eval e s).within hle
  exec st s := (h.exec st s).within hle
  resume id r := (h.resume id r).within hle
  enough := Nat.le_trans hle h.enough
  rounds_le := h.rounds_le

/-! ## Items -/

section Items

variable (h : Terminating b ev ev')

include h

theorem nextYielded? (id : GeneratorId) : Halts b (ev.nextYielded? id) (ev'.nextYielded? id) := by
  refine (h.resume id (.send .none)).attempt_bind fun result _ hne => ?_
  match result, hne with
  | .ok v, _ => exact Halts.pure (some v)
  | .error (.fault (.exhausted _)), _ => exact Halts.pure none
  | .error .endless, hne => exact absurd rfl hne
  | .error (.fault (.unresolvedName _)), _ | .error (.fault (.typeFault _)), _
  | .error (.fault (.protocolViolation _)), _ | .error (.fault (.raised _)), _
  | .error (.returns _), _ | .error .breaks, _ | .error .continues, _
  | .error .gasExhausted, _ => exact HaltsOf.throw (by simp)

theorem next? (cursor : Cursor) : Halts b (ev.next? cursor) (ev'.next? cursor) := by
  match cursor with
  | .list id i =>
    refine Halts.heap.bind fun heap => ?_
    cases (heap.list id)[i]? with
    | some v => exact Halts.pure _
    | none => exact Halts.pure _
  | .items [] => exact Halts.pure none
  | .items (v :: rest) => exact Halts.pure (some (v, Cursor.items rest))
  | .generator id =>
    refine (h.nextYielded? id).bind fun v => ?_
    cases v with
    | some v => exact Halts.pure _
    | none => exact Halts.pure _

theorem execBlock (s : ScopeId) (block : Block) :
    Halts b (ev.execBlock s block) (ev'.execBlock s block) := by
  induction block with
  | nil => exact Halts.pure ()
  | cons st rest ih => exact (h.exec st s).bind fun _ => ih

theorem holds (s : ScopeId) (condition : Expr) :
    Halts b (ev.holds s condition) (ev'.holds s condition) :=
  (h.eval condition s).bind fun v => Halts.isTruthy v

end Items

/-! ## Loops

The induction is on the rounds that the first run may go. Each takes three units of the
budget, so that after the last one nothing is left of it. -/

/-- **A loop through the items of something ends**, if what its turns do once they are paid
for does. -/
theorem iterate (h : Terminating b ev ev') {σ : Type}
    {rest rest' : σ → Value → Eval (ForInStep σ)}
    (hrest : ∀ state item, Halts b (rest state item) (rest' state item)) {n n' : Nat}
    (hn : b ≤ 3 * n + 2) (hle : n ≤ n') (cursor : Cursor) (state : σ) :
    Halts b
      (ev.iterate (fun state item => do Eval.tick; rest state item) n cursor state)
      (ev'.iterate (fun state item => do Eval.tick; rest' state item) n' cursor state) := by
  induction n generalizing b n' cursor state with
  | zero => exact HaltsOf.endless (by omega)
  | succ n ih =>
    obtain ⟨n', rfl⟩ : ∃ k, n' = k + 1 := ⟨n' - 1, by omega⟩
    refine (h.next? cursor).bind fun next => ?_
    match next with
    | none => exact Halts.pure state
    | some (item, cursor) =>
      -- the turn begins with its charge, so that the turns to come have three units less
      dsimp only
      rw [bind_assoc, bind_assoc]
      refine HaltsOf.pay (Halts.bind ((hrest state item).within (Nat.sub_le b 3)) fun step => ?_)
      match step with
      | .yield state =>
        exact ih (h.within (Nat.sub_le b 3))
          (fun state item => (hrest state item).within (Nat.sub_le b 3)) (by omega) (by omega)
          cursor state
      | .done state => exact Halts.pure state

section Loops

variable (h : Terminating b ev ev')

include h

/-- **All items of a value** can be taken. -/
theorem collect (v : Value) : Halts b (ev.collect v) (ev'.collect v) := by
  cases v with
  | list id => exact Halts.heap.bind fun heap => Halts.pure (heap.list id)
  | tuple items => exact Halts.pure items.toArray
  | _ =>
    refine (Halts.startIteration _).bind fun cursor => ?_
    exact h.iterate (fun items item => Halts.pure (.yield (items.push item))) h.enough h.rounds_le
      cursor #[]

theorem runRound (s : ScopeId) (body : Block) :
    Halts b (runRound ev s body) (runRound ev' s body) := by
  refine (h.execBlock s body).attempt_bind fun result _ hne => Halts.ofStop ?_
  match result, hne with
  | .ok (), _ | .error (.fault _), _ | .error (.returns _), _ | .error .breaks, _
  | .error .continues, _ | .error .gasExhausted, _ => simp [roundEnd]
  | .error .endless, hne => exact absurd rfl hne

end Loops

/-- **A `while` loop ends.** -/
theorem runWhile (h : Terminating b ev ev') (s : ScopeId) (condition : Expr) (body : Block)
    {n n' : Nat} (hn : b ≤ 3 * n + 2) (hle : n ≤ n') :
    Halts b (runWhile ev s condition body n) (runWhile ev' s condition body n') := by
  induction n generalizing b n' with
  | zero => exact HaltsOf.endless (by omega)
  | succ n ih =>
    obtain ⟨n', rfl⟩ : ∃ k, n' = k + 1 := ⟨n' - 1, by omega⟩
    have hpaid := h.within (Nat.sub_le b 3)
    refine HaltsOf.pay ((hpaid.holds s condition).bind fun b => HaltsOf.ite ?_ (Halts.pure true))
    refine (hpaid.runRound s body).bind fun again => HaltsOf.ite ?_ (Halts.pure false)
    exact ih hpaid (by omega) (by omega)

end Terminating

end MeteredScript
