import MeteredScript.Proofs.Coupling.Primitive

/-!
# Two runs of a loop

Going through the items of a value. What a loop does with each item is given,
and the loops do the same if their turns do.
-/

namespace MeteredScript

namespace Coupling

variable {c : Coupling}

theorem Lawful.startIteration (hc : c.Lawful) (v : Value) :
    c.Sim (Evaluator.startIteration v) (Evaluator.startIteration v) :=
  Sim.bind hc.heap fun h => Sim.ofFault (Cursor.ofValue h v)

namespace Couples

variable {ev ev' : Evaluator} (h : c.Couples ev ev')

include h

theorem nextYielded? (id : GeneratorId) : c.Sim (ev.nextYielded? id) (ev'.nextYielded? id) := by
  refine SimOf.attempt_bindOf (h.resume id (.send .none)) (fun result _ => ?_) Unwinds.throw
    fun _ _ => trivial
  match result with
  | .ok v => exact Sim.pure (some v)
  | .error (.fault (.exhausted _)) => exact Sim.pure none
  | .error (.fault (.unresolvedName _)) | .error (.fault (.typeFault _))
  | .error (.fault (.protocolViolation _)) | .error (.fault (.raised _))
  | .error (.returns _) | .error .breaks | .error .continues | .error .gasExhausted
  | .error .endless => exact Sim.throw _

theorem next? (cursor : Cursor) : c.Sim (ev.next? cursor) (ev'.next? cursor) := by
  match cursor with
  | .list id i =>
    refine Sim.bind h.heap fun heap => ?_
    cases (heap.list id)[i]? with
    | some v => exact Sim.pure _
    | none => exact Sim.pure _
  | .items [] => exact Sim.pure none
  | .items (v :: rest) => exact Sim.pure (some (v, Cursor.items rest))
  | .generator id =>
    refine Sim.bind (h.nextYielded? id) fun v => ?_
    cases v with
    | some v => exact Sim.pure _
    | none => exact Sim.pure _

section Iterate

variable {σ : Type} {turn turn' : σ → Value → Eval (ForInStep σ)}
  (ht : ∀ state item, c.Sim (turn state item) (turn' state item))

include ht

/-- One round of a loop, given that the loops after it do the same. -/
theorem iterate_succ {n n' : Nat} (cursor : Cursor) (state : σ)
    (hn : ∀ cursor state,
      c.Sim (ev.iterate turn n cursor state) (ev'.iterate turn' n' cursor state)) :
    c.Sim (ev.iterate turn (n + 1) cursor state) (ev'.iterate turn' (n' + 1) cursor state) := by
  refine Sim.bind (h.next? cursor) fun next => ?_
  match next with
  | none => exact Sim.pure state
  | some (item, cursor) =>
    refine Sim.bind (ht state item) fun step => ?_
    match step with
    | .yield state => exact hn cursor state
    | .done state => exact Sim.pure state

theorem iterate_self (n : Nat) (cursor : Cursor) (state : σ) :
    c.Sim (ev.iterate turn n cursor state) (ev'.iterate turn' n cursor state) := by
  induction n generalizing cursor state with
  | zero => exact Sim.throw .endless
  | succ n ih => exact h.iterate_succ ht cursor state ih

/-- **Loops with the same turns do the same.** -/
theorem iterate {n n' : Nat} (hn : c.Rounds n n') (cursor : Cursor) (state : σ) :
    c.Sim (ev.iterate turn n cursor state) (ev'.iterate turn' n' cursor state) := by
  induction hn generalizing cursor state with
  | done => exact Sim.throw .endless
  | left n hp => exact SimOf.endless_left hp (h.iterate_self ht n cursor state)
  | right n hp => exact SimOf.endless_right hp (h.iterate_self ht n cursor state)
  | more _ ih => exact h.iterate_succ ht cursor state ih

end Iterate

theorem collect (v : Value) : c.Sim (ev.collect v) (ev'.collect v) := by
  cases v with
  | list id => exact Sim.bind h.heap fun heap => Sim.pure (heap.list id)
  | tuple items => exact Sim.pure items.toArray
  | _ =>
    refine Sim.bind (h.startIteration _) fun cursor => ?_
    refine h.iterate (fun items item => ?_) h.rounds cursor #[]
    exact Sim.bind h.tick fun _ => Sim.pure _

end Couples

end Coupling

end MeteredScript
