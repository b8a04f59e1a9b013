import MeteredScript.Proofs.Comprehension.Body
import MeteredScript.Proofs.Exhaustion.Signal

/-!
# Taking all items of a generator

`list` of a generator resumes it until it does not yield any more, so it gives what
is drawn from its body (`on_list_of_told`). The frames of the generator and the
conversation use gas at different places, and so does whoever takes the items. Where
gas does not run out, only how much was used depends on it (`Sim.gas`).
-/

namespace MeteredScript

open Coupling

variable {α : Type} {m n : Machine} {id : GeneratorId} {bound : Nat}

/-- **Gas makes no difference** to what comes to an end before it runs out. -/
theorem Coupling.Sim.withGas {x y : Eval α} (h : (upToGas False False).Sim x y)
    {r : Except Stop α} (hx : x.on m = (r, n)) (hr : r ≠ .error .endless) (hn : ¬ n.Spent)
    {gas limit : Nat} (hy : ¬ (y.on (m.withGas gas limit)).2.Spent) :
    ∃ gas', y.on (m.withGas gas limit) = (r, n.withGas gas' limit) := by
  have hburns := h.right upToGas_lenient (m.withGas gas limit)
  have hsame := h.sameButGas (by rwa [hx]) hy
  rw [hx] at hsame
  obtain ⟨gas', limit', hmachine⟩ := hsame.2 hr
  -- the limit is the one that the run started with
  obtain rfl : limit' = limit := by
    rw [hmachine] at hburns
    exact congrArg Config.gasLimit hburns.1
  exact ⟨gas', Prod.ext hsame.1 hmachine⟩

/-- Gas that was used before makes no difference where it does not run out. -/
theorem Coupling.Sim.gas {x y : Eval α} (h : (upToGas False False).Sim x y) (hu : m.Unmetered)
    {r : Except Stop α} (hx : x.on m = (r, n)) (hr : r ≠ .error .endless) (gas : Nat) :
    n.Unmetered ∧ ∃ gas', y.on { m with gas } = (r, { n with gas := gas' }) := by
  have hburns := h.left upToGas_lenient m
  rw [hx] at hburns
  have hu' : n.Unmetered := hu.mono hburns
  have hy : ¬ (y.on (m.withGas gas m.config.gasLimit)).2.Spent :=
    (Machine.Unmetered.mono (m := m.withGas gas m.config.gasLimit) hu
      (h.right upToGas_lenient _)).not_spent
  obtain ⟨gas', heq⟩ := h.withGas hx hr hu'.not_spent hy
  refine ⟨hu', gas', heq.trans ?_⟩
  rw [← hburns.1]
  rfl

/-! ## What is told is resumed -/

/-- **The resumes of a generator do what is told of its body**, given enough room. -/
theorem resumedBody_of_told {body : Block} {actions : List Resume} {room : Nat}
    (hu : m.Unmetered) (hstate : m.scopes.generator? id.scope = some (.notStarted body))
    (hdepth : m.depth < m.config.maxCallDepth) {r : Except Halt Value} {d : Dialogue}
    (htold : toldBody m id room body actions = (.ok (r, d), n)) :
    ∃ enough, ∀ bound ≥ enough, ∃ state gas, Halt.Leaves r state ∧
      resumedBody m id bound actions =
        (.ok (d.yielded, Halt.ending r), { m.resting n id state with gas }) := by
  have hends : (toldBody m id room body actions).1 ≠ .error .endless := by
    rw [htold]
    simp
  have htold_spent (room : Nat) : ¬ (toldBody m id room body actions).2.Spent :=
    have hcomplete : (upToGas False False).Complete := upToGas_complete
    have hsim := hcomplete.talkBody upToGas_shows id.scope (.refl room) body ⟨actions, []⟩
    (Machine.Unmetered.mono (m := m.driving id [.suite body]) hu
      (hsim.left upToGas_lenient _)).not_spent
  have hresumed_spent (bound : Nat) : ¬ (resumedBody m id bound actions).2.Spent :=
    have hself : (upToGas False False).Couples (.bounded bound) (.bounded bound) :=
      couples_self bound
    have hsim := hself.resumeAll id (.send .none :: actions)
    (hu.mono (hsim.left upToGas_lenient m)).not_spent
  obtain ⟨enough, henough⟩ := ends_of_told hstate hdepth hends (htold_spent room)
  refine ⟨enough + 1, fun bound hbound => ?_⟩
  obtain ⟨bound, rfl⟩ : ∃ k, bound = k + 1 := ⟨bound - 1, by omega⟩
  obtain ⟨⟨values, ending⟩, m', hall⟩ := henough (bound + 1) (by omega) (hresumed_spent _)
  have hspent := hresumed_spent (bound + 1)
  rw [hall] at hspent
  obtain ⟨enough', htells⟩ := tells_of_resumed hstate hdepth hall hspent
  -- what is told to an end is told so with more room
  have heq := toldBody_of_le (Nat.le_max_left room enough') hends
  have htells := htells (max room enough') (Nat.le_max_right _ _) (htold_spent _)
  rw [heq, htold] at htells
  obtain ⟨r', d', n', hsame, hvalues, hending, state, gas, hleaves, rfl⟩ := htells
  cases hsame
  exact ⟨state, gas, hleaves, by rw [hall, hvalues, hending]⟩

/-! ## What is resumed is collected -/

/-- What an iteration makes of how a generator stops. -/
def drainedEnd {σ : Type} (state : σ) : Stop → Except Stop σ
  | .fault (.exhausted _) => .ok state
  | s => .error s

/-- What leaves a body is no end of iteration. -/
theorem drainedEnd_escaped {σ : Type} (state : σ) (s : Stop) :
    drainedEnd state (escaped s) = .error (escaped s) := by
  have other := isInstanceOf_escaped s
  generalize escaped s = t at other
  match t, other with
  | .fault (.exhausted _), other => cases other
  | .fault (.unresolvedName _), _ | .fault (.typeFault _), _ | .fault (.protocolViolation _), _
  | .fault (.raised _), _ | .returns _, _ | .breaks, _ | .continues, _ | .gasExhausted, _
  | .endless, _ => rfl

/-- **The first of several resumes** yields, and then the others follow, or it is the
last. -/
theorem resumeAll_cons_cases {ev : Evaluator} {action : Resume} {actions : List Resume}
    {values : List Value} {ending : Option Stop}
    (hall : (resumeAll ev id (action :: actions)).on m = (.ok (values, ending), n)) :
    (∃ v rest p, values = v :: rest ∧ (ev.resume id action).on m = (.ok v, p) ∧
      (resumeAll ev id actions).on p = (.ok (rest, ending), n)) ∨
    ∃ s, s ≠ .endless ∧ values = [] ∧ ending = some s ∧
      (ev.resume id action).on m = (.error s, n) := by
  rw [resumeAll] at hall
  cases hresume : (ev.resume id action).on m with
  | mk r p =>
    by_cases hr : r = .error .endless
    · rw [hr] at hresume
      rw [Eval.on_bind_error (Eval.on_attempt_of_endless hresume)] at hall
      cases hall
    rw [Eval.on_bind_ok (Eval.on_attempt_of_ne hresume hr)] at hall
    cases r with
    | error s =>
      cases hall
      exact .inr ⟨s, by simpa using hr, rfl, rfl, rfl⟩
    | ok v =>
      dsimp only at hall
      rw [Eval.on_bind] at hall
      cases hrest : (resumeAll ev id actions).on p with
      | mk r' n' =>
        rw [hrest] at hall
        rcases r' with s | ⟨rest, e⟩
        · cases hall
        · cases hall
          exact .inl ⟨v, rest, p, rfl, rfl, hrest⟩

theorem on_next?_of_yields {ev : Evaluator} {v : Value}
    (h : (ev.resume id (.send .none)).on m = (.ok v, n)) :
    (ev.next? (.generator id)).on m = (.ok (some (v, .generator id)), n) := by
  have hyield : (ev.nextYielded? id).on m = (.ok (some v), n) := by
    rw [Evaluator.nextYielded?, Eval.on_bind_ok (Eval.on_attempt_of_ne h (by simp))]
    rfl
  rw [Evaluator.next?, Eval.on_bind_ok hyield]
  rfl

/-- A generator that stops ends an iteration, or stops it. -/
theorem on_iterate_of_stops {σ : Type} {ev : Evaluator} {s : Stop}
    (h : (ev.resume id (.send .none)).on m = (.error s, n)) (hs : s ≠ .endless)
    (turn : σ → Value → Eval (ForInStep σ)) (rounds : Nat) (state : σ) :
    (ev.iterate turn (rounds + 1) (.generator id) state).on m =
      (drainedEnd state s, n) := by
  rw [Evaluator.iterate, Evaluator.next?, Evaluator.nextYielded?, bind_assoc, bind_assoc,
    Eval.on_bind_ok (Eval.on_attempt_of_ne h (by simpa using hs))]
  cases s with
  | fault f => cases f <;> rfl
  | returns | breaks | continues | gasExhausted | endless => rfl

/-- One item is added for a unit of gas. -/
def addItem (items : Array Value) (item : Value) : Eval (ForInStep (Array Value)) := do
  Eval.tick
  return .yield (items.push item)

/-- **Who takes all items takes what the resumes yield.** -/
theorem on_iterate_of_resumeAll {values : List Value} {s : Stop} (hu : m.Unmetered)
    (hall : (resumeAll (.bounded bound) id
      (List.replicate (values.length + 1) (.send .none))).on m = (.ok (values, some s), n))
    {rounds : Nat} (hrounds : values.length < rounds) (items : Array Value) (gas : Nat) :
    ∃ items' gas', items'.toList = items.toList ++ values ∧
      ((Evaluator.bounded bound).iterate addItem rounds (.generator id) items).on { m with gas } =
        (drainedEnd items' s, { n with gas := gas' }) := by
  obtain ⟨rounds, rfl⟩ : ∃ k, rounds = k + 1 := ⟨rounds - 1, by omega⟩
  have hself : (upToGas False False).Sim ((Evaluator.bounded bound).resume id (.send .none))
      ((Evaluator.bounded bound).resume id (.send .none)) :=
    (couples_self bound).resume id (.send .none)
  induction values generalizing m rounds items gas with
  | nil =>
    rcases resumeAll_cons_cases hall with ⟨v, rest, p, heq, -, -⟩ | ⟨s', hs, -, heq, hstop⟩
    · cases heq
    cases heq
    obtain ⟨-, gas', hstop⟩ := hself.gas hu hstop (by simpa using hs) gas
    exact ⟨items, gas', by simp, on_iterate_of_stops hstop hs addItem rounds items⟩
  | cons v values ih =>
    rcases resumeAll_cons_cases hall with ⟨v', rest, p, heq, hyield, hall⟩ | ⟨s', -, heq, -, -⟩
    · cases heq
      rw [List.length_cons] at hrounds
      obtain ⟨rounds, rfl⟩ : ∃ k, rounds = k + 1 := ⟨rounds - 1, by omega⟩
      obtain ⟨hp, gas', hyield⟩ := hself.gas hu hyield (by simp) gas
      obtain ⟨items', gas'', hitems, hrest⟩ := ih hp hall (items.push v)
        (min (gas' + 1) Eval.gasCeiling) rounds (by omega)
      refine ⟨items', gas'', by simpa using hitems, ?_⟩
      have hp : Machine.Unmetered { p with gas := gas' } := hp
      have hadd : (addItem items v).on { p with gas := gas' } =
          (.ok (.yield (items.push v)), { p with gas := min (gas' + 1) Eval.gasCeiling }) := by
        rw [addItem, Eval.on_bind_ok hp.on_tick]
        rfl
      rw [Evaluator.iterate, Eval.on_bind_ok (on_next?_of_yields hyield)]
      dsimp only
      rw [Eval.on_bind_ok hadd]
      exact hrest
    · cases heq

/-- A call of `list` with a generator takes all its items into a new list. -/
theorem callBuiltin_list (ev : Evaluator) (id : GeneratorId) (name : String) :
    callBuiltin ev .list [.generator id name] =
      ev.iterate addItem ev.rounds (.generator id) #[] >>= fun items => Eval.place (.list items) :=
  rfl

/-- **`list` of a generator expression** gives what is drawn from its body, given
enough room. -/
theorem on_list_of_draws (id : GeneratorId) {body : Block} {room : Nat} (hu : m.Unmetered)
    (hstate : m.scopes.generator? id.scope = some (.notStarted body))
    (hdepth : m.depth < m.config.maxCallDepth) {r : Except Stop Value} {items : List Value}
    (hdraws : (Talk.runBody id.scope room body).Draws (m.driving id [.suite body]) r items n) :
    ∃ enough, ∀ bound ≥ enough, ∃ state gas s items', Halt.Leaves (Talk.told r) state ∧
      Halt.ending (Talk.told r) = some s ∧ items'.toList = items ∧
      ((Evaluator.bounded bound).iterate addItem bound (.generator id) #[]).on m =
        (drainedEnd items' s, { m.resting n id state with gas }) := by
  have htold : toldBody m id room body (List.replicate items.length (.send .none)) =
      (.ok (Talk.told r, ⟨[], [] ++ items⟩), n) := by
    rw [← hdraws [] [], List.append_nil]
    rfl
  obtain ⟨s, hending⟩ : ∃ s, Halt.ending (Talk.told r) = some s := by
    cases r with
    | ok v => exact ⟨_, rfl⟩
    | error s => exact ⟨_, rfl⟩
  obtain ⟨enough, henough⟩ := resumedBody_of_told hu hstate hdepth htold
  refine ⟨max enough (items.length + 1), fun bound hbound => ?_⟩
  obtain ⟨state, gas, hleaves, hall⟩ := henough bound (by omega)
  rw [hending] at hall
  obtain ⟨items', gas', hitems, hrun⟩ := on_iterate_of_resumeAll hu
    (hall : (resumeAll (.bounded bound) id (List.replicate (items.length + 1) (.send .none))).on m =
      _) (show items.length < bound by omega) #[] m.gas
  exact ⟨state, gas', s, items', hleaves, hending, hitems, hrun⟩

end MeteredScript
