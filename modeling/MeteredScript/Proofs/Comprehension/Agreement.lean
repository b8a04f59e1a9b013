import Mathlib
import MeteredScript.Proofs.Comprehension.Outcome
import MeteredScript.Proofs.Lifecycle.Growth

/-!
# A generator expression that is drained at once

The call of `list` with a generator expression does what the list comprehension
does (`generator_drained_at_once`). Both evaluate the first iterable and open a
scope. From there on the list comprehension goes through its clauses, and the call
resumes a generator whose body says the same. An exception that reports the end of
iteration shows the difference: it does not leave a generator.

The call is one level deeper and uses more gas, so nothing is said about runs that
feel a limit.
-/

namespace MeteredScript

open Coupling

variable {m n : Machine} {bound room : Nat} {element : Expr} {first : Clause} {rest : List Clause}
  {scope : ScopeId}

/-! ## The call -/

/-- **The call of `list` with a generator expression.** -/
def listOfGenerator (element : Expr) (clauses : List Clause) : Expr :=
  .call (.name Builtin.list.name) [.comprehension (.generator element) clauses]

/-- What both do first: evaluate the first iterable. -/
def firstIterable (ev : Evaluator) (scope : ScopeId) (first : Clause) : Eval Value := do
  Eval.tick
  ev.eval first.iterable scope

/-- What the call does before it calls: it looks up the function and makes the
generator. -/
def prepareList (ev : Evaluator) (scope : ScopeId) (element : Expr) (clauses : List Clause) :
    Eval (Value × Value) := do
  Eval.tick
  let function ← ev.eval (.name Builtin.list.name) scope
  let generator ← ev.eval (.comprehension (.generator element) clauses) scope
  return (function, generator)

theorem evalExpr_listOfGenerator (ev : Evaluator) (clauses : List Clause) :
    evalExpr ev (listOfGenerator element clauses) scope =
      prepareList ev scope element clauses >>= fun p => callValue ev p.1 [p.2] := by
  simp only [evalExpr, listOfGenerator, evalForm, Evaluator.evalAll, prepareList, bind_assoc,
    pure_bind]

theorem evalExpr_comprehension (ev : Evaluator) :
    evalExpr ev (.comprehension (.list element) (first :: rest)) scope =
      firstIterable ev scope first >>= fun outer =>
        Eval.newScope .comprehension (some scope) >>= fun inner =>
          collectList ev inner element (first :: rest) outer := by
  simp only [evalExpr, evalForm, evalComprehension, firstIterable, bind_assoc, collectList]

/-- A built-in function that no scope binds the name of. -/
theorem on_eval_builtin {b : Builtin} (hu : m.Unmetered)
    (unbound : m.scopes.find? scope b.name = none) :
    ((Evaluator.bounded (room + 1)).eval (.name b.name) scope).on m =
      (.ok (.builtin b), { m with gas := min (m.gas + 1) Eval.gasCeiling }) := by
  have hfind (gas : Nat) :
      (Eval.find? scope b.name).on { m with gas } = (.ok none, { m with gas }) := by
    rw [← unbound]
    rfl
  rw [on_eval_lookup hu, Eval.lookup, Eval.on_bind_ok (hfind _)]
  dsimp only
  rw [Builtin.ofName?_name]
  rfl

/-- **Up to the generator the call does what the list comprehension does**: it
evaluates the first iterable. -/
theorem on_prepareList (element : Expr) (rest : List Clause) (hu : m.Unmetered)
    (unbound : m.scopes.find? scope Builtin.list.name = none)
    (hle : bound < room) {r : Except Stop Value}
    (hfirst : (firstIterable (.bounded bound) scope first).on m = (r, n))
    (hr : r ≠ .error .endless) :
    ∃ gas, (prepareList (.bounded room) scope element (first :: rest)).on m =
      Eval.on
        (do
          let outer ← Eval.ofStop r
          let generator ←
            newGeneratorExpression scope (generatorBody element first rest) outer
          return (.builtin .list, generator))
        { n with gas } := by
  obtain ⟨room, rfl⟩ : ∃ k, room = k + 1 := ⟨room - 1, by omega⟩
  have hticked : Machine.Unmetered { m with gas := min (m.gas + 1) Eval.gasCeiling } := hu
  have hlooked : Machine.Unmetered { m with
    gas := min (min (m.gas + 1) Eval.gasCeiling + 1) Eval.gasCeiling } := hu
  rw [firstIterable, Eval.on_bind_ok hu.on_tick] at hfirst
  have hroomier : ((Evaluator.bounded room).eval first.iterable scope).on
      { m with gas := min (m.gas + 1) Eval.gasCeiling } = (r, n) := by
    rw [← hfirst]
    refine ((roomier_bounded (Nat.le_of_lt_succ hle)).eval (roomier_shows _)).extends _ ?_
    rw [hfirst]
    exact hr
  have hself : (upToGas False False).Sim ((Evaluator.bounded room).eval first.iterable scope)
      ((Evaluator.bounded room).eval first.iterable scope) :=
    (couples_self room).eval (upToGas_shows _)
  obtain ⟨-, gas, hiterable⟩ := hself.gas hticked hroomier hr
    (min (min (min (m.gas + 1) Eval.gasCeiling + 1) Eval.gasCeiling + 1) Eval.gasCeiling)
  refine ⟨gas, ?_⟩
  rw [prepareList, Eval.on_bind_ok hu.on_tick, Eval.on_bind_ok (on_eval_builtin hticked unbound)]
  show (evalExpr (.bounded room) (.comprehension (.generator element) (first :: rest)) scope >>=
    _).on _ = _
  rw [evalExpr, bind_assoc, Eval.on_bind_ok hlooked.on_tick]
  show (((Evaluator.bounded room).eval first.iterable scope >>= _) >>= _).on _ = _
  rw [bind_assoc, Eval.on_bind, hiterable, Eval.on_bind, Eval.on_ofStop]

/-- What cannot be iterated is a type error. -/
theorem escaped_notIterable {h : Heap} {v : Value} {f : Fault}
    (hv : Cursor.ofValue h v = .error f) : escaped (.fault f) = .fault f := by
  cases v <;> first | cases hv; rfl | cases hv

/-- **How far the call gets before it takes items**: it fails where the list
comprehension fails, or it has the generator, and the list comprehension goes through
its clauses. -/
theorem prepareList_cases (hu : m.Unmetered) (spares : Spares m.functions m.scopes)
    (unbound : m.scopes.find? scope Builtin.list.name = none)
    (hfirst : outerIterable ∉ first.iterable.names) {r r₀ : Except Stop Value} {m₀ : Machine}
    (hiterable : (firstIterable (.bounded bound) scope first).on m = (r₀, m₀))
    (hrun : (evalExpr (.bounded bound) (.comprehension (.list element) (first :: rest)) scope).on
      m = (r, n)) (hr : Settles r) :
    (∃ s, r = .error s ∧ (r₀ = .error s ∨ escaped s = s) ∧ ∀ room > bound, ∃ gas,
      (prepareList (.bounded room) scope element (first :: rest)).on m =
        (.error s, { n with gas })) ∨
    ∃ outer, r₀ = .ok outer ∧ m₀.Unmetered ∧ Spares m₀.functions m₀.scopes ∧
      m.scopes.scopes.size ≤ m₀.scopes.scopes.size ∧
      (collectList (.bounded bound) m₀.nextScope element (first :: rest) outer).on
        (m₀.collecting scope) = (r, n) ∧ ∀ room > bound, ∃ gas,
      (prepareList (.bounded room) scope element (first :: rest)).on m =
        (.ok (.builtin .list, .generator ⟨m₀.nextScope⟩ generatorExpressionName),
          { m₀.expressing scope (generatorBody element first rest) outer with gas }) := by
  rw [evalExpr_comprehension, Eval.on_bind, hiterable] at hrun
  have hr₀ : r₀ ≠ .error .endless := by
    rintro rfl
    cases hrun
    obtain ⟨f, hf⟩ := hr .endless rfl
    cases hf
  have hprepare (room : Nat) (hroom : room > bound) :=
    on_prepareList element rest hu unbound hroom hiterable hr₀
  match r₀ with
  | .error s =>
    cases hrun
    exact .inl ⟨s, rfl, .inl rfl, hprepare⟩
  | .ok outer =>
    have hcollect : (collectList (.bounded bound) m₀.nextScope element (first :: rest) outer).on
        (m₀.collecting scope) = (r, n) := hrun
    simp only [Eval.on_bind_ok (Eval.on_ofStop (.ok outer) _), Eval.on_bind,
      on_newGeneratorExpression] at hprepare
    cases hcursor : Cursor.ofValue m₀.heap outer with
    | error f =>
      simp only [hcursor] at hprepare
      have hstart : (Evaluator.startIteration outer).on (m₀.collecting scope) =
          (.error (.fault f), m₀.collecting scope) := by
        show (Eval.ofFault (Cursor.ofValue m₀.heap outer)).on _ = _
        rw [hcursor]
        rfl
      rw [collectList, collectElements, clauseIterable, pure_bind, bind_assoc,
        Eval.on_bind_error hstart] at hcollect
      cases hcollect
      exact .inl ⟨_, rfl, .inr (escaped_notIterable hcursor), hprepare⟩
    | ok cursor =>
      simp only [hcursor] at hprepare
      have hsim (floor : Nat) : (beside none floor).Sim
          (firstIterable (.bounded bound) scope first)
          (firstIterable (.bounded bound) scope first) :=
        Sim.bind beside_lawful.tick fun _ =>
          (beside_bounded (Nat.le_refl bound)).eval (beside_shows_iff.2 hfirst)
      have hgas : (upToGas False False).Sim (firstIterable (.bounded bound) scope first)
          (firstIterable (.bounded bound) scope first) :=
        Sim.bind upToGas_lawful.tick fun _ => (couples_self bound).eval (upToGas_shows _)
      have hgrown : m.scopes.scopes.size ≤ m₀.scopes.scopes.size := by
        rw [firstIterable, Eval.on_bind_ok hu.on_tick] at hiterable
        exact size_le_of_eval (m := { m with gas := min (m.gas + 1) Eval.gasCeiling }) hiterable hr₀
      exact .inr ⟨outer, rfl, (hgas.gas hu hiterable hr₀ 0).1,
        spares_of_sim hsim hu spares hiterable hr₀, hgrown, hcollect, hprepare⟩

/-! ## Limits -/

/-- **The limit on calls inside one another is not felt**: with a higher limit the
evaluation does the same. -/
def Eval.Shallow {α : Type} (x : Eval α) (m : Machine) : Prop :=
  ∀ limit ≥ m.config.maxCallDepth,
    x.on (m.withRoom limit) = ((x.on m).1, (x.on m).2.withRoom limit)

/-- The call of `list` does not feel it, once there is a generator. -/
def ShallowDrain (room : Nat) (scope : ScopeId) (element : Expr) (clauses : List Clause)
    (m : Machine) : Prop :=
  ∀ p n, (prepareList (.bounded room) scope element clauses).on m = (.ok p, n) →
    (callValue (.bounded room) p.1 [p.2]).Shallow n

section Metered

variable {α : Type} {x : Eval α} {r r₀ r' : Except Stop α} {m₀ n' : Machine}

/-- An evaluation that came to an end before gas ran out does the same without a limit
on gas. -/
theorem on_unmetered (h : (upToGas False False).Sim x x) (hx : x.on m = (r, n))
    (hr : r ≠ .error .endless) (hn : ¬ n.Spent) :
    ∃ gas, x.on m.unmetered = (r, n.withGas gas Eval.gasCeiling) :=
  h.withGas hx hr hn (m.unmetered_unmetered.mono (h.right upToGas_lenient _)).not_spent

/-- What an evaluation does without a limit on gas it does before gas runs out. -/
theorem on_of_unmetered (h : (upToGas False False).Sim x x) (hx : x.on m.unmetered = (r, n))
    (hr : r ≠ .error .endless) (hspent : ¬ (x.on m).2.Spent) :
    ∃ gas, x.on m = (r, n.withGas gas m.config.gasLimit) := by
  have hburns := h.left upToGas_lenient m.unmetered
  rw [hx] at hburns
  have hn : ¬ n.Spent := (m.unmetered_unmetered.mono hburns).not_spent
  have hy : ¬ (x.on (m.unmetered.withGas m.gas m.config.gasLimit)).2.Spent := hspent
  exact h.withGas hx hr hn hy

/-- An evaluation that does not feel the limits does what it does with more of both. -/
theorem on_of_roomy (h : (upToGas False False).Sim x x) (hu : m.Unmetered)
    {limit gas gas' gasLimit : Nat} (hroomy : x.on { m.withRoom limit with gas } = (r, n))
    (hr : r ≠ .error .endless) (hrun : x.on (m.withGas gas' gasLimit) = (r', n'))
    (hn' : ¬ n'.Spent) (hlimit : m.config.maxCallDepth ≤ limit)
    (hshallow : x.Shallow (m.withGas gas' gasLimit)) :
    r' = r ∧ ∃ gas'', n'.withRoom limit = n.withGas gas'' gasLimit := by
  have hdeep : x.on ((m.withRoom limit).withGas gas' gasLimit) = (r', n'.withRoom limit) := by
    have hsame := hshallow limit hlimit
    rw [hrun] at hsame
    exact hsame
  have hburns := h.left upToGas_lenient { m.withRoom limit with gas }
  rw [hroomy] at hburns
  have hu' : Machine.Unmetered { m.withRoom limit with gas } := hu
  have hn : ¬ n.Spent := (hu'.mono hburns).not_spent
  have hspent : ¬ (x.on ((m.withRoom limit).withGas gas' gasLimit)).2.Spent := by
    rw [hdeep]
    exact hn'
  obtain ⟨gas'', hmetered⟩ := h.withGas hroomy hr hn hspent
  obtain ⟨rfl, hsame⟩ := Prod.mk.inj (hdeep.symm.trans hmetered)
  exact ⟨rfl, gas'', hsame⟩

end Metered

/-! ## Gas before the call -/

section Gas

variable {r r₀ r' : Except Stop Value} {m₀ n' : Machine}

theorem gas_firstIterable : (upToGas False False).Sim
    (firstIterable (.bounded bound) scope first) (firstIterable (.bounded bound) scope first) :=
  Sim.bind upToGas_lawful.tick fun _ => (couples_self bound).eval (upToGas_shows _)

theorem gas_prepareList (clauses : List Clause) : (upToGas False False).Sim
    (prepareList (.bounded room) scope element clauses)
    (prepareList (.bounded room) scope element clauses) := by
  have hself : (upToGas False False).Couples (.bounded room) (.bounded room) := couples_self room
  refine Sim.bind hself.tick fun _ => ?_
  refine Sim.bind (hself.eval (upToGas_shows _)) fun _ => ?_
  exact Sim.bind (hself.eval (upToGas_shows _)) fun _ => Sim.pure _

/-- The first iterable comes to an end before gas runs out if all of the list
comprehension does. -/
theorem firstIterable_settles
    (hrun : (evalExpr (.bounded bound) (.comprehension (.list element) (first :: rest)) scope).on
      m = (r, n)) (hr : r ≠ .error .endless) (hn : ¬ n.Spent)
    (hiterable : (firstIterable (.bounded bound) scope first).on m = (r₀, m₀)) :
    r₀ ≠ .error .endless ∧ ¬ m₀.Spent := by
  rw [evalExpr_comprehension, Eval.on_bind, hiterable] at hrun
  match r₀ with
  | .error s =>
    cases hrun
    exact ⟨hr, hn⟩
  | .ok outer =>
    have hself : (upToGas False False).Couples (.bounded bound) (.bounded bound) :=
      couples_self bound
    have hcollect : (upToGas False False).Sim
        (Eval.newScope .comprehension (some scope) >>= fun inner =>
          collectList (.bounded bound) inner element (first :: rest) outer) _ :=
      Sim.bind (upToGas_newScope _ _) fun inner =>
        Sim.bind (hself.collectElements (hself.eval (upToGas_shows _)) (upToGas_shows _)
          (some outer) #[]) fun elements => hself.place _
    have hburns := hcollect.left upToGas_lenient m₀
    dsimp only at hrun
    rw [hrun] at hburns
    exact ⟨by simp, fun hspent => hn (hspent.mono hburns)⟩

/-- Gas does not run out before the call if it does not in the call. -/
theorem prepareList_not_spent {clauses : List Clause}
    (hlist : (prepareList (.bounded room) scope element clauses >>= fun p =>
      callValue (.bounded room) p.1 [p.2]).on m = (r', n')) (hn' : ¬ n'.Spent) :
    ¬ ((prepareList (.bounded room) scope element clauses).on m).2.Spent := by
  have hself : (upToGas False False).Couples (.bounded room) (.bounded room) := couples_self room
  have hburns := evolves_of_bind Machine.Burns.refl
    (prepareList (.bounded room) scope element clauses) (f := fun p =>
      callValue (.bounded room) p.1 [p.2])
    (fun p m => (hself.callValue p.1 [p.2]).left upToGas_lenient m) m
  rw [hlist] at hburns
  exact fun hspent => hn' (hspent.mono hburns)

/-! ## Agreement -/

/-- **The same effects**, but for the gas used, and for the hidden name and the
generator of a scope that one of the two opened. -/
structure Machine.SameEffects (k : ScopeId) (m m' : Machine) : Prop extends
    Machine.SameStore k m m' where
  standing : m'.standing = m.standing

/-- What the outcome of the list comprehension becomes in the call, given how the
first iterable was evaluated. -/
def drainedResult : Except Stop Value → Except Stop Value → Except Stop Value
  | .ok _, r => throughGenerator r
  | .error _, r => r

/-- An expression leaves the machine at its standing. -/
theorem standing_of_evalExpr {e : Expr}
    (hrun : (evalExpr (.bounded bound) e scope).on m = (r, n)) (hr : r ≠ .error .endless) :
    n.standing = m.standing := by
  have hself := (balanced_bounded False bound).evalExpr (s := scope) (keeping_shows e.names)
  have hstanding := (standing_of_sim hself False.elim (by rw [hrun]; exact hr)).2.1
  rw [hrun] at hstanding
  exact hstanding

/-- The call of `list` with a new generator expression, where no limit is felt. -/
theorem on_call_of_collect (hu : m.Unmetered) (spares : Spares m.functions m.scopes)
    (helement : outerIterable ∉ element.names)
    (hclauses : outerIterable ∉ clausesNames (first :: rest)) {outer : Value}
    (hcollect : (collectList (.bounded bound) m.nextScope element (first :: rest) outer).on
      (m.collecting scope) = (r, n)) (hr : Settles r) :
    ∃ enough, ∀ room ≥ enough, ∀ m₁ r' n', (∃ gas gasLimit, m₁ =
        (m.expressing scope (generatorBody element first rest) outer).withGas gas gasLimit) →
      let call := callValue (.bounded room) (.builtin .list)
        [.generator ⟨m.nextScope⟩ generatorExpressionName]
      call.on m₁ = (r', n') → ¬ n'.Spent → call.Shallow m₁ →
        r' = throughGenerator r ∧ Machine.SameStore m.nextScope n n' := by
  obtain ⟨enough, henough⟩ := on_list_of_expressing scope hu spares helement hclauses hcollect hr 0
  refine ⟨enough, fun room hroom => ?_⟩
  rintro _ r' n' ⟨gas, gasLimit, rfl⟩ call hcall hn' hshallow
  obtain ⟨n₂, hdrain, hstore⟩ := henough room hroom
  have hself : (upToGas False False).Couples (.bounded room) (.bounded room) := couples_self room
  have hexpressing :
      (m.expressing scope (generatorBody element first rest) outer).Unmetered := hu
  obtain ⟨rfl, gas', hroomy⟩ := on_of_roomy (hself.callValue (.builtin .list)
    [.generator ⟨m.nextScope⟩ generatorExpressionName]) hexpressing hdrain
    hr.throughGenerator_ne_endless hcall hn' (Nat.le_succ_of_le (Nat.le_max_left ..)) hshallow
  have hsame : Machine.SameStore m.nextScope n (n₂.withGas gas' gasLimit) := { hstore with }
  rw [← hroomy] at hsame
  exact ⟨rfl, { hsame with }⟩

/-- **The call of `list` with a generator expression.** -/
theorem on_listOfGenerator (spares : Spares m.functions m.scopes)
    (unbound : m.scopes.find? scope Builtin.list.name = none)
    (helement : outerIterable ∉ element.names)
    (hclauses : outerIterable ∉ clausesNames (first :: rest))
    (hrun : (evalExpr (.bounded bound) (.comprehension (.list element) (first :: rest)) scope).on
      m = (r, n)) (hr : Settles r) (hn : ¬ n.Spent)
    (hiterable : (firstIterable (.bounded bound) scope first).on m = (r₀, m₀)) :
    ∃ enough, ∀ room ≥ enough, ∀ r' n',
      (evalExpr (.bounded room) (listOfGenerator element (first :: rest)) scope).on m = (r', n') →
      ¬ n'.Spent → ShallowDrain room scope element (first :: rest) m →
      r' = drainedResult r₀ r ∧
        ∃ k : ScopeId, m.scopes.scopes.size ≤ k.index ∧ Machine.SameEffects k n n' := by
  have hends : r ≠ .error .endless := by
    rintro rfl
    obtain ⟨f, hf⟩ := hr .endless rfl
    cases hf
  have hnames : outerIterable ∉ first.iterable.names := by
    obtain ⟨target, iterable, conditions⟩ := first
    simp only [clausesNames, List.mem_append, not_or] at hclauses
    exact hclauses.1.1.2
  obtain ⟨hfirst_ends, hfirst_spent⟩ := firstIterable_settles hrun hends hn hiterable
  obtain ⟨gas, hrun'⟩ :=
    on_unmetered ((couples_self bound).evalExpr (upToGas_shows _)) hrun hends hn
  obtain ⟨gas₀, hiterable'⟩ := on_unmetered gas_firstIterable hiterable hfirst_ends hfirst_spent
  rcases prepareList_cases m.unmetered_unmetered spares unbound hnames hiterable' hrun' hr
    with ⟨s, rfl, hsame, hprepare⟩ | ⟨outer, rfl, hu, hspares, hgrown, hcollect, hprepare⟩
  -- both fail before there is a generator
  · refine ⟨bound + 1, fun room hroom r' n' hlist hn' _ => ?_⟩
    obtain ⟨gas', hprepare⟩ := hprepare room hroom
    have hlist' := hlist
    rw [evalExpr_listOfGenerator] at hlist'
    obtain ⟨gas'', hprepare⟩ := on_of_unmetered (gas_prepareList (first :: rest)) hprepare
      (by simpa using hends) (prepareList_not_spent hlist' hn')
    rw [Eval.on_bind_error hprepare] at hlist'
    cases hlist'
    refine ⟨?_, ⟨m.scopes.scopes.size⟩, Nat.le_refl _, .of_scopes_eq rfl rfl rfl rfl rfl, ?_⟩
    · cases r₀ with
      | error => rfl
      | ok =>
        rcases hsame with hsame | hsame
        · cases hsame
        · exact congrArg Except.error hsame.symm
    · rw [standing_of_evalExpr hlist hends, standing_of_evalExpr hrun hends]
  -- the call drains the generator
  · obtain ⟨enough, henough⟩ := on_call_of_collect hu hspares helement hclauses hcollect hr
    refine ⟨max (bound + 1) enough, fun room hroom r' n' hlist hn' hshallow => ?_⟩
    obtain ⟨gas', hprepare⟩ := hprepare room (by omega)
    have hlist' := hlist
    rw [evalExpr_listOfGenerator] at hlist'
    obtain ⟨gas'', hprepare⟩ := on_of_unmetered (gas_prepareList (first :: rest)) hprepare
      (by simp) (prepareList_not_spent hlist' hn')
    rw [Eval.on_bind_ok hprepare] at hlist'
    obtain ⟨rfl, hstore⟩ := henough room (by omega) _ r' n' ⟨gas'', m.config.gasLimit, rfl⟩
      hlist' hn' (hshallow _ _ hprepare)
    refine ⟨rfl, _, hgrown, { hstore with }, ?_⟩
    rw [standing_of_evalExpr hlist hr.throughGenerator_ne_endless, standing_of_evalExpr hrun hends]

/-- **What a generator expression that is drained at once makes of a list
comprehension**, given how the first iterable was evaluated (`r₀`), how the list
comprehension came out (`r`) and how the call of `list` did (`r'`). -/
structure Drained (r₀ r r' : Except Stop Value) : Prop where
  /-- If there is a list, it is the same list. -/
  succeeds {v : Value} : r = .ok v → r' = .ok v
  /-- If there is an exception that does not report the end of iteration, it is the
  same exception. -/
  fails {f : Fault} : r = .error (.fault f) → f.isInstanceOf .stopIteration = false →
    r' = .error (.fault f)
  /-- If there is one that does, from a clause or the element, it does not leave the
  generator. -/
  escapes {f : Fault} {outer : Value} : r₀ = .ok outer → r = .error (.fault f) →
    f.isInstanceOf .stopIteration = true → r' = .error (.fault .escapedStopIteration)
  /-- The first iterable is evaluated outside of the generator. -/
  outermost {f : Fault} : r₀ = .error (.fault f) → r = .error (.fault f) →
    r' = .error (.fault f)

theorem drained_drainedResult (r₀ r : Except Stop Value) : Drained r₀ r (drainedResult r₀ r) where
  succeeds := by
    rintro v rfl
    cases r₀ <;> rfl
  fails := by
    rintro f rfl hf
    cases r₀ with
    | error _ => rfl
    | ok _ =>
      show Except.error (escaped (.fault f)) = _
      rw [escaped, if_neg]
      exact ne_true_of_eq_false hf
  escapes := by
    rintro f outer rfl rfl hf
    show Except.error (escaped (.fault f)) = _
    rw [escaped, if_pos]
    exact hf
  outermost := by
    rintro f rfl rfl
    rfl

/-! ## Scripts that never mention the hidden name -/

namespace Session

/-- A new session keeps no code. -/
theorem spares_start (config : Config) :
    Spares (start config).machine.functions (start config).machine.scopes := by
  have nothing : Spares #[] .empty :=
    ⟨fun _ hf => absurd hf (Array.not_mem_empty _), fun _ _ hs => nomatch hs⟩
  exact nothing.addScope .module none (by simp)

/-- **A script that never mentions the hidden name leaves no code that does.** -/
theorem spares_run {s : Session} {body : Block}
    (spares : Spares s.machine.functions s.machine.scopes) (hbody : outerIterable ∉ blockNames body)
    (ends : (s.run body).1 ≠ .error .endless) (hn : ¬ (s.run body).2.machine.Spent) :
    Spares (s.run body).2.machine.functions (s.run body).2.machine.scopes := by
  rw [run, perform_eq, Eval.on_boundedly] at ends hn ⊢
  obtain ⟨gas, hrun⟩ := on_unmetered
    ((couples_self s.machine.bound).execModule (upToGas_shows _) _) rfl ends hn
  have kept := spares_of_sim (fun floor => (beside_bounded (Nat.le_refl _)).execModule
    (beside_shows_iff.2 hbody) _) s.machine.unmetered_unmetered spares hrun ends
  exact kept

end Session

/-! ## Draining at once -/

/-- **A generator expression drained at once does what the list comprehension does.**
`list` is the built-in function, and no code in sight mentions the hidden name. The
list comprehension ends with a value or an exception, and neither run feels a limit.
Then the call ends as well. -/
theorem generator_drained_at_once (spares : Spares m.functions m.scopes)
    (unbound : m.scopes.find? scope Builtin.list.name = none)
    (helement : outerIterable ∉ element.names)
    (hclauses : outerIterable ∉ clausesNames (first :: rest))
    (hrun : (evalExpr (.bounded bound) (.comprehension (.list element) (first :: rest)) scope).on
      m = (r, n)) (hr : Settles r) (hn : ¬ n.Spent) :
    ∃ enough, ∀ room ≥ enough,
      let call := (evalExpr (.bounded room) (listOfGenerator element (first :: rest)) scope).on m
      ¬ call.2.Spent → ShallowDrain room scope element (first :: rest) m →
        Drained ((firstIterable (.bounded bound) scope first).on m).1 r call.1 ∧
          ∃ k : ScopeId, m.scopes.scopes.size ≤ k.index ∧ Machine.SameEffects k n call.2 := by
  obtain ⟨enough, henough⟩ := on_listOfGenerator spares unbound helement hclauses hrun hr hn rfl
  refine ⟨enough, fun room hroom => ?_⟩
  intro call hspent hshallow
  obtain ⟨hresult, hsame⟩ := henough room hroom call.1 call.2 rfl hspent hshallow
  rw [hresult]
  exact ⟨drained_drainedResult _ _, hsame⟩

end Gas

/-- `x * x`, where `x` is a name. -/
def square : Expr := .binary (.name "x") .mul (.name "x")

/-- The clause `for x in (1, 2, 3) if x != 2`. -/
def exceptTwo : Clause :=
  ⟨.name "x", .tuple [.int 1, .int 2, .int 3], [.compare (.name "x") [(.ne, .int 2)]]⟩

/-- The squares of 1 and 3, as a list comprehension and as a generator expression. -/
theorem squares_drained_at_once :
    ∃ enough, ∀ room ≥ enough,
      let s := Session.start .standard
      let call := (evalExpr (.bounded room) (listOfGenerator square [exceptTwo]) s.globals).on
        s.machine
      call.1 = .ok (.list ⟨0⟩) ∧ call.2.heap.list ⟨0⟩ = #[.int 1, .int 9] := by
  have hrun : (evalExpr (.bounded 20) (.comprehension (.list square) [exceptTwo])
      (Session.start .standard).globals).on (Session.start .standard).machine =
        (.ok (.list ⟨0⟩), ((evalExpr (.bounded 20) (.comprehension (.list square) [exceptTwo])
          (Session.start .standard).globals).on (Session.start .standard).machine).2) := by cbv
  have hn : ¬ ((evalExpr (.bounded 20) (.comprehension (.list square) [exceptTwo])
      (Session.start .standard).globals).on (Session.start .standard).machine).2.Spent := by
    unfold Machine.Spent
    cbv
  obtain ⟨enough, henough⟩ := generator_drained_at_once (Session.spares_start .standard)
    (by cbv) (by decide) (by decide) hrun (fun _ h => by cases h) hn
  refine ⟨max enough 20, fun room hroom => ?_⟩
  obtain ⟨room, rfl⟩ := Nat.exists_eq_add_of_le' (Nat.le_trans (Nat.le_max_right ..) hroom)
  have hspent : ¬ ((evalExpr (.bounded (room + 20)) (listOfGenerator square [exceptTwo])
      (Session.start .standard).globals).on (Session.start .standard).machine).2.Spent := by
    unfold Machine.Spent
    cbv
  have hshallow : ShallowDrain (room + 20) (Session.start .standard).globals square [exceptTwo]
      (Session.start .standard).machine := by
    intro p n hprepare limit hlimit
    cases hprepare
    obtain ⟨limit, rfl⟩ := Nat.exists_eq_add_of_le' hlimit
    cbv
  obtain ⟨drained, _, -, same⟩ := henough (room + 20) (Nat.le_trans (Nat.le_max_left ..) hroom)
    hspent hshallow
  refine ⟨drained.succeeds rfl, ?_⟩
  rw [same.heap]
  cbv

end MeteredScript
