import MeteredScript.Proofs.Lifecycle.Growth
import MeteredScript.Proofs.Scoping.Session
import MeteredScript.Proofs.Selection.Choice

/-!
# The first case that accepts

A `match` statement commits to the first case that accepts its subject. The cases
that were tried before have bound what they captured, and nothing takes these
bindings back. Guards are expressions, and where expressions leave the scope
alone that they are evaluated in (`Evaluator.KeepsScope`), it ends up with just
these captures, bound in order (`Chooses.bindings`).

Expressions do so on every machine if an evaluator compares the bindings before
and after each of them, and they do so where code runs as in the session of a
host (`keepsScope_asserting`, `keepsScope_bounded`).
-/

namespace MeteredScript

open Eval

/-! ## What is bound in the end -/

/-- Bind names in order. -/
def Bindings.insertAll (b : Bindings) (captures : List (String × Value)) : Bindings :=
  captures.foldl (fun b e => b.insert e.1 e.2) b

theorem Bindings.insertAll_append (b : Bindings) (log captures : List (String × Value)) :
    b.insertAll (log ++ captures) = (b.insertAll log).insertAll captures :=
  List.foldl_append

theorem bindings_binding {scope : ScopeId} {m : Machine}
    (inside : scope.index < m.scopes.scopes.size) (captures : List (String × Value)) :
    (m.binding scope captures).scopes.bindings scope =
        (m.scopes.bindings scope).insertAll captures ∧
      scope.index < (m.binding scope captures).scopes.scopes.size := by
  induction captures generalizing m with
  | nil => exact ⟨rfl, inside⟩
  | cons capture rest ih =>
    obtain ⟨name, value⟩ := capture
    have still : scope.index < (m.scopes.define scope name value).scopes.size :=
      (ScopeTree.size_define m.scopes scope name value).symm ▸ inside
    have first := ScopeTree.bindings_define inside scope name value
    rw [if_pos rfl] at first
    obtain ⟨bound, size⟩ := ih (m := { m with scopes := m.scopes.define scope name value }) still
    refine ⟨bound.trans ?_, size⟩
    exact congrArg (Bindings.insertAll · rest) first

/-- **Code that leaves the scope it runs in alone**, on machines of some sort: what
it evaluates there changes no binding, and that captures of a subject are bound
does not matter to it. -/
structure Evaluator.KeepsScope (ev : Evaluator) (scope : ScopeId) (subject : Value)
    (P : Machine → Prop) : Prop where
  /-- The scope is there. -/
  inside {m : Machine} : P m → scope.index < m.scopes.scopes.size
  /-- Expressions leave it alone. -/
  eval {e : Expr} {m n : Machine} {r : Except Stop Value} : P m →
    (ev.eval e scope).on m = (r, n) → r ≠ .error .endless →
    P n ∧ n.scopes.bindings scope = m.scopes.bindings scope
  /-- Captures may be bound in it. -/
  bind {p : Pattern} {m : Machine} {captures : List (String × Value)} : P m →
    p.Captures m.heap subject captures → P (m.binding scope captures)

section Bound

variable {ev : Evaluator} {scope : ScopeId} {subject : Value} {P : Machine → Prop} {c : Case}
  {cases : List Case} {m n : Machine} {captures log : List (String × Value)}
  {outcome : Except Stop (Option Block) × Machine} (keeps : ev.KeepsScope scope subject P)

include keeps

/-- A guard finds the captures bound and leaves them. -/
theorem Evaluator.KeepsScope.guarded (start : P m) {p : Pattern}
    (fits : p.Captures m.heap subject captures) {guard : Expr} {r : Except Stop Value}
    (evaluated : (ev.eval guard scope).on (m.binding scope captures) = (r, n))
    (ends : r ≠ .error .endless) :
    P n ∧ n.scopes.bindings scope = (m.scopes.bindings scope).insertAll captures := by
  obtain ⟨still, kept⟩ := keeps.eval (keeps.bind start fits) evaluated ends
  exact ⟨still, kept.trans (bindings_binding (keeps.inside start) captures).1⟩

theorem CasePasses.bindings (passes : CasePasses ev scope subject c m captures n)
    (start : P m) : P n ∧ n.scopes.bindings scope = (m.scopes.bindings scope).insertAll captures := by
  cases passes with
  | misfit never => exact ⟨start, rfl⟩
  | refused fits guarded refuses =>
    obtain ⟨evaluated, -⟩ := refuses
    exact keeps.guarded start fits evaluated nofun

theorem CasesPass.bindings (pass : CasesPass ev scope subject cases m log n) (start : P m) :
    P n ∧ n.scopes.bindings scope = (m.scopes.bindings scope).insertAll log := by
  induction pass with
  | none m => exact ⟨start, rfl⟩
  | next passes rest ih =>
    obtain ⟨still, bound⟩ := passes.bindings keeps start
    rw [Bindings.insertAll_append, ← bound]
    exact ih still

theorem CaseDecides.bindings (decides : CaseDecides ev scope subject c m captures outcome)
    (start : P m) (ends : outcome.1 ≠ .error .endless) :
    outcome.2.scopes.bindings scope = (m.scopes.bindings scope).insertAll captures := by
  cases decides with
  | unguarded fits free => exact (bindings_binding (keeps.inside start) captures).1
  | accepted fits guarded accepts =>
    obtain ⟨evaluated, -⟩ := accepts
    exact (keeps.guarded start fits evaluated nofun).2
  | failed fits guarded stopped =>
    exact (keeps.guarded start fits stopped fun same => ends (by cases same; rfl)).2

/-- **The scope ends up with the captures of all cases that were tried**, bound in
order. -/
theorem Selects.bindings (selects : Selects ev scope subject cases m log outcome) (start : P m)
    (ends : outcome.1 ≠ .error .endless) :
    outcome.2.scopes.bindings scope = (m.scopes.bindings scope).insertAll log := by
  cases selects with
  | none pass => exact (pass.bindings keeps start).2
  | decided split pass decides =>
    obtain ⟨still, bound⟩ := pass.bindings keeps start
    rw [Bindings.insertAll_append, ← bound]
    exact decides.bindings keeps still ends

end Bound

section Choice

variable {ev : Evaluator} {scope : ScopeId} {subject : Expr} {cases : List Case} {m : Machine}
  {log : List (String × Value)}

/-- The same from before the subject is evaluated. -/
theorem Chooses.bindings {outcome : Except Stop (Option Block) × Machine}
    (chooses : Chooses ev scope subject cases m log outcome) (ends : outcome.1 ≠ .error .endless)
    (keeps : ∀ {r : Except Stop Value} {n : Machine}, (ev.eval subject scope).on m = (r, n) →
      r ≠ .error .endless → n.scopes.bindings scope = m.scopes.bindings scope ∧
        ∀ v, r = .ok v → ∃ P, ev.KeepsScope scope v P ∧ P n) :
    outcome.2.scopes.bindings scope = (m.scopes.bindings scope).insertAll log := by
  cases chooses with
  | noSubject stopped => exact (keeps stopped fun same => ends (by cases same; rfl)).1
  | selects evaluated selects =>
    obtain ⟨kept, later⟩ := keeps evaluated nofun
    obtain ⟨P, keeps, start⟩ := later _ rfl
    rw [← kept]
    exact selects.bindings keeps start ends

end Choice

/-! ## Expressions keep their scopes -/

section Asserting

variable {scope : ScopeId} {m n : Machine} {bound : Nat} {e : Expr} {r : Except Stop Value}

theorem on_asserting {x : Eval Value} (ran : (asserting scope (throw .endless) x).on m = (r, n))
    (ends : r ≠ .error .endless) :
    x.on m = (r, n) ∧ n.scopes.bindings scope = m.scopes.bindings scope := by
  generalize first : x.on m = before
  obtain ⟨r', n'⟩ := before
  rw [asserting, on_bind_ok (Eval.on_get m)] at ran
  by_cases more : r' = .error .endless
  · subst more
    rw [on_bind_error (on_attempt_of_endless first)] at ran
    cases ran
    exact absurd rfl ends
  · rw [on_bind_ok (on_attempt_of_ne first more), on_bind_ok (Eval.on_get n')] at ran
    split at ran
    · rename_i kept
      rw [on_ofStop] at ran
      cases ran
      exact ⟨rfl, kept⟩
    · cases ran
      exact absurd rfl ends

open Coupling in
/-- Comparing bindings gives no scope up. -/
theorem peopled_asserting (bound : Nat) : (keeping Peopled).Couples
    (.asserting (throw .endless) bound) (.asserting (throw .endless) bound) := by
  induction bound with
  | zero => exact peopled_complete.idle
  | succ bound ih =>
    have deeper := peopled_complete.deeper ih
    refine { deeper with eval := fun {e s} shown => keeping_sim fun least m peopled => ?_ }
    generalize ran : ((Evaluator.asserting (throw .endless) (bound + 1)).eval e s).on m = outcome
    obtain ⟨r, n⟩ := outcome
    by_cases endless : r = .error .endless
    · exact .inl ⟨endless, endless⟩
    · have same := (deeper.eval (s := s) shown).alike peopled
      have ran : ((Evaluator.asserting (throw .endless) bound).deeper.eval e s).on m = (r, n) :=
        (on_asserting ran endless).1
      rw [ran] at same
      exact same

/-- **To compare the bindings of a scope** before and after each expression is to
keep them. -/
theorem bindings_asserting
    (ran : ((Evaluator.asserting (throw .endless) bound).eval e scope).on m = (r, n))
    (ends : r ≠ .error .endless) : n.scopes.bindings scope = m.scopes.bindings scope := by
  cases bound with
  | zero =>
    cases ran
    exact absurd rfl ends
  | succ bound => exact (on_asserting ran ends).2

theorem inside_asserting
    (ran : ((Evaluator.asserting (throw .endless) bound).eval e scope).on m = (r, n))
    (ends : r ≠ .error .endless) (inside : scope.index < m.scopes.scopes.size) :
    scope.index < n.scopes.scopes.size := by
  have peopled : Peopled m.scopes.scopes.size m := Nat.le_refl _
  have alike := ((peopled_asserting bound).eval (s := scope)
    (Coupling.keeping_shows e.names)).alike peopled
  rw [ran] at alike
  rcases alike with ⟨endless, -⟩ | ⟨-, -, grown⟩
  · exact absurd endless ends
  · exact Nat.lt_of_lt_of_le inside grown.1

theorem keepsScope_asserting (bound : Nat) (scope : ScopeId) (v : Value) :
    (Evaluator.asserting (throw .endless) bound).KeepsScope scope v
      fun m => scope.index < m.scopes.scopes.size where
  inside := id
  eval inside ran ends := ⟨inside_asserting ran ends inside, bindings_asserting ran ends⟩
  bind inside _ := (bindings_binding inside _).2

end Asserting

section Executing

variable {g : Executing} {w : Purposes} {scope : ScopeId} {m n : Machine} {bound : Nat} {e : Expr}
  {r : Except Stop Value}

/-- **What an expression leaves** where code runs. -/
theorem after_eval (inv : Regime.executing.Inv g w m) (active : g.active scope)
    (ran : ((Evaluator.bounded bound).eval e scope).on m = (r, n)) (ends : r ≠ .error .endless) :
    Regime.executing.After g w r n ∧ n.scopes.bindings scope = m.scopes.bindings scope := by
  have alike : Regime.executing.Keeps g w ((Evaluator.bounded bound).eval e scope)
      ((Evaluator.asserting (throw .endless) bound).eval e scope) :=
    (keeping_asserting (throw .endless) bound).eval active
  have same := (Regime.keeps_iff rfl).1 alike w m (Regime.executing.grows_refl w) inv
  rw [ran] at same
  rcases same with ⟨endless, -⟩ | ⟨same, -, after⟩
  · exact absurd endless ends
  · exact ⟨after, bindings_asserting same ends⟩

theorem keepsScope_bounded (active : g.active scope) (free : ∀ b, ¬ g.kept scope b) {v : Value}
    (within : Within w.namespaces v) : (Evaluator.bounded bound).KeepsScope scope v
      fun m => ∃ w', Regime.executing.Grows w w' ∧ Regime.executing.Inv g w' m where
  inside := by
    rintro m ⟨w', -, inv⟩
    exact inv.holds.lt_size active
  eval := by
    rintro e m n r ⟨w', grown, inv⟩ ran ends
    obtain ⟨⟨w'', more, inv, -⟩, kept⟩ := after_eval inv active ran ends
    exact ⟨⟨w'', Regime.executing.grows_trans grown more, inv⟩, kept⟩
  bind := by
    rintro p m captures ⟨w', grown, inv⟩ fits
    have captured := within_captures? inv.upheld.heap (within.grow grown) p
    rw [Pattern.captures?_eq_some_iff.2 fits, within_some] at captured
    have bound := (Regime.keeps_iff rfl).1 (Regime.Keeps.bindCaptures free captured) w' m
      (Regime.executing.grows_refl w') inv
    rw [on_bindCaptures] at bound
    rcases bound with ⟨endless, -⟩ | ⟨-, -, w'', more, inv, -⟩
    · cases endless
    · exact ⟨w'', Regime.executing.grows_trans grown more, inv⟩

end Executing

/-- **What is true of `match` statements.** -/
structure FirstMatch (bound : Nat) : Prop where
  /-- One that can be paid for chooses a case and runs its body, if there is one. -/
  course {ev : Evaluator} {scope : ScopeId} {span : Span} {subject : Expr} {cases : List Case}
    {m m₁ : Machine} : tick.on m = (.ok (), m₁) → ∀ outcome,
      (execStmt ev ⟨span, .select subject cases⟩ scope).on m = outcome ↔
        GoesOn ev scope subject cases (ev.execOptional scope) m₁ outcome
  /-- One that cannot does nothing. -/
  unpaid {ev : Evaluator} {scope : ScopeId} {span : Span} {subject : Expr} {cases : List Case}
    {m m₁ : Machine} {s : Stop} : tick.on m = (.error s, m₁) →
      (execStmt ev ⟨span, .select subject cases⟩ scope).on m = (.error s, m₁)
  /-- A generator chooses in the same way, and goes on with the body as its next
  frame, if the statement contains a `yield`. -/
  opens {ev : Evaluator} {scope : ScopeId} {span : Span} {subject : Expr} {cases : List Case}
    {rest : Block} {frames : List Frame} {m : Machine} :
    (⟨span, .select subject cases⟩ : Stmt).yields = true → ∀ outcome,
      (advanceFrame ev scope (.suite (⟨span, .select subject cases⟩ :: rest)) frames).on m =
        outcome ↔ GoesOn ev scope subject cases
          (fun body => return .onward (suiteOf body (.suite rest :: frames))) m outcome
  /-- Otherwise it runs the statement in one piece. -/
  whole {scope : ScopeId} {span : Span} {subject : Expr} {cases : List Case} {rest : Block}
    {frames : List Frame} : (⟨span, .select subject cases⟩ : Stmt).yields = false →
      advanceFrame (.bounded (bound + 1)) scope (.suite (⟨span, .select subject cases⟩ :: rest))
        frames = do
        execStmt (.bounded bound) ⟨span, .select subject cases⟩ scope
        return .onward (.suite rest :: frames)
  /-- Behind the case that decides anything may stand. -/
  unread {ev : Evaluator} {scope : ScopeId} {v : Value} {before : List Case} {c : Case}
    {log captures : List (String × Value)} {m m₁ : Machine}
    {outcome : Except Stop (Option Block) × Machine} : CasesPass ev scope v before m log m₁ →
      CaseDecides ev scope v c m₁ captures outcome →
      ∀ after, (selectCase ev scope v (before ++ c :: after)).on m = outcome
  /-- The scope of the module has in the end what the cases that were tried
  captured, bound in order. -/
  module {s : Session} {subject : Expr} {cases : List Case} {m : Machine}
    {log : List (String × Value)} {outcome : Except Stop (Option Block) × Machine} : s.Honest →
      tick.on s.machine = (.ok (), m) →
      Chooses (.bounded bound) s.globals subject cases m log outcome →
      outcome.1 ≠ .error .endless → outcome.2.scopes.bindings s.globals =
        (s.machine.scopes.bindings s.globals).insertAll log
  /-- So has every scope, on every machine, if the bindings are compared before and
  after each expression, -/
  bindings {scope : ScopeId} {subject : Expr} {cases : List Case} {m : Machine}
    {log : List (String × Value)} {outcome : Except Stop (Option Block) × Machine} :
      scope.index < m.scopes.scopes.size →
      Chooses (.asserting (throw .endless) bound) scope subject cases m log outcome →
      outcome.1 ≠ .error .endless →
      outcome.2.scopes.bindings scope = (m.scopes.bindings scope).insertAll log
  /-- which makes no difference to anything that a host can ask for, if it makes up
  no class objects. -/
  unnoticed {s : Session} {task : Task} : s.Honest → s.Accepts task →
    ((task.run (.bounded bound)).on s.machine).1 ≠ .error .endless →
      (task.run (.asserting (throw .endless) bound)).on s.machine =
        (task.run (.bounded bound)).on s.machine

/-- **A `match` statement commits to the first case that accepts.** -/
theorem match_commits_to_first_acceptance (bound : Nat) : FirstMatch bound where
  course paid outcome := by rw [execStmt, on_bind_ok paid, execForm, goesOn_iff]
  unpaid stopped := on_bind_error stopped _
  opens yields outcome := by rw [advanceFrame, if_pos yields, beginStmt, goesOn_iff]
  unread pass decides _ := Selects.on_selectCase (.decided rfl pass decides)
  whole silent := by rw [advanceFrame, if_neg (Bool.eq_false_iff.1 silent)]; rfl
  module {s subject cases m log outcome} honest paid chooses ends := by
    -- paying for the statement touches nothing but the gas
    have inv {gas : Nat} : Regime.executing.Inv s.stage s.purposes { s.machine with gas } :=
      honest.orderly.inv.congr rfl rfl rfl rfl
    rw [tick, on_charge] at paid
    obtain ⟨-, rfl⟩ := Prod.mk.inj paid
    refine chooses.bindings ends fun ran more => ?_
    obtain ⟨⟨w, -, later, within⟩, kept⟩ := after_eval inv (.inl rfl) ran more
    refine ⟨kept, fun v given => ?_⟩
    subst given
    exact ⟨_, keepsScope_bounded (.inl rfl) (fun _ => False.elim) (within_ok.1 within), w,
      Regime.executing.grows_refl w, later⟩
  bindings {scope _ _ m _ _} inside chooses ends := by
    refine chooses.bindings ends fun ran more => ⟨bindings_asserting ran more, fun v _ => ?_⟩
    exact ⟨_, keepsScope_asserting bound scope v, inside_asserting ran more inside⟩
  unnoticed {s task} honest accepts ends := by
    have same := (keeping_asserting (throw .endless) bound).task accepts.allows s.purposes
      s.machine (Regime.executing.grows_refl _) honest.orderly.inv
    rcases same with ⟨endless, -⟩ | ⟨same, -⟩
    · exact absurd endless ends
    · exact same

end MeteredScript
