import MeteredScript.Proofs.Comprehension.Drain

/-!
# What a generator expression makes of a list comprehension

Both put the same items into a list, or stop with the same exception, and leave the
same objects, printed lines and scopes behind (`on_list_of_expressing`). Two things
differ. The scope of the generator expression keeps the hidden name and the generator.
And an exception that reports the end of iteration does not leave a generator as it
is (`throughGenerator`).
-/

namespace MeteredScript

open Coupling

variable {α : Type} {k : ScopeId} {m m' n : Machine}

/-- **The same objects, functions, printed lines and scopes**, but for the hidden name
and the generator of one scope. -/
structure Machine.SameStore (k : ScopeId) (m m' : Machine) : Prop where
  heap : m'.heap = m.heap
  functions : m'.functions = m.functions
  nextSerial : m'.nextSerial = m.nextSerial
  transcript : m'.transcript = m.transcript
  size : m'.scopes.scopes.size = m.scopes.scopes.size
  elsewhere : ∀ s, s ≠ k → m'.scopes.scope? s = m.scopes.scope? s
  here : ∀ x, m.scopes.scope? k = some x → ∃ x', m'.scopes.scope? k = some x' ∧
    x'.kind = x.kind ∧ x'.parent = x.parent ∧
    ∀ name, name ≠ outerIterable → x'.bindings.find? name = x.bindings.find? name

namespace Machine.SameStore

theorem of_scopes_eq (heap : m'.heap = m.heap) (functions : m'.functions = m.functions)
    (nextSerial : m'.nextSerial = m.nextSerial) (transcript : m'.transcript = m.transcript)
    (scopes : m'.scopes = m.scopes) : SameStore k m m' where
  heap := heap
  functions := functions
  nextSerial := nextSerial
  transcript := transcript
  size := by rw [scopes]
  elsewhere s _ := by rw [scopes]
  here x hx := ⟨x, by rw [scopes]; exact hx, rfl, rfl, fun _ _ => rfl⟩

/-- A result is put into the same place. -/
theorem place (h : SameStore k m m') (result : Fresh) :
    ∃ v, (Eval.place result).on m = (.ok v, { m with heap := (m.heap.place result).2 }) ∧
      (Eval.place result).on m' = (.ok v, { m' with heap := (m.heap.place result).2 }) ∧
      SameStore k { m with heap := (m.heap.place result).2 }
        { m' with heap := (m.heap.place result).2 } := by
  refine ⟨(m.heap.place result).1, rfl, ?_, { h with heap := rfl }⟩
  rw [← h.heap]
  rfl

end Machine.SameStore

/-- The store of a generator body at rest is that of the clauses. -/
theorem Beside.sameStore {floor d : Nat} {p n : Machine} (h : Beside (some k) floor d p n)
    (m : Machine) (state : GeneratorState) (gas : Nat) :
    Machine.SameStore k p { m.resting n ⟨k⟩ state with gas } where
  heap := h.heap
  functions := h.functions
  nextSerial := h.nextSerial
  transcript := h.transcript
  size := by
    show (n.scopes.setGenerator k state).scopes.size = _
    rw [← h.scopes.size]
    simp [ScopeTree.setGenerator]
  elsewhere s apart := by
    show (n.scopes.setGenerator k state).scope? s = _
    have other : some k ≠ some s := fun heq => apart (Option.some.inj heq).symm
    rw [n.scopes.scope?_setGenerator_of_ne k apart, h.scopes.elsewhere s other]
  here x hx := by
    obtain ⟨y, y', hy, hy', twin⟩ := h.scopes.here k rfl
    rw [hy] at hx
    cases hx
    show ∃ x', (n.scopes.setGenerator k state).scope? k = some x' ∧ _
    rw [n.scopes.scope?_setGenerator_self, hy']
    exact ⟨_, rfl, twin.kind, twin.parent, twin.find⟩

/-- What a list comprehension does with its first iterable. -/
def collectList (ev : Evaluator) (scope : ScopeId) (element : Expr) (clauses : List Clause)
    (outer : Value) : Eval Value := do
  Eval.place (.list (← collectElements ev scope (ev.eval element scope) clauses (some outer) #[]))

/-- **What becomes of the outcome of a list comprehension** when a generator computes
it: the exception that reports the end of iteration does not leave a generator. -/
def throughGenerator (r : Except Stop α) : Except Stop α := r.mapError escaped

theorem Settles.throughGenerator_ne_endless {r : Except Stop α} (h : Settles r) :
    throughGenerator r ≠ .error .endless := by
  match r with
  | .ok _ => exact fun heq => nomatch heq
  | .error s =>
    obtain ⟨f, rfl⟩ := h s rfl
    show Except.error (escaped (.fault f)) ≠ _
    rw [escaped]
    split <;> simp

/-- **`list` of a new generator expression** does what the list comprehension does,
given enough room and one more call. -/
theorem on_list_of_expressing {bound : Nat} {element : Expr} {first : Clause} {rest : List Clause}
    {outer : Value} (scope : ScopeId) (hu : m.Unmetered) (spares : Spares m.functions m.scopes)
    (helement : outerIterable ∉ element.names)
    (hclauses : outerIterable ∉ clausesNames (first :: rest)) {r : Except Stop Value}
    (hrun : (collectList (.bounded bound) m.nextScope element (first :: rest) outer).on
      (m.collecting scope) = (r, n)) (hr : Settles r) (gas : Nat) :
    ∃ enough, ∀ room ≥ enough, ∃ n',
      (callBuiltin (.bounded room) .list [.generator ⟨m.nextScope⟩ generatorExpressionName]).on
        { (m.expressing scope (generatorBody element first rest) outer).withRoom
          (max m.config.maxCallDepth m.depth + 1) with gas } = (throughGenerator r, n') ∧
      Machine.SameStore m.nextScope n n' := by
  have hR := m.beside_expressing scope (generatorBody element first rest) outer gas hu spares
  have own := (m.expressing scope (generatorBody element first rest) outer).scopes
    |>.findLocal?_setGenerator m.nextScope m.nextScope outerIterable .running
  rw [m.findLocal?_expressing] at own
  rw [collectList, Eval.on_bind] at hrun
  cases hcollect : (collectElements (.bounded bound) m.nextScope
    ((Evaluator.bounded bound).eval element m.nextScope) (first :: rest) (some outer) #[]).on
      (m.collecting scope) with
  | mk r₀ p =>
    rw [hcollect] at hrun
    have hr₀ : Settles r₀ := by
      match r₀ with
      | .ok _ => exact fun _ heq => nomatch heq
      | .error s =>
        cases hrun
        rintro _ ⟨⟩
        exact hr s rfl
    obtain ⟨r', items, p', hR', ends, drawn⟩ :=
      draws_generatorBody helement hclauses (Nat.le_refl _) hR own hcollect hr₀
    have hr' : Settles r' := by
      cases ends with
      | ok _ => exact fun _ heq => nomatch heq
      | fault f => exact fun _ heq => ⟨f, by cases heq; rfl⟩
    obtain ⟨enough, henough⟩ := on_list_of_draws ⟨m.nextScope⟩
      (m := { (m.expressing scope (generatorBody element first rest) outer).withRoom
        (max m.config.maxCallDepth m.depth + 1) with gas }) hu (m.generator?_expressing ..)
      (Nat.lt_succ_of_le (Nat.le_max_right ..)) (drawn.runBody hr')
    refine ⟨enough, fun room hroom => ?_⟩
    obtain ⟨state, gas', s, items', -, hending, hitems, hdrain⟩ := henough room hroom
    have hstore := hR'.sameStore { (m.expressing scope (generatorBody element first rest)
      outer).withRoom (max m.config.maxCallDepth m.depth + 1) with gas } state gas'
    rw [callBuiltin_list, rounds_bounded]
    cases ends with
    | @ok elements _ hadds =>
      cases hending
      obtain rfl : items' = elements := Array.ext' (by rw [hitems, hadds]; rfl)
      obtain ⟨v, hplace, hplace', hstore⟩ := hstore.place (.list items')
      dsimp only at hrun
      rw [hplace] at hrun
      cases hrun
      exact ⟨_, (Eval.on_bind_ok hdrain _).trans hplace', hstore⟩
    | fault f =>
      cases hending
      cases hrun
      rw [drainedEnd_escaped] at hdrain
      exact ⟨_, Eval.on_bind_error hdrain _, hstore⟩

end MeteredScript
