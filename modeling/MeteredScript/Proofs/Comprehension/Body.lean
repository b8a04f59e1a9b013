import MeteredScript.Proofs.Comprehension.Clauses
import MeteredScript.Proofs.Dialogue.Agreement

/-!
# The body of a generator expression

A list comprehension opens a scope for its clauses; a generator expression opens the
same scope and puts its first iterable and its generator there. Once the generator
is resumed the two machines are beside each other (`Machine.beside_expressing`). So
the body hands over what the clauses collect and ends as they do
(`draws_generatorBody`).
-/

namespace MeteredScript

open Coupling

variable {α : Type} {k : ScopeId} {floor d n bound : Nat} {m m' p : Machine}

/-! ## The two machines -/

/-- The machine with another limit for the calls inside one another. -/
def Machine.withRoom (m : Machine) (limit : Nat) : Machine :=
  { m with config := { m.config with maxCallDepth := limit } }

/-- The scope that a comprehension opens. -/
def Machine.nextScope (m : Machine) : ScopeId := ⟨m.scopes.scopes.size⟩

/-- The machine with a scope for a list comprehension. -/
def Machine.collecting (m : Machine) (scope : ScopeId) : Machine :=
  { m with scopes := (m.scopes.addScope .comprehension (some scope) none).2 }

/-- The machine with a scope for a generator expression. -/
def Machine.expressing (m : Machine) (scope : ScopeId) (body : Block) (outer : Value) : Machine :=
  { m with
    scopes := (m.scopes.addScope .comprehension (some scope) (some (.notStarted body))).2.define
      m.nextScope outerIterable outer }

namespace ScopeTree

/-- A new scope for a generator that runs is a twin of a new scope. -/
theorem twins_addScope (t : ScopeTree) (kind : ScopeKind) (parent : Option ScopeId)
    (state : GeneratorState) (v : Value) :
    Twins (some ⟨t.scopes.size⟩) (t.addScope kind parent none).2
      (((t.addScope kind parent (some state)).2.define ⟨t.scopes.size⟩ outerIterable v).setGenerator
        ⟨t.scopes.size⟩ .running) where
  size := by simp [setGenerator, define, addScope]
  elsewhere s apart := by
    have apart : s ≠ ⟨t.scopes.size⟩ := fun heq => apart (by rw [heq])
    have old : s.index ≠ t.scopes.size := fun heq => apart (by cases s; exact congrArg _ heq)
    rw [scope?_setGenerator_of_ne _ _ apart, scope?_define_of_ne _ _ apart,
      t.scope?_addScope_of_ne s _ _ _ old, t.scope?_addScope_of_ne s _ _ _ old]
  here := by
    rintro _ ⟨⟩
    rw [scope?_setGenerator_self, scope?_define_self, t.scope?_addScope_self,
      t.scope?_addScope_self]
    refine ⟨_, _, rfl, rfl, rfl, rfl, fun name shown => ?_, rfl⟩
    rw [Bindings.find?_insert, if_neg shown]

end ScopeTree

/-- **A generator expression that is resumed runs beside the list comprehension.** -/
theorem Machine.beside_expressing (m : Machine) (scope : ScopeId) (body : Block) (outer : Value)
    (gas : Nat) (hu : m.Unmetered) (spares : Spares m.functions m.scopes) :
    Beside (some m.nextScope) m.depth m.depth (m.collecting scope)
      (Machine.driving { (m.expressing scope body outer).withRoom
        (max m.config.maxCallDepth m.depth + 1) with gas } ⟨m.nextScope⟩ [.suite body]) where
  heap := rfl
  functions := rfl
  nextSerial := rfl
  transcript := rfl
  handling := rfl
  scopes := m.scopes.twins_addScope .comprehension (some scope) (.notStarted body) outer
  base := Nat.le_refl _
  depth := rfl
  deeper := rfl
  room := rfl
  unmetered := hu
  unmetered' := hu
  spares := spares.addScope .comprehension (some scope) (by simp)
  shown := by
    rintro _ ⟨⟩ state hs
    have fresh := m.scopes.generator?_addScope_self .comprehension (some scope) none
    exact absurd (fresh.symm.trans hs) (by simp)

/-- A generator expression has its first iterable in its own scope. -/
theorem Machine.findLocal?_expressing (m : Machine) (scope : ScopeId) (body : Block)
    (outer : Value) :
    (m.expressing scope body outer).scopes.findLocal? m.nextScope outerIterable = some outer := by
  unfold Machine.expressing Machine.nextScope
  rw [ScopeTree.findLocal?, ScopeTree.bindings_define (by simp [ScopeTree.addScope]), if_pos rfl,
    Bindings.find?_insert, if_pos rfl]

/-- A new generator expression has not started. -/
theorem Machine.generator?_expressing (m : Machine) (scope : ScopeId) (body : Block)
    (outer : Value) :
    (m.expressing scope body outer).scopes.generator? m.nextScope = some (.notStarted body) := by
  unfold Machine.expressing Machine.nextScope
  rw [ScopeTree.generator?_define]
  exact m.scopes.generator?_addScope_self .comprehension (some scope) (some (.notStarted body))

/-! ## The body -/

/-- What a generator body gives, when it ends. -/
theorem Talk.Draws.runBody {scope : ScopeId} {body : Block} {r : Except Stop Unit}
    {items : List Value} (h : (Talk.execBlock (Talk.exec scope bound) body).Draws m r items p)
    (hr : Settles r) : (Talk.runBody scope bound body).Draws m (r.map fun _ => .none) items p := by
  have drawn {r' : Except Stop Value} {f : Except Stop Unit → Talk Value}
      (hf : (f r).Draws p r' [] p) :
      (Talk.attempt (Talk.execBlock (Talk.exec scope bound) body) >>= f).Draws m r' items p := by
    have drawn := h.attempt.bind hf
    rw [List.append_nil] at drawn
    exact drawn
  unfold Talk.runBody
  match r, hr with
  | .ok (), _ => exact drawn (.pure _ p)
  | .error s, hr =>
    obtain ⟨f, rfl⟩ := hr s rfl
    exact drawn (.stop _ p)

/-- **The body of a generator expression hands over what the clauses collect.** -/
theorem draws_generatorBody {element : Expr} {first : Clause} {rest : List Clause} {outer : Value}
    (helement : outerIterable ∉ element.names)
    (hclauses : outerIterable ∉ clausesNames (first :: rest))
    (hle : n + nesting (first :: rest) ≤ bound) (hR : Beside (some k) floor d m m')
    (own : m'.scopes.findLocal? k outerIterable = some outer) {r : Except Stop (Array Value)}
    (hrun : (collectElements (.bounded n) k ((Evaluator.bounded n).eval element k) (first :: rest)
      (some outer) #[]).on m = (r, p)) (hr : Settles r) :
    ∃ r' items p', Beside (some k) floor d p p' ∧ Ends (Adds #[]) items r r' ∧
      (Talk.execBlock (Talk.exec k bound) (generatorBody element first rest)).Draws m' r' items
        p' := by
  rw [nesting] at hle
  have nested : 1 ≤ nesting rest := by cases rest <;> simp [nesting]
  obtain ⟨bound, rfl⟩ : ∃ k, bound = k + 1 + first.conditions.length + 1 :=
    ⟨bound - first.conditions.length - 2, by omega⟩
  obtain ⟨target, iterable, conditions⟩ := first
  simp only [clausesNames, List.mem_append, not_or] at hclauses
  obtain ⟨⟨⟨htarget, hiterable⟩, hconditions⟩, hrest⟩ := hclauses
  dsimp only at hle ⊢
  have hless : n ≤ bound + 1 := by omega
  have hitems : Yields k floor (Adds #[]) _ _ :=
    yields_items (c := ⟨target, iterable, conditions⟩) hless htarget hconditions
      (fun elements => yields_clauses helement hrest (by omega) elements) outer #[]
  have hR₁ : Beside (some k) floor d m { m' with gas := min (m'.gas + 1) Eval.gasCeiling } :=
    { hR with }
  have hR₂ : Beside (some k) floor d m
    { m' with gas := min (min (m'.gas + 1) Eval.gasCeiling + 1) Eval.gasCeiling } := { hR with }
  obtain ⟨r', items, p', hR', drawn, ends⟩ := hitems hR₂ hrun hr
  refine ⟨r', items, p', hR', ends, ?_⟩
  -- the first iterable is found under the hidden name
  have hname := on_eval_name (n := bound + conditions.length) hR₁.unmetered'
    (m'.scopes.find?_of_findLocal? k own)
  rw [Nat.add_right_comm bound conditions.length 1] at hname
  have hform : (Talk.execForm (.bounded (bound + 1 + conditions.length))
      (Talk.exec k (bound + 1 + conditions.length)) k
      (.forLoop target (.name outerIterable) (guardedBy conditions (clausesToLoops element rest))
        none)).Draws _ r' items p' :=
    (Talk.Draws.lift hname (by simp)).bind drawn
  have hstmt : (Talk.exec k (bound + 1 + conditions.length + 1) (StmtForm.synthetic
      (.forLoop target (.name outerIterable) (guardedBy conditions (clausesToLoops element rest))
        none))).Draws m' r' items p' :=
    (Talk.Draws.lift hR.unmetered'.on_tick (by simp)).bind hform
  cases r' with
  | ok =>
    have drawn := hstmt.bind (f := fun _ => pure ()) (.pure () p')
    rw [List.append_nil] at drawn
    exact drawn
  | error s => exact hstmt.bind_error

end MeteredScript
