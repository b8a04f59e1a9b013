import MeteredScript.Proofs.Comprehension.Twins

/-!
# Evaluation beside a scope that differs

The machine on which a list comprehension is computed and that on which a
generator computes the same items are alike for all code that does not use the
hidden name (`beside_lawful`). Gas does not matter here: both machines have so much
of it that it does not run out.
-/

namespace MeteredScript

/-! ## Code that spares the hidden name -/

/-- **What a generator will run does not use the hidden name**, unless it is a
generator expression that has not started and has its first iterable in its own
scope. -/
def GeneratorState.Spares (own : Option Value) (state : GeneratorState) : Prop :=
  outerIterable ∉ state.names ∨
    ∃ element first rest, state = .notStarted (generatorBody element first rest) ∧
      outerIterable ∉ element.names ∧ outerIterable ∉ clausesNames (first :: rest) ∧
      own.isSome

/-- **No code that is kept uses the hidden name**: neither the functions nor what is
left of the generators. -/
structure Spares (functions : Array Function) (t : ScopeTree) : Prop where
  functions : ∀ f ∈ functions, outerIterable ∉ f.names
  generators : ∀ s state, t.generator? s = some state →
    state.Spares (t.findLocal? s outerIterable)

theorem GeneratorState.Spares.mono {own own' : Option Value} {state : GeneratorState}
    (h : state.Spares own) (kept : own.isSome → own'.isSome) : state.Spares own' := by
  rcases h with h | ⟨element, first, rest, hstate, helement, hclauses, hown⟩
  · exact .inl h
  · exact .inr ⟨element, first, rest, hstate, helement, hclauses, kept hown⟩

namespace ScopeTree

variable (t : ScopeTree)

/-- A name that is bound stays bound. -/
theorem isSome_findLocal?_define (id s : ScopeId) (name name' : String) (v : Value)
    (h : (t.findLocal? s name').isSome) : ((t.define id name v).findLocal? s name').isSome := by
  have inside : s.index < t.scopes.size := by
    unfold findLocal? bindings at h
    cases hx : t.scope? s with
    | none =>
      rw [hx] at h
      cases h
    | some x => exact t.lt_size_of_scope? s hx
  by_cases same : s = id
  · subst same
    rw [findLocal?, bindings_define inside, if_pos rfl, Bindings.find?_insert]
    split
    · rfl
    · exact h
  · unfold findLocal? bindings at h ⊢
    rw [t.scope?_define_of_ne id same]
    exact h

theorem findLocal?_setGenerator (id s : ScopeId) (name : String) (state : GeneratorState) :
    (t.setGenerator id state).findLocal? s name = t.findLocal? s name := by
  unfold findLocal? bindings
  by_cases same : s = id
  · subst same
    rw [t.scope?_setGenerator_self]
    cases t.scope? s with
    | none => rfl
    | some x => rfl
  · rw [t.scope?_setGenerator_of_ne id same]

theorem findLocal?_addScope (s : ScopeId) (name : String) (kind : ScopeKind)
    (parent : Option ScopeId) (state : Option GeneratorState) (h : s.index < t.scopes.size) :
    (t.addScope kind parent state).2.findLocal? s name = t.findLocal? s name := by
  unfold findLocal? bindings
  rw [t.scope?_addScope_of_ne s kind parent state (Nat.ne_of_lt h)]

end ScopeTree

namespace Spares

variable {functions : Array Function} {t : ScopeTree}

/-- A function that a pointer leads to, or the one that stands in for it. -/
theorem function {m : Machine} (h : Spares m.functions t) (id : FunctionId) :
    outerIterable ∉ (m.function id).names := by
  unfold Machine.function
  rw [Array.getD_eq_getD_getElem?]
  cases hf : m.functions[id.index]? with
  | none =>
    show outerIterable ∉ []
    exact List.not_mem_nil
  | some f => exact h.functions f (Array.mem_of_getElem? hf)

theorem newFunction (h : Spares functions t) {f : Function} (hf : outerIterable ∉ f.names) :
    Spares (functions.push f) t where
  functions g mem := by
    rcases Array.mem_push.1 mem with old | rfl
    · exact h.functions g old
    · exact hf
  generators := h.generators

theorem define (h : Spares functions t) (id : ScopeId) (name : String) (v : Value) :
    Spares functions (t.define id name v) where
  functions := h.functions
  generators s state hs := by
    rw [t.generator?_define] at hs
    exact (h.generators s state hs).mono (t.isSome_findLocal?_define id s name _ v)

theorem setGenerator (h : Spares functions t) (id : ScopeId) {state : GeneratorState}
    (hstate : outerIterable ∉ state.names) : Spares functions (t.setGenerator id state) where
  functions := h.functions
  generators s state' hs := by
    rw [t.findLocal?_setGenerator]
    by_cases same : s = id
    · subst same
      unfold ScopeTree.generator? at hs
      rw [t.scope?_setGenerator_self] at hs
      cases hx : t.scope? s with
      | none =>
        rw [hx] at hs
        cases hs
      | some x =>
        rw [hx] at hs
        cases hs
        exact .inl hstate
    · rw [t.generator?_setGenerator_of_ne id s same] at hs
      exact h.generators s state' hs

/-- A new scope may come with a generator that spares the name. -/
theorem addScope (h : Spares functions t) (kind : ScopeKind) (parent : Option ScopeId)
    {state : Option GeneratorState} (hstate : ∀ s ∈ state, outerIterable ∉ s.names) :
    Spares functions (t.addScope kind parent state).2 where
  functions := h.functions
  generators s state' hs := by
    by_cases new : s.index = t.scopes.size
    · obtain rfl : s = (t.addScope kind parent state).1 := by
        cases s
        exact congrArg ScopeId.mk new
      rw [t.generator?_addScope_self] at hs
      exact .inl (hstate state' hs)
    · rw [t.generator?_addScope_of_ne s kind parent state new] at hs
      rw [t.findLocal?_addScope s _ kind parent state (t.lt_size_of_generator? s hs)]
      exact h.generators s state' hs

/-- A new generator expression has its first iterable in its own scope. -/
theorem generatorExpression (h : Spares functions t) (kind : ScopeKind) (parent : Option ScopeId)
    {element : Expr} {first : Clause} {rest : List Clause} (outer : Value)
    (helement : outerIterable ∉ element.names)
    (hclauses : outerIterable ∉ clausesNames (first :: rest)) :
    Spares functions ((t.addScope kind parent
      (some (.notStarted (generatorBody element first rest)))).2.define
        ⟨t.scopes.size⟩ outerIterable outer) where
  functions := h.functions
  generators s state' hs := by
    rw [ScopeTree.generator?_define] at hs
    by_cases new : s.index = t.scopes.size
    · obtain rfl : s = ⟨t.scopes.size⟩ := by
        cases s
        exact congrArg ScopeId.mk new
      have added := t.generator?_addScope_self kind parent
        (some (.notStarted (generatorBody element first rest)))
      cases added.symm.trans hs
      refine .inr ⟨element, first, rest, rfl, helement, hclauses, ?_⟩
      rw [ScopeTree.findLocal?, ScopeTree.bindings_define (by simp [ScopeTree.addScope]),
        if_pos rfl,
        Bindings.find?_insert, if_pos rfl]
      rfl
    · rw [t.generator?_addScope_of_ne s _ _ _ new] at hs
      refine (h.generators s state' hs).mono fun bound => ?_
      refine ScopeTree.isSome_findLocal?_define _ _ _ _ _ _ ?_
      rw [t.findLocal?_addScope s _ _ _ _ (t.lt_size_of_generator? s hs)]
      exact bound

end Spares

/-! ## The coupling -/

/-- Where gas does not run out, a charge does nothing else. -/
theorem Machine.Unmetered.on_charge {m : Machine} (h : m.Unmetered) (amount : Nat) :
    (Eval.charge amount).on m =
      (.ok (), { m with gas := min (m.gas + amount) Eval.gasCeiling }) := by
  unfold Machine.Unmetered at h
  rw [Eval.on_charge, if_neg (by omega)]

theorem Machine.Unmetered.on_tick {m : Machine} (h : m.Unmetered) :
    Eval.tick.on m = (.ok (), { m with gas := min (m.gas + 1) Eval.gasCeiling }) := h.on_charge 1

/-- **Two machines with at most one scope apart**, of which the right one is one call
deeper and may go one call deeper. -/
structure Beside (k : Option ScopeId) (floor d : Nat) (m m' : Machine) : Prop where
  heap : m'.heap = m.heap
  functions : m'.functions = m.functions
  nextSerial : m'.nextSerial = m.nextSerial
  transcript : m'.transcript = m.transcript
  handling : m'.handling = m.handling
  scopes : ScopeTree.Twins k m.scopes m'.scopes
  base : floor ≤ d
  depth : m.depth = d
  deeper : m'.depth = d + 1
  room : m'.config.maxCallDepth = max m.config.maxCallDepth floor + 1
  unmetered : m.Unmetered
  unmetered' : m'.Unmetered
  spares : Spares m.functions m.scopes
  /-- The scope that differs belongs to no generator expression that has not
  started. -/
  shown : ∀ s ∈ k, ∀ state, m.scopes.generator? s = some state → outerIterable ∉ state.names

namespace Coupling

/-- **The coupling of machines with one scope apart.** Nothing is said about a left
run without end. -/
def beside (k : Option ScopeId) (floor : Nat) : Coupling where
  World := Nat
  Related := Beside k floor
  Left _ _ := True
  Right _ _ := True
  Excused _ _ := False
  patientLeft := True
  patientRight := False
  hidden name := name = outerIterable
  left_refl _ := trivial
  left_trans _ _ := trivial
  right_refl _ := trivial
  right_trans _ _ := trivial
  excused_mono h _ _ := h
  shown_of_excused h _ _ := h

variable {α β : Type} {k : Option ScopeId} {floor : Nat}

theorem beside_shows_iff {names : List String} :
    (beside k floor).Shows names ↔ outerIterable ∉ names := by
  constructor
  · exact fun h mem => h _ mem rfl
  · rintro h _ mem rfl
    exact h mem

theorem beside_not_lenient {p : Prop} (h : (beside k floor).Lenient) : p := by
  obtain ⟨_, _, h | h⟩ := h <;> exact h.elim

instance : (beside k floor).United := ⟨fun _ _ _ h => h⟩

/-- Evaluations that agree wherever the machines are alike. -/
theorem beside_simOf {P : α → Prop} {x y : Eval α}
    (h : ∀ {d m m'}, Beside k floor d m m' →
      (beside k floor).Agree (d : (beside k floor).World) P (x.on m) (y.on m')) :
    (beside k floor).SimOf P x y where
  total := beside_not_lenient
  left := beside_not_lenient
  right := beside_not_lenient
  agree hR := h hR

/-- A primitive that cannot fail. -/
theorem beside_primitive {x : Eval α} {value : Machine → α} {next : Machine → Machine}
    (hx : ∀ m, x.on m = (.ok (value m), next m))
    (hsame : ∀ {d m m'}, Beside k floor d m m' →
      value m' = value m ∧ Beside k floor d (next m) (next m')) :
    (beside k floor).Sim x x := by
  refine beside_simOf fun hR => ?_
  obtain ⟨hvalue, hnext⟩ := hsame hR
  rw [hx, hx, hvalue]
  exact .ok trivial hnext

/-- What becomes of two outcomes that are looked at. -/
theorem beside_leaving {w w' : (beside k floor).World} {P : α → Prop} {Q : β → Prop}
    {o o' : Except Stop α × Machine} (h : (beside k floor).Agree w P o o')
    {wrap : Except Stop α → Except Stop β}
    (hwrap : ∀ r, r ≠ .error .endless → wrap r ≠ .error .endless)
    (hQ : ∀ r, IfOk P r → IfOk Q (wrap r)) {tidy tidy' : Machine → Machine}
    (htidy : ∀ {n n'}, Beside k floor w n n' → Beside k floor w' (tidy n) (tidy' n')) :
    (beside k floor).Agree w' Q (Eval.leaving wrap tidy o) (Eval.leaving wrap tidy' o') := by
  have hsame {r : Except Stop α} {n n' : Machine} (hr : r ≠ .error .endless) (hP : IfOk P r)
      (hR : Beside k floor w n n') : (beside k floor).Agree w' Q
        (Eval.leaving wrap tidy (r, n)) (Eval.leaving wrap tidy' (r, n')) := by
    rw [Eval.leaving_of_ne hr, Eval.leaving_of_ne hr]
    have hne := hwrap r hr
    have hb := hQ r hP
    generalize wrap r = result at hne hb
    cases result with
    | ok b => exact .ok (hb b rfl) (htidy hR)
    | error s => exact .stop (by simpa using hne) (htidy hR)
  cases h with
  | ok ha hR => exact hsame (by simp) (ifOk_ok ha) hR
  | stop hs hR => exact hsame (by simpa using hs) (ifOk_error _) hR
  | endless he => exact .endless he
  | endlessLeft _ => exact .endlessLeft trivial
  | endlessRight hp => exact hp.elim
  | excused he => exact he.elim
  | parted _ hp => exact hp.elim

end Coupling

namespace Beside

open Coupling

variable {α : Type} {k : Option ScopeId} {floor d : Nat} {m m' : Machine}

theorem function (h : Beside k floor d m m') (id : FunctionId) :
    m'.function id = m.function id := by
  unfold Machine.function
  rw [h.functions]

theorem state (h : Beside k floor d m m') (id : GeneratorId) :
    (m'.generator id).state = (m.generator id).state :=
  h.scopes.generator? id.scope

/-- **Both machines have room for a call or neither has.** -/
theorem room_iff (h : Beside k floor d m m') :
    m'.depth < m'.config.maxCallDepth ↔ m.depth < m.config.maxCallDepth := by
  have base := h.base
  rw [h.room, h.deeper, h.depth]
  omega

/-- The machines one call deeper. -/
theorem enter (h : Beside k floor d m m') :
    Beside k floor (d + 1) { m with depth := m.depth + 1 } { m' with depth := m'.depth + 1 } :=
  { h with
    base := Nat.le_succ_of_le h.base
    depth := congrArg (· + 1) h.depth
    deeper := congrArg (· + 1) h.deeper }

/-- The machines after a call. -/
theorem leave (h : Beside k floor (d + 1) m m') (base : floor ≤ d) :
    Beside k floor d { m with depth := m.depth - 1 } { m' with depth := m'.depth - 1 } :=
  { h with
    base
    depth := congrArg (· - 1) h.depth
    deeper := congrArg (· - 1) h.deeper }

theorem withHandling (h : Beside k floor d m m') (faults : List Fault) :
    Beside k floor d { m with handling := faults } { m' with handling := faults } :=
  { h with handling := rfl }

theorem withScopes (h : Beside k floor d m m') {t t' : ScopeTree} (twins : ScopeTree.Twins k t t')
    (spares : Spares m.functions t)
    (shown : ∀ s ∈ k, ∀ state, t.generator? s = some state → outerIterable ∉ state.names) :
    Beside k floor d { m with scopes := t } { m' with scopes := t' } :=
  { h with scopes := twins, spares := spares, shown := shown }

theorem define (h : Beside k floor d m m') (s : ScopeId) (name : String) (v : Value) :
    Beside k floor d { m with scopes := m.scopes.define s name v }
      { m' with scopes := m'.scopes.define s name v } := by
  refine h.withScopes (h.scopes.define s name v) (h.spares.define s name v)
    fun k hk state hs => ?_
  rw [m.scopes.generator?_define] at hs
  exact h.shown k hk state hs

theorem addScope (h : Beside k floor d m m') (kind : ScopeKind) (parent : Option ScopeId)
    {state : Option GeneratorState} (hstate : ∀ s ∈ state, outerIterable ∉ s.names) :
    Beside k floor d { m with scopes := (m.scopes.addScope kind parent state).2 }
      { m' with scopes := (m'.scopes.addScope kind parent state).2 } := by
  refine h.withScopes (h.scopes.addScope kind parent state)
    (h.spares.addScope kind parent hstate) fun k hk state hs => ?_
  rw [m.scopes.generator?_addScope_of_ne k _ _ _ (h.scopes.index_ne hk)] at hs
  exact h.shown k hk state hs

theorem setGenerator (h : Beside k floor d m m') (s : ScopeId) {state : GeneratorState}
    (hstate : outerIterable ∉ state.names) :
    Beside k floor d { m with scopes := m.scopes.setGenerator s state }
      { m' with scopes := m'.scopes.setGenerator s state } := by
  refine h.withScopes (h.scopes.setGenerator s state) (h.spares.setGenerator s hstate)
    fun k hk state' hs => ?_
  by_cases same : k = s
  · subst same
    unfold ScopeTree.generator? at hs
    rw [m.scopes.scope?_setGenerator_self] at hs
    obtain ⟨x, -, hx, -⟩ := h.scopes.here k hk
    rw [hx] at hs
    cases hs
    exact hstate
  · rw [m.scopes.generator?_setGenerator_of_ne s k same] at hs
    exact h.shown k hk state' hs

/-- **Calls are made side by side.** -/
theorem inFrame (h : Beside k floor d m m') {P : α → Prop} {x y : Eval α}
    (hxy : (beside k floor).Agree ((d + 1 : Nat) : (beside k floor).World) P
      (x.on { m with depth := m.depth + 1 }) (y.on { m' with depth := m'.depth + 1 })) :
    (beside k floor).Agree (d : (beside k floor).World) (IfOk P) ((Eval.inFrame x).on m)
      ((Eval.inFrame y).on m') := by
  by_cases room : m.depth < m.config.maxCallDepth
  · rw [Eval.on_inFrame_of_lt room, Eval.on_inFrame_of_lt (h.room_iff.2 room)]
    exact beside_leaving hxy (fun r _ => by simp) (fun r hr => ifOk_ok hr) fun hn => hn.leave h.base
  · have room' : ¬ m'.depth < m'.config.maxCallDepth := fun room' => room (h.room_iff.1 room')
    rw [Eval.on_inFrame_of_le (Nat.not_lt.1 room), Eval.on_inFrame_of_le (Nat.not_lt.1 room')]
    exact .stop (by simp) h

/-- Handlers are listed side by side. -/
theorem withHandled (h : Beside k floor d m m') (faults : List Fault) {P : α → Prop}
    {x y : Eval α}
    (hxy : (beside k floor).Agree (d : (beside k floor).World) P
      (x.on { m with handling := faults ++ m.handling })
      (y.on { m' with handling := faults ++ m'.handling })) :
    (beside k floor).Agree (d : (beside k floor).World) (IfOk P)
      ((Eval.withHandled faults x).on m) ((Eval.withHandled faults y).on m') := by
  rw [Eval.on_withHandled, Eval.on_withHandled]
  refine beside_leaving hxy (fun r _ => by simp) (fun r hr => ifOk_ok hr) fun {n n'} hn => ?_
  rw [hn.handling, h.handling]
  exact Beside.withHandling hn _

end Beside

namespace Coupling

variable {α : Type} {k : Option ScopeId} {floor : Nat}

/-! ## The primitives -/

theorem beside_charge (amount : Nat) :
    (beside k floor).Sim (Eval.charge amount) (Eval.charge amount) := by
  refine beside_simOf fun h => ?_
  rw [h.unmetered.on_charge, h.unmetered'.on_charge]
  exact .ok trivial { h with }

theorem beside_define (s : ScopeId) (name : String) (v : Value) :
    (beside k floor).Sim (Eval.define s name v) (Eval.define s name v) :=
  beside_primitive (fun _ => rfl) fun h => ⟨rfl, h.define s name v⟩

theorem beside_handling (f : List Fault → List Fault) :
    (beside k floor).Sim (modify fun m => { m with handling := f m.handling } : Eval Unit)
      (modify fun m => { m with handling := f m.handling }) :=
  beside_primitive (fun _ => rfl) fun h => ⟨rfl, { h with handling := congrArg f h.handling }⟩

theorem beside_newGeneratorExpression (scope : ScopeId) {element : Expr} {first : Clause}
    {rest : List Clause} (outer : Value) (helement : outerIterable ∉ element.names)
    (hclauses : outerIterable ∉ clausesNames (first :: rest)) :
    (beside k floor).Sim (newGeneratorExpression scope (generatorBody element first rest) outer)
      (newGeneratorExpression scope (generatorBody element first rest) outer) := by
  refine beside_simOf fun {d m m'} h => ?_
  have heap : Cursor.ofValue m'.heap outer = Cursor.ofValue m.heap outer := by rw [h.heap]
  rw [on_newGeneratorExpression, on_newGeneratorExpression, heap]
  cases Cursor.ofValue m.heap outer with
  | error f => exact .stop (by simp) (h.addScope _ _ (by simp))
  | ok cursor =>
    have fresh : (m'.scopes.addScope .comprehension (some scope)
        (some (.notStarted (generatorBody element first rest)))).1 = ⟨m.scopes.scopes.size⟩ :=
      congrArg ScopeId.mk h.scopes.size
    dsimp only
    rw [fresh]
    refine .ok trivial (h.withScopes ((h.scopes.addScope _ _ _).define _ _ _)
      (h.spares.generatorExpression _ _ outer helement hclauses) fun k hk state hs => ?_)
    rw [ScopeTree.generator?_define,
      m.scopes.generator?_addScope_of_ne k _ _ _ (h.scopes.index_ne hk)] at hs
    exact h.shown k hk state hs

theorem beside_lawful : (beside k floor).Lawful where
  heap_eq h := h.heap.symm
  handled_eq h := congrArg List.head? h.handling.symm
  function_eq h id := (h.function id).symm
  function_shown h id := beside_shows_iff.2 (h.spares.function id)
  own_eq h s _ shown := (h.scopes.findLocal? s shown).symm
  find_eq h s _ shown := (h.scopes.find? s shown).symm
  charge := beside_charge
  modifyHeap f := beside_primitive (fun _ => rfl)
    fun h => ⟨rfl, { h with heap := congrArg f h.heap }⟩
  place r := by
    have hplace (m : Machine) : (Eval.place r).on m =
        (.ok (m.heap.place r).1, { m with heap := (m.heap.place r).2 }) := rfl
    refine beside_primitive hplace fun h => ?_
    exact ⟨by rw [h.heap], { h with heap := by rw [h.heap] }⟩
  newSerial := by
    have hserial (m : Machine) : Eval.newSerial.on m =
        (.ok ⟨m.nextSerial⟩, { m with nextSerial := m.nextSerial + 1 }) := rfl
    refine beside_primitive hserial fun h => ?_
    exact ⟨by rw [h.nextSerial], { h with nextSerial := by rw [h.nextSerial] }⟩
  newFunction name f hf := by
    have hfunction (m : Machine) : (Eval.newFunction name f).on m =
        (.ok (.function ⟨m.functions.size⟩ name), { m with functions := m.functions.push f }) := rfl
    refine beside_primitive hfunction fun h => ?_
    exact ⟨by rw [h.functions], { h with
      functions := by rw [h.functions]
      spares := h.spares.newFunction (beside_shows_iff.1 hf) }⟩
  print line := beside_primitive (fun _ => rfl)
    fun h => ⟨rfl, { h with transcript := by rw [h.transcript] }⟩
  abort := beside_primitive (fun _ => rfl) fun h => ⟨rfl, { h with }⟩
  define v _ := beside_define _ _ v
  setAttribute object name v _ := by
    match object with
    | .classObject _ scope => exact beside_define scope name v
    | .int _ | .str _ | .bool _ | .none | .list _ | .tuple _ | .set _ | .dict _ | .function _ _
    | .builtin _ | .method _ _ _ | .generator _ _ | .exceptionClass _ | .exception _ _ _ _ =>
      exact Sim.fail _
  newScope kind parent :=
    beside_primitive (fun _ => rfl)
      fun h => ⟨congrArg ScopeId.mk h.scopes.size, h.addScope kind parent (by simp)⟩
  newGenerator kind parent body hbody := by
    refine beside_primitive (fun _ => rfl) fun h => ⟨?_, h.addScope kind _ ?_⟩
    · exact congrArg (GeneratorId.mk ∘ ScopeId.mk) h.scopes.size
    · rintro _ ⟨⟩
      exact beside_shows_iff.1 hbody
  newGeneratorExpression scope element first rest outer helement hclauses :=
    beside_newGeneratorExpression scope outer (beside_shows_iff.1 helement)
      (beside_shows_iff.1 hclauses)
  inFrame hxy := (beside_simOf fun h => h.inFrame (hxy.agree h.enter)).to
  whileHandling f x y hxy := Sim.whileHandling beside_handling f hxy

theorem beside_steady : (beside k floor).Steady where
  pushHandling f := beside_handling (f :: ·)
  popHandling := beside_handling List.tail
  withHandled faults x y hxy := by
    refine SimOf.to (beside_simOf fun h => h.withHandled faults (hxy.agree ?_))
    rw [h.handling]
    exact h.withHandling _

theorem beside_settled : (beside k floor).Settled where
  setGeneratorState id _ hstate :=
    beside_primitive (fun _ => rfl)
      fun h => ⟨rfl, h.setGenerator id.scope (beside_shows_iff.1 hstate)⟩

end Coupling

end MeteredScript
