import MeteredScript.Proofs.Comprehension.Beside
import MeteredScript.Proofs.Lifecycle.Tracked

/-!
# All of evaluation beside a scope that differs

The only code that uses the hidden name is the first statement of a generator
expression, and it uses it once: to find the first iterable when the generator is
started. From then on the frames of the generator spare the name
(`names_generatorBody`). So two runs on machines with one scope apart do the same,
whatever they run (`beside_bounded`).
-/

namespace MeteredScript

/-! ## The loops of a generator expression -/

/-- A block inside the conditions of a clause. -/
def guardedBy (conditions : List Expr) (body : Block) : Block :=
  conditions.foldr (fun condition block => [StmtForm.synthetic (.branch condition block none)]) body

theorem guardedBy_cons (condition : Expr) (conditions : List Expr) (body : Block) :
    guardedBy (condition :: conditions) body =
      [StmtForm.synthetic (.branch condition (guardedBy conditions body) none)] := rfl

theorem toLoop_eq (c : Clause) (iterable : Expr) (body : Block) :
    c.toLoop iterable body =
      [StmtForm.synthetic (.forLoop c.target iterable (guardedBy c.conditions body) none)] := rfl

section Loops

variable {name : String} {element : Expr} {conditions : List Expr} {body : Block}

theorem blockYields_synthetic (form : StmtForm) :
    blockYields [form.synthetic] = form.yields := by
  simp [blockYields, StmtForm.synthetic, Stmt.yields]

theorem blockNames_synthetic (form : StmtForm) : blockNames [form.synthetic] = form.names := by
  simp [blockNames, StmtForm.synthetic, Stmt.names]

theorem yields_guardedBy (h : blockYields body = true) :
    blockYields (guardedBy conditions body) = true := by
  induction conditions with
  | nil => exact h
  | cons condition conditions ih =>
    rw [guardedBy_cons, blockYields_synthetic, StmtForm.yields, ih]
    simp

theorem yields_toLoop (h : blockYields body = true) (c : Clause) (iterable : Expr) :
    blockYields (c.toLoop iterable body) = true := by
  rw [toLoop_eq, blockYields_synthetic, StmtForm.yields, yields_guardedBy h]
  simp

/-- Each of the loops contains the `yield`. -/
theorem yields_clausesToLoops (element : Expr) (clauses : List Clause) :
    blockYields (clausesToLoops element clauses) = true := by
  induction clauses with
  | nil => rfl
  | cons c rest ih => exact yields_toLoop ih c c.iterable

theorem mem_names_guardedBy :
    name ∈ blockNames (guardedBy conditions body) ↔
      name ∈ exprsNames conditions ∨ name ∈ blockNames body := by
  induction conditions with
  | nil =>
    show name ∈ blockNames body ↔ name ∈ [] ∨ name ∈ blockNames body
    simp
  | cons condition conditions ih =>
    rw [guardedBy_cons, blockNames_synthetic]
    simp only [StmtForm.names, optionalBlockNames, List.append_nil, List.mem_append, ih, exprsNames]
    exact or_assoc.symm

/-- The loops use no other names than the clauses and the element. -/
theorem mem_names_clausesToLoops {clauses : List Clause}
    (h : name ∈ blockNames (clausesToLoops element clauses)) :
    name ∈ element.names ∨ name ∈ clausesNames clauses := by
  induction clauses with
  | nil =>
    rw [clausesToLoops, blockNames_synthetic] at h
    exact .inl h
  | cons c rest ih =>
    rw [clausesToLoops, toLoop_eq, blockNames_synthetic] at h
    obtain ⟨target, iterable, conditions⟩ := c
    simp only [StmtForm.names, optionalBlockNames, List.append_nil, List.mem_append,
      mem_names_guardedBy] at h
    simp only [clausesNames, List.mem_append]
    rcases h with (h | h) | h | h
    · exact .inr (.inl (.inl (.inl h)))
    · exact .inr (.inl (.inl (.inr h)))
    · exact .inr (.inl (.inr h))
    · exact (ih h).imp_right .inr

end Loops

/-- The frames of a generator expression that has evaluated its first iterable. -/
def startedFrames (element : Expr) (first : Clause) (rest : List Clause) (cursor : Cursor) :
    List Frame :=
  [.forLoop first.target (guardedBy first.conditions (clausesToLoops element rest)) none cursor,
    .suite []]

namespace Coupling

variable {α β : Type} {k : Option ScopeId} {floor n n' d : Nat} {m m' : Machine}
  {element : Expr} {first : Clause} {rest : List Clause}

/-- The frames that are left once the first iterable is found spare the name. -/
theorem beside_shows_startedFrames (helement : outerIterable ∉ element.names)
    (hclauses : outerIterable ∉ clausesNames (first :: rest)) (cursor : Cursor) :
    (beside k floor).Shows (framesNames (startedFrames element first rest cursor)) := by
  refine beside_shows_iff.2 fun mem => ?_
  obtain ⟨target, iterable, conditions⟩ := first
  simp only [clausesNames, List.mem_append, not_or] at hclauses
  simp only [startedFrames, framesNames, Frame.names, blockNames, optionalBlockNames,
    List.append_nil, List.mem_append] at mem
  rcases mem with mem | mem
  · exact hclauses.1.1.1 mem
  · rcases mem_names_guardedBy.1 mem with mem | mem
    · exact hclauses.1.2 mem
    · exact (mem_names_clausesToLoops mem).elim helement hclauses.2

/-! ## Step by step -/

/-- What runs second starts where the first ends. -/
theorem beside_bind {w : (beside k floor).World} {P : α → Prop} {Q : β → Prop} {x y : Eval α}
    {f g : α → Eval β} (h : (beside k floor).Agree w P (x.on m) (y.on m'))
    (hfg : ∀ {a n n'}, P a → Beside k floor w n n' →
      (beside k floor).Agree w Q ((f a).on n) ((g a).on n')) :
    (beside k floor).Agree w Q ((x >>= f).on m) ((y >>= g).on m') := by
  rw [Eval.on_bind, Eval.on_bind]
  generalize x.on m = o at h
  generalize y.on m' = o' at h
  cases h with
  | ok ha hR => exact hfg ha hR
  | stop hs hR => exact .stop hs hR
  | endless _ => exact .endless trivial
  | endlessLeft _ => exact .endlessLeft trivial
  | endlessRight hp => exact hp.elim
  | excused he => exact he.elim
  | parted _ hp => exact hp.elim

/-- A name is looked up. -/
theorem on_eval_lookup (hu : m.Unmetered) (s : ScopeId) (name : String) :
    ((Evaluator.bounded (n + 1)).eval (.name name) s).on m =
      (Eval.lookup s name).on { m with gas := min (m.gas + 1) Eval.gasCeiling } := by
  show (evalExpr (.bounded n) (.name name) s).on m = _
  rw [evalExpr, Eval.on_bind_ok hu.on_tick]
  rfl

/-- A name that is bound has its value. -/
theorem on_eval_name (hu : m.Unmetered) {s : ScopeId} {name : String} {v : Value}
    (found : m.scopes.find? s name = some v) :
    ((Evaluator.bounded (n + 1)).eval (.name name) s).on m =
      (.ok v, { m with gas := min (m.gas + 1) Eval.gasCeiling }) := by
  have hfind (gas : Nat) :
      (Eval.find? s name).on { m with gas } = (.ok (some v), { m with gas }) := by
    rw [← found]
    rfl
  rw [on_eval_lookup hu, Eval.lookup, Eval.on_bind_ok (hfind _)]
  rfl

section Start

variable (h : (beside k floor).Couples (.bounded n) (.bounded n')) (hle : n ≤ n')
  (helement : outerIterable ∉ element.names)
  (hclauses : outerIterable ∉ clausesNames (first :: rest))

include hle in
/-- **The first iterable is found** where it is in a scope of its own. -/
theorem beside_outerIterable {s : ScopeId} {v : Value} (hR : Beside k floor d m m')
    (apart : k ≠ some s) (own : m.scopes.findLocal? s outerIterable = some v) :
    (beside k floor).Agree (d : (beside k floor).World) (fun _ => True)
      (((Evaluator.bounded n).eval (.name outerIterable) s).on m)
      (((Evaluator.bounded n').eval (.name outerIterable) s).on m') := by
  cases n with
  | zero => exact .endlessLeft trivial
  | succ n =>
    obtain ⟨n', rfl⟩ : ∃ k, n' = k + 1 := ⟨n' - 1, by omega⟩
    obtain ⟨found, found'⟩ := hR.scopes.find?_hidden apart own
    rw [on_eval_name hR.unmetered found, on_eval_name hR.unmetered' found']
    exact .ok trivial { hR with }

include h hle helement hclauses in
/-- The first statement of a generator expression starts its outermost loop. -/
theorem beside_beginStmt {s : ScopeId} {v : Value} (hR : Beside k floor d m m') (apart : k ≠ some s)
    (own : m.scopes.findLocal? s outerIterable = some v) :
    (beside k floor).Agree (d : (beside k floor).World) (fun p => (beside k floor).Shows p.names)
      ((advanceFrame (.bounded n) s (.suite (generatorBody element first rest)) []).on m)
      ((advanceFrame (.bounded n') s (.suite (generatorBody element first rest)) []).on m') := by
  have hbegin (ev : Evaluator) :
      advanceFrame ev s (.suite (generatorBody element first rest)) [] = do
        let cursor ← Evaluator.startIteration (← ev.eval (.name outerIterable) s)
        return .onward (startedFrames element first rest cursor) := by
    have yields := yields_toLoop (yields_clausesToLoops element rest) first (.name outerIterable)
    rw [toLoop_eq, blockYields_synthetic] at yields
    exact if_pos yields
  rw [hbegin, hbegin]
  refine beside_bind (beside_outerIterable hle hR apart own) fun {v n₁ n₁'} _ hR => ?_
  refine beside_bind ((h.startIteration v).agree hR) fun {cursor n₂ n₂'} _ hR => ?_
  exact .ok (beside_shows_startedFrames helement hclauses cursor) hR

include h hle helement hclauses in
/-- **A generator expression is started side by side.** -/
theorem beside_driveFrom {s : ScopeId} {v w : Value} (hR : Beside k floor d m m')
    (apart : k ≠ some s) (own : m.scopes.findLocal? s outerIterable = some v) :
    (beside k floor).Agree (d : (beside k floor).World) (fun p => (beside k floor).Shows p.names)
      ((driveFrom (.bounded n) s [] [.suite (generatorBody element first rest)] (.send w)).on m)
      ((driveFrom (.bounded n') s [] [.suite (generatorBody element first rest)] (.send w)).on
        m') := by
  have hfirst {m : Machine} (hu : m.Unmetered) (ev : Evaluator) :
      (driveFrom ev s [] [.suite (generatorBody element first rest)] (.send w)).on m =
        (paidTurnWith (fun _ x => x) ev s (.suite (generatorBody element first rest)) [] >>=
          driveOn ev s (3 * ev.rounds + 3)).on
          { m with gas := min (m.gas + 1) Eval.gasCeiling } := by
    have hrounds : driveRounds ev [.suite (generatorBody element first rest)] =
        3 * ev.rounds + 3 + 1 := by
      rw [driveRounds, List.length_singleton]
    rw [driveFrom, Eval.on_bind_ok (a := .onward [.suite (generatorBody element first rest)]) rfl]
    dsimp only
    rw [hrounds, drive_cons, Eval.on_bind_ok (Eval.on_attempt_of_ne hu.on_tick (by simp))]
    rfl
  rw [hfirst hR.unmetered, hfirst hR.unmetered']
  have hR₁ : Beside k floor d { m with gas := min (m.gas + 1) Eval.gasCeiling }
      { m' with gas := min (m'.gas + 1) Eval.gasCeiling } := { hR with }
  have hadvance := beside_beginStmt h hle helement hclauses hR₁ apart own
  have hattempt : (beside k floor).Agree (d : (beside k floor).World)
      (IfOk fun p => (beside k floor).Shows p.names)
      ((Eval.attempt (advanceFrame (.bounded n) s
        (.suite (generatorBody element first rest)) [])).on
          { m with gas := min (m.gas + 1) Eval.gasCeiling })
      ((Eval.attempt (advanceFrame (.bounded n') s
        (.suite (generatorBody element first rest)) [])).on
          { m' with gas := min (m'.gas + 1) Eval.gasCeiling }) := by
    rw [Eval.on_attempt, Eval.on_attempt]
    exact beside_leaving hadvance (fun r _ => by simp) (fun r hr => ifOk_ok hr) id
  -- from the first turn on all frames spare the name
  refine beside_bind (P := fun p => (beside k floor).Shows p.names) ?_ fun {p n₂ n₂'} hp hR => ?_
  · refine beside_bind hattempt fun {result n₁ n₁'} hresult hR => ?_
    cases result with
    | ok progress => exact .ok (hresult progress rfl) hR
    | error stop => exact (h.recover beside_steady stop (shows_nil _)).of_united.agree hR
  · cases p with
    | onward frames =>
      exact (h.drive beside_steady (.of_united _) ((h.rounds.mul 3).add 3) hp).agree hR
    | paused pause => exact .ok hp hR

include h hle helement hclauses in
theorem beside_runSuspended {id : GeneratorId} {v w : Value} (hR : Beside k floor d m m')
    (apart : k ≠ some id.scope) (own : m.scopes.findLocal? id.scope outerIterable = some v) :
    (beside k floor).Agree (d : (beside k floor).World) (fun _ => True)
      ((runSuspended (.bounded n) id [] [.suite (generatorBody element first rest)] (.send w)).on m)
      ((runSuspended (.bounded n') id [] [.suite (generatorBody element first rest)] (.send w)).on
        m') := by
  have hrunning := hR.enter.setGenerator id.scope
    (show outerIterable ∉ GeneratorState.running.names from List.not_mem_nil)
  have hdrive := beside_driveFrom h hle helement hclauses (w := w)
    (hrunning.withHandling ([] ++ m.handling)) apart
    (by rw [← own]; exact m.scopes.findLocal?_setGenerator ..)
  refine beside_bind (P := IfOk fun p => (beside k floor).Shows p.names) (hR.inFrame ?_) ?_
  · rw [Eval.setGeneratorState, Eval.on_bind_ok (Eval.on_modify _ _),
      Eval.on_bind_ok (Eval.on_modify _ _)]
    have hhandled := hrunning.withHandled [] (P := fun p : Pause => (beside k floor).Shows p.names)
      (by rw [hrunning.handling]; exact hdrive)
    exact beside_bind hhandled fun hresult hR =>
      (SimOf.ofStop hresult beside_not_lenient).agree hR
  · exact fun {outcome n₁ n₁'} hp hR => (Couples.settle beside_settled id hp).agree hR

end Start

theorem beside_endless (y : Eval α) : (beside k floor).Sim (throw .endless) y :=
  beside_simOf fun _ => .endlessLeft trivial

theorem beside_generatorState (id : GeneratorId) :
    (beside k floor).Sim (Eval.generatorState id) (Eval.generatorState id) :=
  Sim.read (g := fun m => (m.generator id).state) (fun _ => rfl) (fun _ _ => trivial)
    fun hR => ⟨(Beside.state hR id).symm, trivial⟩

/-- **A generator is resumed side by side**, also when it is a generator expression
that has not started. -/
theorem beside_resume (h : (beside k floor).Couples (.bounded n) (.bounded n')) (hle : n ≤ n')
    (id : GeneratorId) (r : Resume) :
    (beside k floor).Sim (resumeGenerator (.bounded n) id r)
      (resumeGenerator (.bounded n') id r) := by
  refine beside_simOf fun {d m m'} hR => ?_
  rw [on_resumeGenerator, on_resumeGenerator, hR.state id]
  have spared (shown : outerIterable ∉ (m.generator id).state.names) :
      (beside k floor).Agree (d : (beside k floor).World) (fun _ => True)
        ((resumeFrom (.bounded n) id (m.generator id).state r).on m)
        ((resumeFrom (.bounded n') id (m.generator id).state r).on m') :=
    (h.resumeFrom beside_steady (.of_united _) beside_settled id (beside_shows_iff.2 shown) r).agree hR
  cases hstate : m.scopes.generator? id.scope with
  | none =>
    refine spared ?_
    rw [Machine.generator, hstate]
    exact List.not_mem_nil
  | some state =>
    rw [generator_of_eq_some hstate] at spared ⊢
    by_cases same : k = some id.scope
    · exact spared (hR.shown id.scope same state hstate)
    rcases hR.spares.generators _ _ hstate with
      shown | ⟨element, first, rest, rfl, helement, hclauses, bound⟩
    · exact spared shown
    obtain ⟨v, own⟩ := Option.isSome_iff_exists.1 bound
    cases r with
    | throw e =>
      exact (Sim.bind (beside_settled.setGeneratorState id (shows_nil _))
        fun _ => Sim.fail _).agree hR
    | send w =>
      unfold resumeFrom
      dsimp only
      split
      · exact beside_runSuspended h hle helement hclauses hR same own
      · exact .stop (by simp) hR

/-- **All code does the same on machines with one scope apart**, given more room to
recurse on the right. -/
theorem beside_bounded (hle : n ≤ n') : (beside k floor).Couples (.bounded n) (.bounded n') := by
  induction n generalizing n' with
  | zero =>
    exact ⟨beside_lawful, fun _ => beside_endless _, fun _ => beside_endless _,
      fun _ _ => beside_endless _,
      fun id => closeGenerator_sim beside_settled id (beside_generatorState id)
        fun _ => beside_endless _, .left _ trivial, .inl fun _ _ => .of_united _⟩
  | succ n ih =>
    obtain ⟨n', rfl⟩ : ∃ k, n' = k + 1 := ⟨n' - 1, by omega⟩
    have hle : n ≤ n' := by omega
    have hresume := beside_resume (ih hle) hle
    exact (ih hle).deeper hresume fun id =>
      closeGenerator_sim beside_settled id (beside_generatorState id) (hresume id)

/-- **Evaluation makes no code that uses the hidden name**: a machine beside itself
stays so. -/
theorem spares_of_sim {x : Eval α} (h : ∀ floor, (beside none floor).Sim x x)
    (hu : m.Unmetered) (spares : Spares m.functions m.scopes) {r : Except Stop α} {p : Machine}
    (hrun : x.on m = (r, p)) (hr : r ≠ .error .endless) : Spares p.functions p.scopes := by
  have hR : Beside none m.depth m.depth m { m with
      depth := m.depth + 1
      config := { m.config with maxCallDepth := max m.config.maxCallDepth m.depth + 1 } } :=
    { heap := rfl, functions := rfl, nextSerial := rfl, transcript := rfl, handling := rfl
      scopes := .refl m.scopes
      base := Nat.le_refl _
      depth := rfl
      deeper := rfl
      room := rfl
      unmetered := hu
      unmetered' := hu
      spares
      shown := nofun }
  have hagree := (h m.depth).agree hR
  rw [hrun] at hagree
  generalize x.on _ = o at hagree
  cases hagree with
  | ok _ hR => exact hR.spares
  | stop _ hR => exact hR.spares
  | endless _ | endlessLeft _ => exact absurd rfl hr
  | endlessRight hp => exact hp.elim
  | excused he => exact he.elim
  | parted _ hp => exact hp.elim

end Coupling

end MeteredScript
