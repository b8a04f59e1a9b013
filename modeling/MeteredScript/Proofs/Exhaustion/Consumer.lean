import MeteredScript.Proofs.Exhaustion.Signal

/-!
# Whoever takes items from a generator

Loops, comprehensions, tests for membership, unpacking and the functions that
take all items of a value stop when a generator reports its end, and they do so
without an error. Since no end is faked, the generator they took the items from
really has ended by then (`ended_of_iterate`), and what they do afterwards cannot
change that: a generator that has ended stays so.
-/

namespace MeteredScript

open Coupling

/-- The body of a generator has ended. -/
def Machine.Ended (m : Machine) (id : GeneratorId) : Prop :=
  (m.generator id).state.isCompleted = true

variable {bound : Nat} {id : GeneratorId} {m n : Machine} {α β : Type}

/-! ## Ends that were reported -/

/-- **A generator that has reported its end has ended.** -/
theorem ended_of_exhausted {v w : Value}
    (reported : ((Evaluator.bounded bound).resume id (.send w)).on m =
      (.error (.fault (.exhausted v)), n)) : n.Ended id := by
  cases bound with
  | zero => cases reported
  | succ bound =>
    have reported : (resumeGenerator (.bounded bound) id (.send w)).on m =
      (.error (.fault (.exhausted v)), n) := reported
    rcases fst_send_eq_exhausted_iff.1 (congrArg Prod.fst reported) with ⟨ended, -⟩ | ⟨n', run⟩
    · rw [on_resume_of_completed _ ended] at reported
      cases reported
      exact ended
    · have state := run.state nofun
      rw [reported] at state
      rw [Machine.Ended, state]
      rfl

/-- There is no next item only if the generator has ended. -/
theorem ended_of_next? (stopped : ((Evaluator.bounded bound).next? (.generator id)).on m =
    (.ok none, n)) : n.Ended id := by
  rw [Evaluator.next?, Eval.on_bind] at stopped
  split at stopped
  · rename_i next n₁ given
    match next, given, stopped with
    | some v, _, stopped => cases stopped
    | none, given, stopped =>
      cases stopped
      rw [Evaluator.nextYielded?, Eval.on_bind] at given
      split at given
      · rename_i result n₂ attempted
        have ran : ((Evaluator.bounded bound).resume id (.send .none)).on m = (result, n₂) := by
          by_cases endless : (((Evaluator.bounded bound).resume id (.send .none)).on m).1 =
              .error .endless
          · rw [Eval.on_attempt_of_endless (Prod.ext endless rfl)] at attempted
            cases attempted
          · rw [Eval.on_attempt_of_ne rfl endless] at attempted
            cases attempted
            rfl
        match result, ran, given with
        | .ok v, _, given => cases given
        | .error (.fault (.exhausted v)), ran, given =>
          cases given
          exact ended_of_exhausted ran
        | .error (.fault (.unresolvedName _)), _, given | .error (.fault (.typeFault _)), _, given
        | .error (.fault (.protocolViolation _)), _, given | .error (.fault (.raised _)), _, given
        | .error (.returns _), _, given | .error .breaks, _, given | .error .continues, _, given
        | .error .gasExhausted, _, given | .error .endless, _, given => cases given
      · cases given
  · cases stopped

/-- The generator that an item was taken from is gone on with. -/
theorem gives_next? (ev : Evaluator) (id : GeneratorId) :
    Eval.Gives (fun next => ∀ item, next = some item → item.2 = .generator id)
      (ev.next? (.generator id)) := by
  refine .bind fun next => ?_
  match next with
  | some v =>
    refine .pure ?_
    rintro _ ⟨⟩
    rfl
  | none => exact .pure nofun

/-- A generator that has ended stays so. -/
theorem Machine.Evolved.ended (evolved : m.Evolved n) (ended : m.Ended id) : n.Ended id := by
  have came := evolved id.scope
  cases found : m.scopes.generator? id.scope with
  | none =>
    rw [Machine.Ended, Machine.generator, found] at ended
    cases ended
  | some state =>
    rw [Machine.Ended, generator_of_eq_some found] at ended
    rw [found] at came
    cases found' : n.scopes.generator? id.scope with
    | none =>
      rw [found'] at came
      exact came.elim
    | some state' =>
      rw [found'] at came
      rw [Machine.Ended, generator_of_eq_some found']
      cases state with
      | completed c =>
        rw [came.eq_of_completed]
        rfl
      | notStarted | suspended | running => cases ended

/-! ## Evaluations that go through a generator -/

namespace Eval

/-- **An evaluation that comes to a value only after a generator has ended.** -/
def Exhausts (id : GeneratorId) (x : Eval α) : Prop :=
  ∀ m a n, x.on m = (.ok a, n) → n.Ended id

/-- What takes generators through transitions of their lives. -/
def Lives (x : Eval α) : Prop := ∀ active, ∃ y, (keeping (Tracked active)).Sim x y

theorem Lives.evolved {x : Eval α} (lives : x.Lives) {a : α} (ran : x.on m = (.ok a, n)) :
    m.Evolved n := by
  obtain ⟨y, sim⟩ := lives m.running
  have tracked : Tracked m.running m m := ⟨.refl m, fun _ => Machine.mem_running.symm⟩
  rcases sim.alike tracked with ⟨endless, -⟩ | ⟨-, -, after, -⟩
  · rw [ran] at endless
    cases endless
  · rw [ran] at after
    exact after.evolved

namespace Exhausts

/-- What is done before does not matter. -/
theorem after {x : Eval α} {f : α → Eval β} (hf : ∀ a, Exhausts id (f a)) :
    Exhausts id (x >>= f) := by
  intro m b n ran
  rw [on_bind] at ran
  split at ran
  · exact hf _ _ _ _ ran
  · cases ran

/-- Neither does what is done afterwards. -/
theorem before {x : Eval α} {f : α → Eval β} (hx : Exhausts id x) (hf : ∀ a, (f a).Lives) :
    Exhausts id (x >>= f) := by
  intro m b n ran
  rw [on_bind] at ran
  split at ran
  · rename_i a n₁ first
    exact ((hf a).evolved ran).ended (hx m a n₁ first)
  · cases ran

theorem map {x : Eval α} (hx : Exhausts id x) (f : α → β) : Exhausts id (f <$> x) := by
  rw [map_eq_pure_bind]
  exact hx.before fun a _ => ⟨_, Sim.pure (f a)⟩

end Exhausts

end Eval

open Eval

section Consumers

variable {ev : Evaluator} {name : String}

/-- **Going through a generator** to a result that no turn ends with. -/
theorem ended_of_iterate {σ : Type} {turn : σ → Value → Eval (ForInStep σ)} {result : σ}
    (goes : ∀ state item, Eval.Gives (· ≠ .done result) (turn state item)) {rounds : Nat}
    {state : σ} (ran : ((Evaluator.bounded bound).iterate turn rounds (.generator id) state).on m =
      (.ok result, n)) : n.Ended id := by
  induction rounds generalizing state m with
  | zero => cases ran
  | succ rounds ih =>
    rw [Evaluator.iterate, on_bind] at ran
    split at ran
    · rename_i next n₁ given
      rcases next with _ | ⟨item, cursor⟩
      · cases ran
        exact ended_of_next? given
      · have same := gives_next? (Evaluator.bounded bound) id _ _ _ given _ rfl
        dsimp only at same ran
        subst same
        rw [on_bind] at ran
        split at ran
        · rename_i step n₂ turned
          cases step with
          | yield state => exact ih ran
          | done state =>
            cases ran
            exact absurd rfl (goes _ _ _ _ _ turned)
        · cases ran
    · cases ran

/-! ## All items of a value -/

/-- All of evaluation takes generators through transitions of their lives. -/
theorem lives_of_couples (bound : Nat) {x : Eval α}
    (h : ∀ {active : List GeneratorId} {ev : Evaluator},
      (keeping (Tracked active)).Couples (.bounded bound) ev →
        ∃ y, (keeping (Tracked active)).Sim x y) : x.Lives :=
  fun active => h (tracked_tracking (fun _ => throw .endless) bound active)

/-- **All items of a generator** are those up to its end. -/
theorem exhausts_collect (bound : Nat) (id : GeneratorId) (name : String) :
    Exhausts id ((Evaluator.bounded bound).collect (.generator id name)) := by
  have goes (result : Array Value) (items : Array Value) (item : Value) :
      Eval.Gives (· ≠ .done result)
        (do Eval.tick; return .yield (items.push item) : Eval (ForInStep (Array Value))) :=
    .bind fun _ => .pure nofun
  intro m items n ran
  unfold Evaluator.collect at ran
  dsimp only at ran
  rw [Evaluator.startIteration, bind_assoc, on_bind_ok rfl] at ran
  exact ended_of_iterate (goes items) ran

/-- The functions that take all items of their first argument. -/
def Builtin.takesItems : List Builtin :=
  [.list, .tuple, .set, .dict, .sum, .sorted, .enumerate]

/-- **Functions of a generator** come to a value only at its end. -/
theorem exhausts_callBuiltin (bound : Nat) {b : Builtin} (takes : b ∈ Builtin.takesItems)
    (id : GeneratorId) (name : String) (rest : List Value) :
    Exhausts id (callBuiltin (.bounded bound) b (.generator id name :: rest)) := by
  have collected := exhausts_collect bound id name
  have lives {f : Array Value → Eval Value} (hf : ∀ items, ∀ {active : List GeneratorId}
      {ev : Evaluator}, (keeping (Tracked active)).Couples (.bounded bound) ev →
        ∃ y, (keeping (Tracked active)).Sim (f items) y) :
      Exhausts id ((Evaluator.bounded bound).collect (.generator id name) >>= f) :=
    collected.before fun items => lives_of_couples bound (hf items)
  have converted {target : Builtin} (takes : target ∈ [.list, .tuple, .set, .dict]) :
      Exhausts id (callConversion (.bounded bound) target (.generator id name :: rest)) := by
    refine .after fun _ => ?_
    simp only [List.mem_cons, List.not_mem_nil, or_false] at takes
    rcases takes with rfl | rfl | rfl | rfl
    · exact lives fun items _ _ h => ⟨_, h.place (.list items)⟩
    · exact lives fun items _ _ _ => ⟨pure (.tuple items.toList), Sim.pure _⟩
    · exact lives fun items _ _ h => ⟨_, h.placeSet items⟩
    · refine lives fun items _ _ h => ?_
      exact ⟨_, Sim.bind (Sim.mapM h.pairOf items.toList) fun entries => h.placeDict entries⟩
  simp only [Builtin.takesItems, List.mem_cons, List.not_mem_nil, or_false] at takes
  rcases takes with rfl | rfl | rfl | rfl | rfl | rfl | rfl
  · exact converted (by simp)
  · exact converted (by simp)
  · exact converted (by simp)
  · exact converted (by simp)
  · exact .after fun _ => lives fun _ _ _ h => ⟨_, h.sumFrom _ _⟩
  · refine .after fun _ => lives fun items _ _ h => ?_
    exact ⟨_, Sim.bind h.heap fun heap => Sim.bind (Sim.ofStop (sortValues heap items.toList))
      fun sorted => h.place (.list sorted.toArray)⟩
  · refine .after fun _ => .after fun start => lives fun items _ _ h => ?_
    exact ⟨_, Sim.bind (Sim.ofFault (numbered start.toInt items.toList)) fun numbered =>
      h.place (.list numbered.toArray)⟩

/-- So do `min` and `max`, which take items of an only argument. -/
theorem exhausts_callExtreme (bound : Nat) (function : String) (greatest : Bool)
    (id : GeneratorId) (name : String) :
    Exhausts id (callExtreme (.bounded bound) function greatest [.generator id name]) := by
  refine ((exhausts_collect bound id name).map Array.toList).before fun items => ?_
  refine lives_of_couples bound fun h => ?_
  match items with
  | [] => exact ⟨_, Sim.fail (.emptySequence function)⟩
  | first :: rest =>
    exact ⟨_, Sim.bind h.heap fun heap => Sim.ofStop (extremeFrom heap greatest first rest)⟩

/-- **Methods of a generator's items**: strings are joined, and lists and sets
are added to, only at its end. -/
theorem exhausts_callMethod (bound : Nat) {receiver : Value} {method : String}
    (takes : (∃ s, receiver = .str s) ∧ method = "join" ∨
      (∃ l, receiver = .list l) ∧ method = "extend" ∨
      (∃ l, receiver = .set l) ∧ method = "update") (id : GeneratorId) (name : String) :
    Exhausts id (callMethod (.bounded bound) receiver method [.generator id name]) := by
  have collected := exhausts_collect bound id name
  rcases takes with ⟨⟨s, rfl⟩, rfl⟩ | ⟨⟨l, rfl⟩, rfl⟩ | ⟨⟨l, rfl⟩, rfl⟩
  · refine .after fun _ => collected.before fun items => lives_of_couples bound fun h => ?_
    exact ⟨_, Sim.bind (Sim.ofTypeFault (stringItems 0 items.toList)) fun parts =>
      Sim.pure (Value.str (String.intercalate s parts))⟩
  · refine .after fun _ => collected.before fun items => lives_of_couples bound fun h => ?_
    exact ⟨_, Sim.bind (h.modifyHeap _) fun _ => Sim.pure Value.none⟩
  · refine .after fun _ => collected.before fun items => lives_of_couples bound fun h => ?_
    exact ⟨_, Sim.bind (h.addItems l items.toList) fun _ => Sim.pure Value.none⟩

/-- **Unpacking a generator** takes all of its items. -/
theorem exhausts_unpackItems (bound : Nat) (id : GeneratorId) (name : String) (targets : Nat) :
    Exhausts id (unpackItems (.bounded bound) (.generator id name) targets) := by
  refine (exhausts_collect bound id name).before fun items => lives_of_couples bound fun _ => ?_
  exact ⟨_, Sim.bind (Sim.require _ _) fun _ => Sim.bind (Sim.require _ _) fun _ =>
    Sim.pure items.toList⟩

theorem exhausts_assignTarget (bound : Nat) (scope : ScopeId) (targets : List Expr)
    (id : GeneratorId) (name : String) :
    Exhausts id (assignTarget (.bounded bound) scope (.tuple targets) (.generator id name)) ∧
      Exhausts id (assignTarget (.bounded bound) scope (.list targets) (.generator id name)) := by
  have unpacked : Exhausts id (unpackItems (.bounded bound) (.generator id name) targets.length >>=
      assignEach (.bounded bound) scope targets) :=
    (exhausts_unpackItems bound id name targets.length).before fun items =>
      lives_of_couples bound fun h => ⟨_, h.assignEach targets items (keeping_shows _)⟩
  exact ⟨unpacked, unpacked⟩

/-! ## Loops -/

/-- **A loop over a generator** that no `break` ends goes on to its end. -/
theorem ended_of_runFor {scope : ScopeId} {target : Expr} {body : Block}
    (ran : (runFor (.bounded bound) scope target body (.generator id)).on m = (.ok true, n)) :
    n.Ended id := by
  refine ended_of_iterate (fun state item => ?_) ran
  refine .bind fun _ => .bind fun _ => .bind fun more => ?_
  split
  · exact .pure nofun
  · exact .pure (by simp)

/-- In the body of a generator the same is true of each round. -/
theorem ended_of_advanceFrame {scope : ScopeId} {target : Expr} {body : Block}
    {orElse : Option Block} {frames rest : List Frame}
    (ran : (advanceFrame (.bounded bound) scope (.forLoop target body orElse (.generator id))
      frames).on m = (.ok (.onward rest), n)) :
    rest = .suite body :: .forLoop target body orElse (.generator id) :: frames ∨ n.Ended id := by
  unfold advanceFrame at ran
  dsimp only at ran
  rw [on_bind] at ran
  split at ran
  · rename_i next n₁ given
    match next, given, ran with
    | none, given, ran =>
      cases ran
      exact .inr (ended_of_next? given)
    | some (item, cursor), given, ran =>
      have same := gives_next? (Evaluator.bounded bound) id _ _ _ given _ rfl
      dsimp only at same ran
      subst same
      rw [on_bind] at ran
      split at ran
      · cases ran
        exact .inl rfl
      · cases ran
  · cases ran

/-- **A clause of a comprehension** takes all items of a generator. -/
theorem exhausts_collectElements (bound : Nat) (scope : ScopeId) (element : Eval α) (c : Clause)
    (rest : List Clause) (id : GeneratorId) (name : String) (elements : Array α) :
    Exhausts id (collectElements (.bounded bound) scope element (c :: rest)
      (some (.generator id name)) elements) := by
  intro m result n ran
  rw [collectElements, on_bind_ok rfl, on_bind_ok rfl] at ran
  refine ended_of_iterate (fun state item => ?_) ran
  refine .bind fun _ => .bind fun _ => .bind fun hold => ?_
  split
  · exact .bind fun _ => .pure nofun
  · exact .pure nofun

/-- **A generator without an item** has been searched to its end. -/
theorem ended_of_memberOfGenerator {item : Value}
    (ran : (memberOfGenerator (.bounded bound) item id).on m = (.ok false, n)) : n.Ended id := by
  refine ended_of_iterate (fun state item => ?_) ran
  refine .bind fun _ => .bind fun _ => .bind fun equal => ?_
  split
  · exact .pure (by simp)
  · exact .pure nofun

end Consumers

/-! ## What is true of ends -/

/-- **Ends of generators are real**, whoever reports them and whoever acts on
them. -/
structure RealEnds (bound : Nat) : Prop where
  /-- A generator that is sent a value, or advanced, reports an end with a value
  just if it had ended before and nothing happens, or if its body returns that
  value in this very operation. -/
  signal {id : GeneratorId} {m : Machine} {v w : Value} :
    ((resumeGenerator (.bounded bound) id (.send w)).on m).1 = .error (.fault (.exhausted v)) ↔
      m.Ended id ∧ v = .none ∧ ((resumeGenerator (.bounded bound) id (.send w)).on m).2 = m ∨
      (∃ n, BodyRun (.bounded bound) id (.send w) m (.ok (.returned v)) n) ∧
        (((resumeGenerator (.bounded bound) id (.send w)).on m).2.generator id).state =
          .completed (.returned v)
  /-- A body returns by a statement that leaves all that is around it, or since
  there is nothing left of it. -/
  returned {id : GeneratorId} {r : Resume} {m n : Machine} {v : Value} :
    BodyRun (.bounded bound) id r m (.ok (.returned v)) n →
      Returning (.bounded bound) id r m v n
  /-- If a body ends with any other exception that would report an end, that is an
  error to its caller, and the generator remembers it. -/
  escaped {id : GeneratorId} {r : Resume} {m n : Machine} {s : Stop} :
    BodyRun (.bounded bound) id r m (.error s) n → s.isInstanceOf .stopIteration = true →
    ((resumeGenerator (.bounded bound) id r).on m).1 = .error (.fault .escapedStopIteration) ∧
    (((resumeGenerator (.bounded bound) id r).on m).2.generator id).state =
      .completed (.stopped (.fault .escapedStopIteration)) ∧
    Fault.escapedStopIteration.toException =
      .saying .runtimeError "generator raised StopIteration"
  /-- So no exception that would report an end comes out of a generator but the
  signal, and one that is thrown at a generator with no body to catch it. -/
  only {id : GeneratorId} {r : Resume} {m : Machine} {s : Stop} :
    ((resumeGenerator (.bounded bound) id r).on m).1 = .error s →
    s.isInstanceOf .stopIteration = true →
    (∃ v, s = .fault (.exhausted v)) ∨ ∃ e, r = .throw e ∧ s = .fault (.raised e) ∧
      ∀ targets frames, ¬ Waiting (m.generator id).state r targets frames
  /-- A loop that no `break` ends goes on to the end of the generator, -/
  loop {id : GeneratorId} {m n : Machine} {scope : ScopeId} {target : Expr} {body : Block} :
    (runFor (.bounded bound) scope target body (.generator id)).on m = (.ok true, n) →
    n.Ended id
  /-- and so does one in the body of another generator. -/
  frame {id : GeneratorId} {m n : Machine} {scope : ScopeId} {target : Expr} {body : Block}
    {orElse : Option Block} {frames rest : List Frame} :
    (advanceFrame (.bounded bound) scope (.forLoop target body orElse (.generator id))
      frames).on m = (.ok (.onward rest), n) →
    rest = .suite body :: .forLoop target body orElse (.generator id) :: frames ∨ n.Ended id
  /-- So does a comprehension. -/
  comprehension {α : Type} {id : GeneratorId} {name : String} {scope : ScopeId}
    {element : Eval α} {c : Clause} {rest : List Clause} {elements : Array α} :
    Exhausts id (collectElements (.bounded bound) scope element (c :: rest)
      (some (.generator id name)) elements)
  /-- Functions that take all items come to a value only at the end, -/
  builtin {id : GeneratorId} {name : String} {b : Builtin} {rest : List Value} :
    b ∈ Builtin.takesItems →
    Exhausts id (callBuiltin (.bounded bound) b (.generator id name :: rest))
  /-- and so do those that look for an extreme one. -/
  extreme {id : GeneratorId} {name : String} :
    Exhausts id (callBuiltin (.bounded bound) .min [.generator id name]) ∧
    Exhausts id (callBuiltin (.bounded bound) .max [.generator id name])
  /-- The same goes for methods. -/
  method {id : GeneratorId} {name : String} {receiver : Value} {method : String} :
    (∃ s, receiver = .str s) ∧ method = "join" ∨ (∃ l, receiver = .list l) ∧ method = "extend" ∨
      (∃ l, receiver = .set l) ∧ method = "update" →
    Exhausts id (callMethod (.bounded bound) receiver method [.generator id name])
  /-- Targets are given values only from a generator that has ended. -/
  unpacked {id : GeneratorId} {name : String} {scope : ScopeId} {targets : List Expr} :
    Exhausts id (assignTarget (.bounded bound) scope (.tuple targets) (.generator id name)) ∧
    Exhausts id (assignTarget (.bounded bound) scope (.list targets) (.generator id name))
  /-- An item is missing only from a generator that has ended. -/
  searched {id : GeneratorId} {name : String} {item : Value} {m n : Machine} {found : Bool} :
    (linkHolds (.bounded bound) .isIn item (.generator id name)).on m = (.ok false, n) ∨
    (linkHolds (.bounded bound) .notIn item (.generator id name)).on m = (.ok true, n) →
    n.Ended id

/-- **Exhaustion is never faked.** -/
theorem exhaustion_is_never_faked (bound : Nat) : RealEnds bound where
  signal {id m v w} := by
    rw [fst_send_eq_exhausted_iff]
    constructor
    · rintro (⟨ended, rfl⟩ | ⟨n, run⟩)
      · exact .inl ⟨ended, rfl, by rw [on_resume_of_completed _ ended]⟩
      · exact .inr ⟨⟨n, run⟩, run.state nofun⟩
    · rintro (⟨ended, rfl, -⟩ | ⟨run, -⟩)
      · exact .inl ⟨ended, rfl⟩
      · exact .inr run
  returned run := run.returning
  escaped {id r m n s} run reports := by
    have ends : (Except.error s : Except Stop Pause) ≠ .error .endless := by
      rintro ⟨⟩
      cases reports
    have raised : MeteredScript.escaped s = .fault .escapedStopIteration := if_pos reports
    refine ⟨?_, ?_, rfl⟩
    · rw [run.on_resume ends, verdict, raised]
    · rw [run.state ends, restState, raised]
  only failed reports := exhausted_or_refused failed reports
  loop := ended_of_runFor
  frame := ended_of_advanceFrame
  comprehension := exhausts_collectElements bound _ _ _ _ _ _ _
  builtin takes := exhausts_callBuiltin bound takes _ _ _
  extreme := ⟨exhausts_callExtreme bound _ _ _ _, exhausts_callExtreme bound _ _ _ _⟩
  method takes := exhausts_callMethod bound takes _ _
  unpacked := exhausts_assignTarget bound _ _ _ _
  searched {id name item m n found} ran := by
    rcases ran with ran | ran
    · exact ended_of_memberOfGenerator ran
    · have missed : ((!·) <$> memberOfGenerator (.bounded bound) item id).on m = (.ok true, n) := ran
      rw [map_eq_pure_bind, on_bind] at missed
      split at missed
      · rename_i found n₁ searched
        cases found with
        | true => cases missed
        | false =>
          cases missed
          exact ended_of_memberOfGenerator searched
      · cases missed

end MeteredScript
