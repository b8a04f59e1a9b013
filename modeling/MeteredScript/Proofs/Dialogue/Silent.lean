import MeteredScript.Proofs.Coupling.Invariant
import MeteredScript.Proofs.Dialogue.Talk

/-!
# Conversations without a `yield`

A statement that contains no `yield` has nothing to say to a caller. Told
recursively it does what it does when it is evaluated, at every bound and for
every form (`Talk.exec_eq_lift`). So the rule for `yield` is all that
conversations add to evaluation.
-/

namespace MeteredScript

namespace Talk

variable {α β : Type}

/-! ## Evaluations that say nothing -/

theorem lift_pure (a : α) : lift (Pure.pure a) = Pure.pure a := rfl

theorem lift_throw {s : Stop} (hs : s ≠ .endless) : lift (throw s : Eval α) = stop s := by
  cases s with
  | endless => exact absurd rfl hs
  | _ => rfl

theorem lift_ofStop {r : Except Stop α} (hr : r ≠ .error .endless) :
    lift (Eval.ofStop r) = ofStop r := by
  cases r with
  | ok a => rfl
  | error s => exact lift_throw fun h => hr (by rw [h])

/-- What runs second says as little as what runs first. -/
theorem lift_bind (x : Eval α) (f : α → Eval β) :
    lift (x >>= f) = lift x >>= fun a => lift (f a) := by
  funext d m
  simp only [lift, bind, EStateM.bind, Eval.attempt]
  cases x m with
  | ok a n => rfl
  | error s n => cases s <;> rfl

/-- What is done with a result that was looked at. It is never the lack of
one. -/
theorem lift_attempt_bind (x : Eval α) {f : Except Stop α → Eval β} {g : Except Stop α → Talk β}
    (hfg : ∀ r, r ≠ .error .endless → lift (f r) = g r) :
    lift (Eval.attempt x >>= f) = attempt (lift x) >>= g := by
  have hrun {r : Except Stop α} (hr : r ≠ .error .endless) (d : Dialogue) (m : Machine) :
      lift (f r) d m = g r d m := by
    rw [hfg r hr]
  funext d m
  rw [lift_bind]
  simp only [lift, attempt, bind, EStateM.bind, Eval.attempt] at hrun ⊢
  cases x m with
  | ok a n => exact hrun (by simp) d n
  | error s n =>
    cases s with
    | endless => rfl
    | _ => exact hrun (by simp) d n

theorem lift_ite {p : Prop} [Decidable p] (x y : Eval α) :
    lift (if p then x else y) = if p then lift x else lift y := by
  split <;> rfl

/-- What follows on a value need only agree where the value can be had. -/
theorem lift_bind_congr {P : α → Prop} {x : Eval α} (hx : Eval.Gives P x) {f g : α → Talk β}
    (hfg : ∀ a, P a → f a = g a) : lift x >>= f = lift x >>= g := by
  funext d m
  simp only [lift, bind, EStateM.bind, Eval.attempt]
  cases h : x m with
  | ok a n =>
    have ha : P a := hx m a n (by rw [Eval.on, h])
    show f a d n = g a d n
    rw [hfg a ha]
  | error s n => cases s <;> rfl

/-- A handler that is found is one of those given. -/
theorem gives_findHandler (ev : Evaluator) (scope : ScopeId) (kind : ExceptionKind)
    (handlers : List Handler) :
    Eval.Gives (fun found => ∀ handler ∈ found, handler ∈ handlers)
      (findHandler ev scope kind handlers) := by
  induction handlers with
  | nil => exact .pure (by simp)
  | cons handler rest ih =>
    have hrest : Eval.Gives (fun found => ∀ h ∈ found, h ∈ handler :: rest)
        (findHandler ev scope kind rest) :=
      fun m found n h found hfound => List.mem_cons_of_mem _ (ih m _ n h found hfound)
    unfold findHandler
    split
    · exact .pure (by simp)
    · refine .bind fun expected => .bind fun b => ?_
      split
      · exact .pure (by simp)
      · exact hrest

/-- A body that is selected is that of one of the cases. -/
theorem gives_selectCase (ev : Evaluator) (scope : ScopeId) (subject : Value)
    (cases : List Case) :
    Eval.Gives (fun found => ∀ body ∈ found, ∃ c ∈ cases, c.body = body)
      (selectCase ev scope subject cases) := by
  induction cases with
  | nil => exact .pure (by simp)
  | cons c rest ih =>
    have hrest : Eval.Gives (fun found => ∀ body ∈ found, ∃ c' ∈ c :: rest, c'.body = body)
        (selectCase ev scope subject rest) := by
      intro m found n h body hbody
      obtain ⟨c', hc', heq⟩ := ih m _ n h body hbody
      exact ⟨c', List.mem_cons_of_mem _ hc', heq⟩
    unfold selectCase
    refine .bind fun heap => ?_
    split
    · exact hrest
    · refine .bind fun _ => .bind fun b => ?_
      split
      · exact .pure (by simp)
      · exact hrest

theorem blockYields_of_mem {handler : Handler} {handlers : List Handler}
    (hh : handlersYield handlers = false) (hmem : handler ∈ handlers) :
    blockYields handler.body = false := by
  induction handlers with
  | nil => cases hmem
  | cons first rest ih =>
    obtain ⟨catches, name, body⟩ := first
    simp only [handlersYield, Bool.or_eq_false_iff] at hh
    rcases List.mem_cons.1 hmem with rfl | hmem
    · exact hh.1.2
    · exact ih hh.2 hmem

theorem blockYields_of_mem_cases {c : Case} {cases : List Case}
    (hc : casesYield cases = false) (hmem : c ∈ cases) : blockYields c.body = false := by
  induction cases with
  | nil => cases hmem
  | cons first rest ih =>
    obtain ⟨pattern, guard, body⟩ := first
    simp only [casesYield, Bool.or_eq_false_iff] at hc
    rcases List.mem_cons.1 hmem with rfl | hmem
    · exact hc.1.2
    · exact ih hc.2 hmem

section Silent

variable {ev : Evaluator} {exec : Stmt → Talk Unit} {scope : ScopeId}
  (hexec : ∀ s, s.yields = false → exec s = lift (ev.exec s scope))

include hexec

theorem execBlock_eq_lift {block : Block} (hb : blockYields block = false) :
    execBlock exec block = lift (ev.execBlock scope block) := by
  induction block with
  | nil => rfl
  | cons s rest ih =>
    rw [blockYields, Bool.or_eq_false_iff] at hb
    rw [execBlock, Evaluator.execBlock, lift_bind, hexec s hb.1, ih hb.2]

theorem execOptional_eq_lift {block : Option Block} (hb : optionalBlockYields block = false) :
    execOptional exec block = lift (ev.execOptional scope block) := by
  cases block with
  | none => rfl
  | some block => exact execBlock_eq_lift hexec hb

theorem runRound_eq_lift {body : Block} (hb : blockYields body = false) :
    runRound exec body = lift (MeteredScript.runRound ev scope body) := by
  rw [runRound, execBlock_eq_lift hexec hb]
  refine (lift_attempt_bind _ fun r hr => lift_ofStop ?_).symm
  match r, hr with
  | .ok _, _ | .error (.fault _), _ | .error (.returns _), _ | .error .breaks, _
  | .error .continues, _ | .error .gasExhausted, _ => simp [roundEnd]

theorem runWhile_eq_lift {body : Block} (hb : blockYields body = false) (condition : Expr)
    (rounds : Nat) :
    runWhile ev exec scope condition body rounds =
      lift (MeteredScript.runWhile ev scope condition body rounds) := by
  induction rounds with
  | zero => rfl
  | succ rounds ih =>
    rw [runWhile, MeteredScript.runWhile, lift_bind]
    refine bind_congr fun _ => ?_
    rw [lift_bind]
    refine bind_congr fun b => ?_
    rw [lift_ite, lift_bind, runRound_eq_lift hexec hb, ih]
    simp only [lift_ite, lift_pure]

theorem runFor_eq_lift {body : Block} (hb : blockYields body = false) (target : Expr)
    (rounds : Nat) (cursor : Cursor) :
    runFor ev exec scope target body rounds cursor =
      lift (ev.iterate (fun _ item => do
        Eval.tick
        assignTarget ev scope target item
        if ← MeteredScript.runRound ev scope body then return .yield true
        else return .done false) rounds cursor true) := by
  induction rounds generalizing cursor with
  | zero => rfl
  | succ rounds ih =>
    rw [runFor, Evaluator.iterate, lift_bind]
    refine bind_congr fun next => ?_
    match next with
    | none => rfl
    | some (item, cursor) =>
      simp only [bind_assoc]
      rw [lift_bind]
      refine bind_congr fun _ => ?_
      rw [lift_bind]
      refine bind_congr fun _ => ?_
      rw [lift_bind, runRound_eq_lift hexec hb]
      refine bind_congr fun again => ?_
      cases again with
      | true => exact ih cursor
      | false => rfl

theorem whileHandling_eq_lift (f : Fault) {body : Block} (hb : blockYields body = false) :
    whileHandling f (execBlock exec body) =
      lift (Eval.whileHandling f (ev.execBlock scope body)) := by
  rw [whileHandling, Eval.whileHandling, lift_bind, execBlock_eq_lift hexec hb]
  refine bind_congr fun _ => (lift_attempt_bind _ fun r hr => ?_).symm
  rw [lift_bind]
  exact bind_congr fun _ => lift_ofStop hr

theorem handleFault_eq_lift {handlers : List Handler} (hh : handlersYield handlers = false)
    (f : Fault) :
    handleFault ev exec scope handlers f =
      lift (MeteredScript.handleFault ev scope handlers f) := by
  rw [handleFault, MeteredScript.handleFault, lift_bind]
  refine lift_bind_congr (gives_findHandler ev scope f.exceptionKind handlers) fun found hfound => ?_
  match found with
  | none => rfl
  | some handler =>
    have hbody := blockYields_of_mem hh (hfound handler rfl)
    dsimp only
    rw [lift_bind, whileHandling_eq_lift hexec f hbody]

theorem runGuarded_eq_lift {body : Block} (hb : blockYields body = false)
    {handlers : List Handler} (hh : handlersYield handlers = false) {orElse : Option Block}
    (ho : optionalBlockYields orElse = false) :
    runGuarded ev exec scope body handlers orElse =
      lift (MeteredScript.runGuarded ev scope body handlers orElse) := by
  rw [runGuarded, MeteredScript.runGuarded, execBlock_eq_lift hexec hb]
  refine (lift_attempt_bind _ fun r hr => ?_).symm
  cases r with
  | ok => exact (execOptional_eq_lift hexec ho).symm
  | error s =>
    cases s with
    | fault f => exact (handleFault_eq_lift hexec hh f).symm
    | endless => exact absurd rfl hr
    | returns | breaks | continues | gasExhausted => rfl

theorem runTry_eq_lift {body : Block} (hb : blockYields body = false)
    {handlers : List Handler} (hh : handlersYield handlers = false)
    {orElse cleanup : Option Block} (ho : optionalBlockYields orElse = false)
    (hc : optionalBlockYields cleanup = false) :
    runTry ev exec scope body handlers orElse cleanup =
      lift (MeteredScript.runTry ev scope body handlers orElse cleanup) := by
  rw [runTry, MeteredScript.runTry, runGuarded_eq_lift hexec hb hh ho]
  refine (lift_attempt_bind _ fun r hr => ?_).symm
  rw [lift_bind, execOptional_eq_lift hexec hc]
  exact bind_congr fun _ => lift_ofStop hr

/-- **A statement without a `yield`** does what it always does, if those inside
it do. -/
theorem execForm_eq_lift {form : StmtForm} (hf : form.yields = false) :
    execForm ev exec scope form = lift (MeteredScript.execForm ev scope form) := by
  match form with
  | .branch condition body orElse =>
    simp only [StmtForm.yields, Bool.or_eq_false_iff] at hf
    rw [execForm, MeteredScript.execForm, lift_bind]
    refine bind_congr fun b => ?_
    rw [lift_ite, execBlock_eq_lift hexec hf.1.2, execOptional_eq_lift hexec hf.2]
  | .whileLoop condition body orElse =>
    simp only [StmtForm.yields, Bool.or_eq_false_iff] at hf
    rw [execForm, MeteredScript.execForm, lift_bind, runWhile_eq_lift hexec hf.1.2]
    refine bind_congr fun finished => ?_
    rw [lift_ite, execOptional_eq_lift hexec hf.2, lift_pure]
  | .forLoop target iterable body orElse =>
    simp only [StmtForm.yields, Bool.or_eq_false_iff] at hf
    rw [execForm, MeteredScript.execForm, lift_bind]
    refine bind_congr fun v => ?_
    rw [lift_bind]
    refine bind_congr fun cursor => ?_
    rw [lift_bind, MeteredScript.runFor, runFor_eq_lift hexec hf.1.2]
    refine bind_congr fun finished => ?_
    rw [lift_ite, execOptional_eq_lift hexec hf.2, lift_pure]
  | .attempt body handlers orElse cleanup =>
    simp only [StmtForm.yields, Bool.or_eq_false_iff] at hf
    exact runTry_eq_lift hexec hf.1.1.1 hf.1.1.2 hf.1.2 hf.2
  | .select subject cases =>
    rw [StmtForm.yields, Bool.or_eq_false_iff] at hf
    rw [execForm, MeteredScript.execForm, lift_bind]
    refine bind_congr fun v => ?_
    rw [lift_bind]
    refine lift_bind_congr (gives_selectCase ev scope v cases) fun found hfound => ?_
    refine execOptional_eq_lift hexec ?_
    match found with
    | none => rfl
    | some body =>
      obtain ⟨c, hc, rfl⟩ := hfound body rfl
      exact blockYields_of_mem_cases hf.2 hc
  | .expr value =>
    cases value with
    | yield operand => cases hf
    | _ => rfl
  | .assign targets value =>
    cases value with
    | yield operand => cases hf
    | _ => rfl
  | .augmented _ _ _ | .function _ _ _ | .classDef _ _ | .returns _ | .raise _ | .breaks
  | .continues | .pass => rfl

end Silent

/-- **Conversations extend evaluation.** -/
theorem exec_eq_lift (scope : ScopeId) (bound : Nat) {s : Stmt} (hs : s.yields = false) :
    exec scope bound s = lift ((Evaluator.bounded bound).exec s scope) := by
  induction bound generalizing s with
  | zero => rfl
  | succ bound ih =>
    obtain ⟨span, form⟩ := s
    have hform : execForm (.bounded bound) (exec scope bound) scope form = _ :=
      execForm_eq_lift (fun s => ih) hs
    show (lift Eval.tick >>= fun _ => execForm _ _ scope form) =
      lift (Eval.tick >>= fun _ => MeteredScript.execForm _ scope form)
    rw [lift_bind, hform]

end Talk

end MeteredScript
