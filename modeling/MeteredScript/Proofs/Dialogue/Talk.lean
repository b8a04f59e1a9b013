import MeteredScript.Evaluation.Bounded

/-!
# Generator bodies told recursively

What a generator body means can be said without frames. The caller of a
generator decides in advance what it will do at each `yield`, and the body is
run by the rules for statements with one more rule: a `yield` that is a whole
statement, or all of what is assigned, works out its operand, hands the value
over, and goes on with what the caller does next. That is a conversation
(`Talk`), and `Talk.exec` runs a statement in it. It recurses through the parts
of a statement in the way `execStmt` does, and keeps no frames.

On statements without a `yield` there is nothing to talk about, and `Talk.exec`
does what the evaluator does (`exec_eq_lift`). So it is an extension of the
evaluator, and what the machine of frames does can be measured against it.
-/

namespace MeteredScript

/-! ## Conversations -/

/-- **The state of a conversation** between a body and its caller. -/
structure Dialogue where
  /-- What the caller will do, in order. -/
  actions : List Resume
  /-- What was handed over so far, in order. -/
  yielded : List Value

/-- Why a body does not go on. -/
inductive Halt where
  | stop (s : Stop)
  /-- The caller does nothing more. -/
  | waiting

/-- **An evaluation that talks to a caller.** What was said stays said when it
stops. -/
def Talk (α : Type) : Type := Dialogue → Eval (Except Halt α × Dialogue)

namespace Talk

variable {α β : Type}

instance : Monad Talk where
  pure a := fun d => Pure.pure (.ok a, d)
  bind t f := fun d => do
    match ← t d with
    | (.ok a, d) => f a d
    | (.error h, d) => return (.error h, d)

/-- An evaluation that says nothing. -/
def lift (x : Eval α) : Talk α := fun d => do
  match ← Eval.attempt x with
  | .ok a => return (.ok a, d)
  | .error s => return (.error (.stop s), d)

/-- There is no end to it. -/
def endless : Talk α := fun _ => throw .endless

/-- Stop. -/
def stop (s : Stop) : Talk α := fun d => return (.error (.stop s), d)

/-- Go on with an answer, or stop. -/
def ofStop : Except Stop α → Talk α
  | .ok a => pure a
  | .error s => stop s

/-- Run it and give back how it ended, if it did. -/
def attempt (t : Talk α) : Talk (Except Stop α) := fun d => do
  match ← t d with
  | (.ok a, d) => return (.ok (.ok a), d)
  | (.error (.stop s), d) => return (.ok (.error s), d)
  | (.error .waiting, d) => return (.error .waiting, d)

/-- **Hand a value over** to the caller, and find out what it does. -/
def ask (v : Value) : Talk Resume := fun d =>
  match d.actions with
  | [] => return (.error .waiting, ⟨[], d.yielded ++ [v]⟩)
  | action :: actions => return (.ok action, ⟨actions, d.yielded ++ [v]⟩)

/-- What is said after an evaluation. -/
theorem lift_bind_apply (x : Eval α) (f : α → Talk β) (d : Dialogue) :
    (lift x >>= f) d = Eval.attempt x >>= fun r => match r with
      | .ok a => f a d
      | .error s => Pure.pure (.error (.stop s), d) := by
  show (Eval.attempt x >>= _) >>= _ = _
  rw [bind_assoc]
  refine bind_congr fun r => ?_
  cases r <;> rfl

/-! ## What follows a conversation -/

variable {γ : Type}

/-- What an evaluation makes of how a conversation ends. -/
def through (t : Talk α) (k : Except Halt α → Dialogue → Eval γ) (d : Dialogue) : Eval γ := do
  let (r, d) ← t d
  k r d

theorem through_congr (t : Talk α) {k k' : Except Halt α → Dialogue → Eval γ}
    (hk : ∀ r d, k r d = k' r d) (d : Dialogue) : t.through k d = t.through k' d := by
  rw [show k = k' from funext fun r => funext fun d => hk r d]

/-- What is said second is said after what is said first. -/
theorem bind_apply (t : Talk α) (f : α → Talk β) (d : Dialogue) :
    (t >>= f) d = t.through (fun r d => match r with
      | .ok a => f a d
      | .error h => Pure.pure (.error h, d)) d := by
  refine bind_congr (m := Eval) fun o => ?_
  match o with
  | (.ok a, d) => rfl
  | (.error h, d) => rfl

theorem through_bind (t : Talk α) (f : α → Talk β) (k : Except Halt β → Dialogue → Eval γ)
    (d : Dialogue) :
    (t >>= f).through k d = t.through (fun r d => match r with
      | .ok a => (f a).through k d
      | .error h => k (.error h) d) d := by
  show (t d >>= _) >>= _ = t d >>= _
  rw [bind_assoc]
  refine bind_congr fun o => ?_
  match o with
  | (.ok a, d) => rfl
  | (.error h, d) => rfl

theorem through_attempt (t : Talk α)
    (k : Except Halt (Except Stop α) → Dialogue → Eval γ) (d : Dialogue) :
    (attempt t).through k d = t.through (fun r d => match r with
      | .ok a => k (.ok (.ok a)) d
      | .error (.stop s) => k (.ok (.error s)) d
      | .error .waiting => k (.error .waiting) d) d := by
  show (t d >>= _) >>= _ = t d >>= _
  rw [bind_assoc]
  refine bind_congr fun o => ?_
  match o with
  | (.ok a, d) => rfl
  | (.error (.stop s), d) => rfl
  | (.error .waiting, d) => rfl

theorem through_lift (x : Eval α) (k : Except Halt α → Dialogue → Eval γ)
    (d : Dialogue) :
    (lift x).through k d = Eval.attempt x >>= fun r => match r with
      | .ok a => k (.ok a) d
      | .error s => k (.error (.stop s)) d := by
  show (Eval.attempt x >>= _) >>= _ = Eval.attempt x >>= _
  rw [bind_assoc]
  refine bind_congr fun r => ?_
  cases r <;> rfl

theorem through_lift_bind (x : Eval α) (f : α → Talk β)
    (k : Except Halt β → Dialogue → Eval γ) (d : Dialogue) :
    (lift x >>= f).through k d = Eval.attempt x >>= fun r => match r with
      | .ok a => (f a).through k d
      | .error s => k (.error (.stop s)) d := by
  rw [through_bind, through_lift]

/-! ## Parts of statements -/

/-- **The value that a `yield` has** which hands a value over. The exception that
a caller raises is raised there. -/
def handOver (v : Value) : Talk Value := do
  match ← ask v with
  | .send w => return w
  | .throw e => stop (.fault (.raised e))

/-- The value of a `yield`. -/
def yielded (ev : Evaluator) (scope : ScopeId) : Option Expr → Talk Value
  | some e => do handOver (← lift (ev.eval e scope))
  | none => handOver .none

section Parts

variable (ev : Evaluator) (exec : Stmt → Talk Unit) (scope : ScopeId)

/-- Run the statements of a block in order. -/
def execBlock : Block → Talk Unit
  | [] => pure ()
  | s :: rest => do
    exec s
    execBlock rest

/-- Run a block that may be left out. -/
def execOptional : Option Block → Talk Unit
  | none => pure ()
  | some block => execBlock exec block

/-- Run a round of a loop. The answer is whether there may be another. -/
def runRound (body : Block) : Talk Bool := do
  ofStop (roundEnd (← attempt (execBlock exec body)))

/-- Run a `while` loop. The answer is whether its condition failed. -/
def runWhile (condition : Expr) (body : Block) : (rounds : Nat) → Talk Bool
  | 0 => endless
  | rounds + 1 => do
    lift Eval.tick
    if ← lift (ev.holds scope condition) then
      if ← runRound exec body then runWhile condition body rounds else return false
    else return true

/-- Run a `for` loop. The answer is whether there were no more items. -/
def runFor (target : Expr) (body : Block) : (rounds : Nat) → Cursor → Talk Bool
  | 0, _ => endless
  | rounds + 1, cursor => do
    match ← lift (ev.next? cursor) with
    | none => return true
    | some (item, cursor) =>
      lift Eval.tick
      lift (assignTarget ev scope target item)
      if ← runRound exec body then runFor target body rounds cursor else return false

/-- Run the body of the handler of a fault. -/
def whileHandling (f : Fault) (t : Talk Unit) : Talk Unit := do
  lift (Eval.pushHandling f)
  let result ← attempt t
  lift Eval.popHandling
  ofStop result

/-- Give a fault to the first handler that catches it. -/
def handleFault (handlers : List Handler) (f : Fault) : Talk Unit := do
  match ← lift (findHandler ev scope f.exceptionKind handlers) with
  | none => stop (.fault f)
  | some handler =>
    lift (bindException scope handler f)
    whileHandling f (execBlock exec handler.body)

/-- Run the body of a `try` statement and what follows on how it ends. -/
def runGuarded (body : Block) (handlers : List Handler) (orElse : Option Block) : Talk Unit := do
  match ← attempt (execBlock exec body) with
  | .ok () => execOptional exec orElse
  | .error (.fault f) => handleFault ev exec scope handlers f
  | .error s => stop s

/-- Run a `try` statement. -/
def runTry (body : Block) (handlers : List Handler) (orElse cleanup : Option Block) :
    Talk Unit := do
  let outcome ← attempt (runGuarded ev exec scope body handlers orElse)
  execOptional exec cleanup
  ofStop outcome

/-- **What running a statement does** in a conversation. A statement that has no
statements inside it, and is no `yield`, does what it always does. -/
def execForm : StmtForm → Talk Unit
  | .expr (.yield operand) => do
    let _ ← yielded ev scope operand
  | .assign targets (.yield operand) => do
    lift (assignAll ev scope (← yielded ev scope operand) targets)
  | .branch condition body orElse => do
    if ← lift (ev.holds scope condition) then execBlock exec body
    else execOptional exec orElse
  | .whileLoop condition body orElse => do
    if ← runWhile ev exec scope condition body ev.rounds then execOptional exec orElse
  | .forLoop target iterable body orElse => do
    let v ← lift (ev.eval iterable scope)
    let cursor ← lift (Evaluator.startIteration v)
    if ← runFor ev exec scope target body ev.rounds cursor then execOptional exec orElse
  | .attempt body handlers orElse cleanup => runTry ev exec scope body handlers orElse cleanup
  | .select subject cases => do
    let v ← lift (ev.eval subject scope)
    execOptional exec (← lift (selectCase ev scope v cases))
  | form => lift (MeteredScript.execForm ev scope form)

end Parts

/-- **Run a statement in a conversation**, recursing at most so many levels
deep. -/
def exec (scope : ScopeId) : (bound : Nat) → Stmt → Talk Unit
  | 0, _ => endless
  | bound + 1, s => do
    lift Eval.tick
    execForm (.bounded bound) (exec scope bound) scope s.form

/-- **Run a generator body in a conversation.** It gives what it returns. -/
def runBody (scope : ScopeId) (bound : Nat) (body : Block) : Talk Value := do
  match ← attempt (execBlock (exec scope bound) body) with
  | .ok () => return .none
  | .error (.returns v) => return v
  | .error s => stop s

end Talk

end MeteredScript
