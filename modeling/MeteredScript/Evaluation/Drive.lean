import MeteredScript.Evaluation.Statement

/-!
# Driving a generator

The body of a generator is run by a machine of its own, which keeps what is
left to do as a stack of frames instead of recursing. So it can stop at a
`yield`, put the frames away, and go on from them later. Statements that
contain no `yield` are run in one piece.

`turn` is one step of this machine: a unit of work on the innermost frame, and
if that stops, `unwind`, which looks for the frame that takes care of it.
`drive` takes turns until the body yields, returns or fails, and
`resumeGenerator` is the protocol around it all: who may resume when, and what
the outcome makes of the generator.
-/

namespace MeteredScript

/-- What running frames leads to when it does not fail. -/
inductive Pause where
  /-- A `yield`, the targets that wait for its value, and what is left. -/
  | yielded (value : Value) (targets : List Expr) (frames : List Frame)
  | returned (value : Value)

/-- What a step of running frames leads to: more frames to run, or an end of
running them. -/
inductive Progress where
  | onward (frames : List Frame)
  | paused (pause : Pause)

/-! ## Frames -/

/-- The frames of a block that may be left out. -/
def suiteOf (block : Option Block) (frames : List Frame) : List Frame :=
  match block with
  | some block => .suite block :: frames
  | none => frames

/-- The frames that run the `finally` block of a `try` statement and then go
on with what is pending. Without such a block the statement is done. -/
def enterCleanup (cleanup : Option Block) (pending : Option Stop) (frames : List Frame) :
    List Frame :=
  match cleanup with
  | some block => .suite block :: .cleanup pending :: frames
  | none => frames

/-! ## One unit of work -/

/-- Stop at a `yield`: work out its operand. -/
def suspendAt (ev : Evaluator) (scope : ScopeId) (operand : Option Expr) (targets : List Expr)
    (frames : List Frame) : Eval Progress := do
  match operand with
  | some e => return .paused (.yielded (← ev.eval e scope) targets frames)
  | none => return .paused (.yielded .none targets frames)

/-- Begin a statement that contains a `yield`. Most forms only open frames;
a `yield` where the machine cannot stop is evaluated and so refused. -/
def beginStmt (ev : Evaluator) (scope : ScopeId) (s : Stmt) (frames : List Frame) :
    Eval Progress := do
  match s.form with
  | .expr (.yield operand) => suspendAt ev scope operand [] frames
  | .assign targets (.yield operand) => suspendAt ev scope operand targets frames
  | .branch condition body orElse =>
    if ← ev.holds scope condition then return .onward (.suite body :: frames)
    else return .onward (suiteOf orElse frames)
  | .whileLoop condition body orElse =>
    return .onward (.whileLoop condition body orElse :: frames)
  | .forLoop target iterable body orElse =>
    let cursor ← Evaluator.startIteration (← ev.eval iterable scope)
    return .onward (.forLoop target body orElse cursor :: frames)
  | .attempt body handlers orElse cleanup =>
    return .onward (.suite body :: .guarded handlers orElse cleanup :: frames)
  | .select subject cases =>
    let v ← ev.eval subject scope
    return .onward (suiteOf (← selectCase ev scope v cases) frames)
  | _ =>
    ev.exec s scope
    return .onward frames

/-- **One unit of work on the innermost frame**, with the frames around it. -/
def advanceFrame (ev : Evaluator) (scope : ScopeId) (frame : Frame) (frames : List Frame) :
    Eval Progress := do
  match frame with
  | .suite [] => return .onward frames
  | .suite (s :: rest) =>
    if s.yields then beginStmt ev scope s (.suite rest :: frames)
    else
      ev.exec s scope
      return .onward (.suite rest :: frames)
  | .whileLoop condition body orElse =>
    if ← ev.holds scope condition then
      return .onward (.suite body :: .whileLoop condition body orElse :: frames)
    else return .onward (suiteOf orElse frames)
  | .forLoop target body orElse cursor =>
    match ← ev.next? cursor with
    | some (item, cursor) =>
      assignTarget ev scope target item
      return .onward (.suite body :: .forLoop target body orElse cursor :: frames)
    | none => return .onward (suiteOf orElse frames)
  | .guarded _ (some block) cleanup => return .onward (.suite block :: .afterBody cleanup :: frames)
  | .guarded _ none cleanup => return .onward (enterCleanup cleanup none frames)
  | .afterBody cleanup => return .onward (enterCleanup cleanup none frames)
  | .handling _ cleanup =>
    Eval.popHandling
    return .onward (enterCleanup cleanup none frames)
  | .cleanup (some pending) => throw pending
  | .cleanup none => return .onward frames

/-! ## Stops -/

/-- The frames that go on with a handler for a stop in the body of a `try`
statement, if there is one. Looking for it can itself stop, and then that stop
takes the place of the first. -/
def enterHandler (ev : Evaluator) (scope : ScopeId) (handlers : List Handler)
    (cleanup : Option Block) (s : Stop) (frames : List Frame) :
    Eval (Except Stop (List Frame)) := do
  match s with
  | .fault f =>
    match ← Eval.attempt (findHandler ev scope f.exceptionKind handlers) with
    | .ok (some handler) =>
      bindException scope handler f
      Eval.pushHandling f
      return .ok (.suite handler.body :: .handling f cleanup :: frames)
    | .ok none => return .error s
    | .error raised => return .error raised
  | s => return .error s

/-- **The frames that take care of a stop**: those from the innermost loop
that a `break` or `continue` means, handler that catches a fault, or `finally`
block. Without any the stop is given back. -/
def unwind (ev : Evaluator) (scope : ScopeId) (s : Stop) :
    List Frame → Eval (Except Stop (List Frame))
  | [] => return .error s
  | .suite _ :: frames => unwind ev scope s frames
  | .whileLoop condition body orElse :: frames =>
    match s with
    | .breaks => return .ok frames
    | .continues => return .ok (.whileLoop condition body orElse :: frames)
    | s => unwind ev scope s frames
  | .forLoop target body orElse cursor :: frames =>
    match s with
    | .breaks => return .ok frames
    | .continues => return .ok (.forLoop target body orElse cursor :: frames)
    | s => unwind ev scope s frames
  | .guarded handlers _ cleanup :: frames => do
    match ← enterHandler ev scope handlers cleanup s frames with
    | .ok frames => return .ok frames
    | .error s =>
      if cleanup.isSome then return .ok (enterCleanup cleanup (some s) frames)
      else unwind ev scope s frames
  | .afterBody cleanup :: frames =>
    if cleanup.isSome then return .ok (enterCleanup cleanup (some s) frames)
    else unwind ev scope s frames
  | .handling _ cleanup :: frames => do
    Eval.popHandling
    if cleanup.isSome then return .ok (enterCleanup cleanup (some s) frames)
    else unwind ev scope s frames
  | .cleanup _ :: frames => unwind ev scope s frames

/-! ## Running -/

/-- Go on after a stop. If no frame takes care of it, a `return` gives the
generator its value and everything else goes on. -/
def recover (ev : Evaluator) (scope : ScopeId) (s : Stop) (frames : List Frame) :
    Eval Progress := do
  match ← unwind ev scope s frames with
  | .ok frames => return .onward frames
  | .error (.returns v) => return .paused (.returned v)
  | .error s => throw s

/-- **One turn**: a unit of work on the innermost frame for a unit of gas.
When the gas is refused the frame is still there. -/
def turn (ev : Evaluator) (scope : ScopeId) (frame : Frame) (frames : List Frame) :
    Eval Progress := do
  match ← Eval.attempt Eval.tick with
  | .error s => recover ev scope s (frame :: frames)
  | .ok () =>
    match ← Eval.attempt (advanceFrame ev scope frame frames) with
    | .ok progress => return progress
    | .error s => recover ev scope s frames

/-- **Run frames** until the body yields or ends, in at most `rounds`
turns. -/
def drive (ev : Evaluator) (scope : ScopeId) : (rounds : Nat) → List Frame → Eval Pause
  | 0, _ => throw .endless
  | _ + 1, [] => return .returned .none
  | rounds + 1, frame :: frames => do
    match ← turn ev scope frame frames with
    | .onward frames => drive ev scope rounds frames
    | .paused pause => return pause

/-- Turns that are enough for some frames: each one costs gas, and once there
is none left each takes a frame away. -/
def driveRounds (ev : Evaluator) (frames : List Frame) : Nat := 3 * ev.rounds + frames.length + 3

/-- Give the `yield` that a generator waits at its value. -/
def deliver (ev : Evaluator) (scope : ScopeId) (targets : List Expr) : Resume → Eval Unit
  | .send v => assignAll ev scope v targets
  | .throw e => Eval.fail (.raised e)

/-- The first step from a `yield`: what the caller does takes effect there. -/
def wake (ev : Evaluator) (scope : ScopeId) (targets : List Expr) (frames : List Frame)
    (resume : Resume) : Eval Progress := do
  match ← Eval.attempt (deliver ev scope targets resume) with
  | .ok () => return .onward frames
  | .error s => recover ev scope s frames

/-- Go on from a `yield`. -/
def driveFrom (ev : Evaluator) (scope : ScopeId) (targets : List Expr) (frames : List Frame)
    (resume : Resume) : Eval Pause := do
  match ← wake ev scope targets frames resume with
  | .onward rest => drive ev scope (driveRounds ev frames) rest
  | .paused pause => return pause

/-! ## The protocol -/

/-- The faults that the frames handle, innermost first. -/
def handledBy : List Frame → List Fault
  | [] => []
  | .handling f _ :: frames => f :: handledBy frames
  | _ :: frames => handledBy frames

/-- The stop that a caller sees when a body fails. The exception that reports
the end of iteration is reserved for bodies that do end. -/
def escaped (s : Stop) : Stop :=
  if s.isInstanceOf .stopIteration then .fault .escapedStopIteration else s

/-- What the outcome of a body makes of the generator, and what its caller
sees of it. -/
def settle (id : GeneratorId) (outcome : Except Stop Pause) : Eval Value := do
  match outcome with
  | .ok (.yielded v targets frames) =>
    Eval.setGeneratorState id (.suspended targets frames)
    return v
  | .ok (.returned v) =>
    Eval.setGeneratorState id (.completed (.returned v))
    Eval.fail (.exhausted v)
  | .error s =>
    Eval.setGeneratorState id (.completed (.stopped (escaped s)))
    throw (escaped s)

/-- Run a generator that waits, one call deeper. -/
def runSuspended (ev : Evaluator) (id : GeneratorId) (targets : List Expr)
    (frames : List Frame) (resume : Resume) : Eval Value := do
  let outcome ← Eval.inFrame do
    Eval.setGeneratorState id .running
    Eval.ofStop (← Eval.withHandled (handledBy frames)
      (driveFrom ev id.scope targets frames resume))
  settle id outcome

/-- What resuming a generator does, depending on where it is in its life. One
that is running cannot be resumed. One that has ended stays as it is: it
reports its end, or raises what it is given. One that has not started takes no
value yet, and an exception ends it before it starts. -/
def resumeFrom (ev : Evaluator) (id : GeneratorId) (state : GeneratorState) (resume : Resume) :
    Eval Value := do
  match state, resume with
  | .running, _ => Eval.fail .alreadyExecuting
  | .completed _, .send _ => Eval.fail (.exhausted .none)
  | .completed _, .throw e => Eval.fail (.raised e)
  | .notStarted _, .throw e =>
    Eval.setGeneratorState id (.completed (.stopped (.fault (.raised e))))
    Eval.fail (.raised e)
  | .notStarted body, .send v =>
    if v.isNone then runSuspended ev id [] [.suite body] resume
    else Eval.fail (.typeFault .earlySend)
  | .suspended targets frames, _ => runSuspended ev id targets frames resume

/-- **Resume a generator.** -/
def resumeGenerator (ev : Evaluator) (id : GeneratorId) (resume : Resume) : Eval Value := do
  resumeFrom ev id (← Eval.generatorState id) resume

end MeteredScript
