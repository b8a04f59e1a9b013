import MeteredScript.Proofs.Lifecycle.Transition

/-!
# Machines all of whose code is placed

A `break` or `continue` is meant for a loop around it. Whether there is one in the same body can
be seen in the text (`Stmt.placed`): the body of a function is a body of its own, and so is a
lambda's, which has no statements at all. The body of a class is run where the class stands, so a
loop around the class is a loop around its body. The `else` block of a loop is not in the loop.

A machine keeps code to be run later: the bodies of its functions, and what its generators have
left to do. `Machine.Placed` says of such code what `Stmt.placed` says of a text. The code that is
left of a generator's body is a stack of frames, and there a loop around a frame is one of the
frames below it. A `break` that waits for a `finally` block to end counts as well.
-/

namespace MeteredScript

/-! ## Statements -/

mutual

/-- **Whether each `break` and `continue` of a statement stands in a loop** of its own body.
Whether the statement itself does is given. -/
def Stmt.placed : (inLoop : Bool) → Stmt → Bool
  | inLoop, ⟨_, form⟩ => form.placed inLoop

/-- The same of a statement of this form. -/
def StmtForm.placed : (inLoop : Bool) → StmtForm → Bool
  | inLoop, .branch _ body orElse => blockPlaced inLoop body && optionalBlockPlaced inLoop orElse
  | inLoop, .whileLoop _ body orElse => blockPlaced true body && optionalBlockPlaced inLoop orElse
  | inLoop, .forLoop _ _ body orElse => blockPlaced true body && optionalBlockPlaced inLoop orElse
  | _, .function _ _ body => blockPlaced false body
  | inLoop, .classDef _ body => blockPlaced inLoop body
  | inLoop, .attempt body handlers orElse cleanup =>
    blockPlaced inLoop body && handlersPlaced inLoop handlers && optionalBlockPlaced inLoop orElse
      && optionalBlockPlaced inLoop cleanup
  | inLoop, .select _ cases => casesPlaced inLoop cases
  | inLoop, .breaks | inLoop, .continues => inLoop
  | _, .expr _ | _, .assign .. | _, .augmented .. | _, .returns _ | _, .raise _ | _, .pass => true

/-- **The same of all statements of a block.** -/
def blockPlaced : (inLoop : Bool) → List Stmt → Bool
  | _, [] => true
  | inLoop, s :: ss => s.placed inLoop && blockPlaced inLoop ss

/-- The same of a block that may be left out. -/
def optionalBlockPlaced : (inLoop : Bool) → Option (List Stmt) → Bool
  | _, none => true
  | inLoop, some block => blockPlaced inLoop block

/-- The same of the bodies of handlers. -/
def handlersPlaced : (inLoop : Bool) → List Handler → Bool
  | _, [] => true
  | inLoop, ⟨_, _, body⟩ :: hs => blockPlaced inLoop body && handlersPlaced inLoop hs

/-- The same of the bodies of the cases of a `match` statement. -/
def casesPlaced : (inLoop : Bool) → List Case → Bool
  | _, [] => true
  | inLoop, ⟨_, _, body⟩ :: cs => blockPlaced inLoop body && casesPlaced inLoop cs

end

/-! ## Stops -/

/-- Whether code may stop for this where there is a loop around it, or where there is none. -/
def Stop.placed (inLoop : Bool) : Stop → Bool
  | .breaks | .continues => inLoop
  | _ => true

theorem Stop.placed_of_false {s : Stop} (h : s.placed false = true) (inLoop : Bool) :
    s.placed inLoop = true := by
  cases s with
  | breaks | continues => cases h
  | _ => rfl

@[simp] theorem Stop.placed_true (s : Stop) : s.placed true = true := by cases s <;> rfl

/-! ## Blocks -/

theorem placed_toLoop (c : Clause) (iterable : Expr) {body : Block}
    (placed : blockPlaced true body = true) (inLoop : Bool) :
    blockPlaced inLoop (c.toLoop iterable body) = true := by
  have guarded (conditions : List Expr) :
      blockPlaced true (conditions.foldr (fun condition block =>
        [StmtForm.synthetic (.branch condition block none)]) body) = true := by
    induction conditions with
    | nil => exact placed
    | cons condition rest ih =>
      simpa [StmtForm.synthetic, blockPlaced, Stmt.placed, StmtForm.placed, optionalBlockPlaced]
        using ih
  simpa [Clause.toLoop, StmtForm.synthetic, blockPlaced, Stmt.placed, StmtForm.placed,
    optionalBlockPlaced] using guarded c.conditions

/-- The loops that a generator expression stands for have no `break` or `continue`. -/
theorem placed_generatorBody (element : Expr) (first : Clause) (rest : List Clause) :
    blockPlaced false (generatorBody element first rest) = true := by
  have loops (inLoop : Bool) : blockPlaced inLoop (clausesToLoops element rest) = true := by
    induction rest generalizing inLoop with
    | nil => rfl
    | cons c rest ih => exact placed_toLoop c _ (ih true) inLoop
  exact placed_toLoop first _ (loops true) false

/-! ## Frames -/

/-- Whether a frame is a loop whose body is being run. -/
def Frame.isLoop : Frame → Bool
  | .whileLoop .. | .forLoop .. => true
  | _ => false

/-- Whether code that is run inside some frames is in a loop. -/
def loopAround (frames : List Frame) : Bool := frames.any Frame.isLoop

/-- Whether each `break` and `continue` in what a frame has left to do is in a loop. -/
def Frame.placed (inLoop : Bool) : Frame → Bool
  | .suite rest => blockPlaced inLoop rest
  | .whileLoop _ body orElse | .forLoop _ body orElse _ =>
    blockPlaced true body && optionalBlockPlaced inLoop orElse
  | .guarded handlers orElse last =>
    handlersPlaced inLoop handlers && optionalBlockPlaced inLoop orElse
      && optionalBlockPlaced inLoop last
  | .afterBody last | .handling _ last => optionalBlockPlaced inLoop last
  | .cleanup pending => pending.all (Stop.placed inLoop)

/-- **Whether each `break` and `continue` in some frames is in a loop**, one of those around it
included. -/
def framesPlaced : List Frame → Bool
  | [] => true
  | frame :: frames => frame.placed (loopAround frames) && framesPlaced frames

section Frames

variable {frame : Frame} {frames : List Frame} {block : Option Block}

@[simp] theorem loopAround_cons :
    loopAround (frame :: frames) = (frame.isLoop || loopAround frames) := rfl

@[simp] theorem framesPlaced_cons :
    framesPlaced (frame :: frames) = (frame.placed (loopAround frames) && framesPlaced frames) :=
  rfl

@[simp] theorem framesPlaced_suiteOf : framesPlaced (suiteOf block frames) =
    (optionalBlockPlaced (loopAround frames) block && framesPlaced frames) := by
  cases block <;> simp [suiteOf, optionalBlockPlaced, Frame.placed]

theorem framesPlaced_enterCleanup {pending : Option Stop}
    (block_placed : optionalBlockPlaced (loopAround frames) block = true)
    (pending_placed : pending.all (Stop.placed (loopAround frames)) = true)
    (frames_placed : framesPlaced frames = true) :
    framesPlaced (enterCleanup block pending frames) = true := by
  cases block with
  | none => exact frames_placed
  | some block =>
    rw [optionalBlockPlaced] at block_placed
    simp [enterCleanup, Frame.placed, Frame.isLoop, block_placed, pending_placed, frames_placed]

end Frames

/-! ## Machines -/

/-- Whether each `break` and `continue` in what a generator has left to do is in a loop. -/
def GeneratorState.placed : GeneratorState → Bool
  | .notStarted body => blockPlaced false body
  | .suspended _ frames => framesPlaced frames
  | .running | .completed _ => true

/-- Whether each `break` and `continue` in the body of a function is in a loop there. -/
def FunctionBody.placed : FunctionBody → Bool
  | .block body => blockPlaced false body
  | .expr _ => true

/-- **All code that a machine keeps has each `break` and `continue` in a loop of its own
body.** -/
structure Machine.Placed (m : Machine) : Prop where
  functions : ∀ f ∈ m.functions, f.body.placed = true
  generators : m.scopes.AllGenerators fun state => state.placed = true

namespace Machine.Placed

variable {m : Machine}

theorem initial (config : Config) : (Machine.initial config).Placed where
  functions _ member := nomatch member
  generators _ _ found := nomatch found

variable (h : m.Placed)

include h

theorem function (id : FunctionId) : (m.function id).body.placed = true := by
  rw [Machine.function, Array.getD_eq_getD_getElem?]
  cases found : m.functions[id.index]? with
  | none => rfl
  | some f => exact h.functions f (Array.mem_of_getElem? found)

theorem state (id : GeneratorId) : (m.generator id).state.placed = true :=
  h.generators.state rfl id

theorem newFunction {f : Function} (placed : f.body.placed = true) :
    Placed { m with functions := m.functions.push f } where
  functions g member := by
    rcases Array.mem_push.1 member with old | rfl
    · exact h.functions g old
    · exact placed
  generators := h.generators

theorem define (scope : ScopeId) (name : String) (v : Value) :
    Placed { m with scopes := m.scopes.define scope name v } :=
  ⟨h.functions, h.generators.define scope name v⟩

theorem setGenerator (id : ScopeId) {state : GeneratorState} (placed : state.placed = true) :
    Placed { m with scopes := m.scopes.setGenerator id state } :=
  ⟨h.functions, h.generators.setGenerator id placed⟩

theorem addScope (kind : ScopeKind) (parent : Option ScopeId) {state : Option GeneratorState}
    (placed : ∀ s ∈ state, s.placed = true) :
    Placed { m with scopes := (m.scopes.addScope kind parent state).2 } :=
  ⟨h.functions, h.generators.addScope kind parent placed⟩

end Machine.Placed

end MeteredScript
