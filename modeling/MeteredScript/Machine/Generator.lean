import MeteredScript.Fault.Basic
import MeteredScript.Syntax.Tree

/-!
# Generators at rest

A generator that waits at a `yield` has to remember what is left of its body.
That is a stack of *frames*, innermost first: the statements left of a block,
a loop whose body is being run, a `try` statement a part of which is being
run. Only statements that contain a `yield` ever become frames.

What a generator remembers depends on where it is in its life, and
`GeneratorState` says so in the type: a generator that has not started has its
whole body, one that waits has the targets of the `yield` it waits at and the
frames around it, and one that is running or has completed has nothing.
-/

namespace MeteredScript

/-- **A position in something that is iterated.** Lists are walked as they
are at each step, so that appending to a list while it is iterated makes the
iteration longer. Everything else but generators is copied at the start. -/
inductive Cursor where
  | list (id : ListId) (next : Nat)
  | items (rest : List Value)
  | generator (id : GeneratorId)
  deriving Repr

/-- **What is left to do after the code that is being run**, one level of
nesting. A `try` statement leaves a different frame behind for each of its
parts, with only what can still be needed. -/
inductive Frame where
  /-- The statements left of a block. -/
  | suite (rest : Block)
  /-- A `while` loop, to be continued by testing its condition. -/
  | whileLoop (condition : Expr) (body : Block) (orElse : Option Block)
  /-- A `for` loop, to be continued with its next item. -/
  | forLoop (target : Expr) (body : Block) (orElse : Option Block) (cursor : Cursor)
  /-- The body of a `try` statement is being run. -/
  | guarded (handlers : List Handler) (orElse cleanup : Option Block)
  /-- The `else` block of a `try` statement is being run. -/
  | afterBody (cleanup : Option Block)
  /-- The handler of a fault is being run. -/
  | handling (handled : Fault) (cleanup : Option Block)
  /-- A `finally` block is being run, and what is pending goes on after it. -/
  | cleanup (pending : Option Stop)

/-- How a generator body ended. -/
inductive Completion where
  | returned (value : Value)
  | stopped (stop : Stop)
  deriving Repr

/-- **Where a generator is in its life**, and what it remembers there. -/
inductive GeneratorState where
  | notStarted (body : Block)
  /-- Waiting at a `yield`, whose value goes to the targets. -/
  | suspended (targets : List Expr) (frames : List Frame)
  | running
  | completed (completion : Completion)

/-- **A generator object.** -/
structure Generator where
  /-- The scope its body runs in. -/
  scope : ScopeId
  /-- Where it is in its life. -/
  state : GeneratorState

/-- Whether the body has ended. -/
def GeneratorState.isCompleted : GeneratorState → Bool
  | completed _ => true
  | _ => false

/-- What a caller does to a generator that waits: it gives the `yield` a
value, or raises an exception there. -/
inductive Resume where
  | send (value : Value)
  | throw (exception : Exception)
  deriving Repr

end MeteredScript
