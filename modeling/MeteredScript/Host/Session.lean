import MeteredScript.Evaluation.Bounded

/-!
# Sessions

A host talks to a script through a session: a machine together with the scope
of its module. What the module defines stays between two operations, so a
host can load definitions once and then call them, or drive the generators
that they make. An operation that fails leaves the session as it is at that
point, and the session goes on.

`evaluate` is the form for a single use: it runs a script in a scope that is
there already, under the standard limits and with counters of its own.
-/

namespace MeteredScript

/-- **Run the statements of a module.** The value is that of the last
statement if it is an expression, and `None` otherwise. -/
def execModule (ev : Evaluator) (scope : ScopeId) (last : Value) : Block → Eval Value
  | [] => return last
  | ⟨_, .expr e⟩ :: rest => do execModule ev scope (← ev.eval e scope) rest
  | s :: rest => do
    ev.exec s scope
    execModule ev scope .none rest

/-- **A session.** -/
structure Session where
  /-- The machine that scripts run on. -/
  machine : Machine
  /-- The scope of the module. -/
  globals : ScopeId

namespace Session

variable {α : Type}

/-- A session under some limits, with nothing defined. -/
def start (config : Config) : Session :=
  let m := Machine.initial config
  let (globals, scopes) := m.scopes.addScope .module none none
  ⟨{ m with scopes }, globals⟩

/-- Run an evaluation on the machine of a session. -/
def perform (s : Session) (x : Eval α) : Except Stop α × Session :=
  let ⟨machine, globals⟩ := s
  let (result, machine) := x.on machine
  (result, ⟨machine, globals⟩)

/-- **Run a script** at module level. -/
def run (s : Session) (body : Block) : Except Stop Value × Session :=
  s.perform (.boundedly fun ev => execModule ev s.globals .none body)

/-- **Call what the module binds a name to.** -/
def call (s : Session) (name : String) (arguments : List Value) : Except Stop Value × Session :=
  match s.machine.scopes.findLocal? s.globals name with
  | none => (.error (.fault (.unresolvedName name)), s)
  | some callee => s.perform (.boundedly fun ev => callValue ev callee arguments)

/-! ## Generators -/

/-- Run a generator to its next `yield`, at which it waits with a value for
the `yield` before. -/
def send (s : Session) (id : GeneratorId) (value : Value) : Except Stop Value × Session :=
  s.perform (.boundedly fun ev => ev.resume id (.send value))

/-- Run a generator to its next `yield`. -/
def advance (s : Session) (id : GeneratorId) : Except Stop Value × Session :=
  s.send id .none

/-- Raise an exception where a generator waits. -/
def throw (s : Session) (id : GeneratorId) (e : Exception) : Except Stop Value × Session :=
  s.perform (.boundedly fun ev => ev.resume id (.throw e))

/-- Close a generator. -/
def close (s : Session) (id : GeneratorId) : Except Stop Unit × Session :=
  s.perform (.boundedly fun ev => closeGenerator ev id)

/-! ## What a host can see and set -/

/-- What the module binds a name to. -/
def global? (s : Session) (name : String) : Option Value :=
  s.machine.scopes.findLocal? s.globals name

/-- All that the module binds, in the order of the names. -/
def bindings (s : Session) : List (String × Value) :=
  (s.machine.scopes.bindings s.globals).entries

/-- Bind a name in the module. -/
def define (s : Session) (name : String) (value : Value) : Session :=
  { s with machine.scopes := s.machine.scopes.define s.globals name value }

/-- What was printed. -/
def output (s : Session) : Transcript := s.machine.transcript

/-- Forget what was printed. -/
def clearOutput (s : Session) : Session := { s with machine.transcript := .empty }

/-- The gas used so far. -/
def gasUsed (s : Session) : Nat := s.machine.gas

end Session

/-- A machine with the objects of another one, but with limits, counters and a
transcript of its own. -/
def Machine.fresh (m : Machine) (config : Config) : Machine :=
  { m with config, gas := 0, depth := 0, handling := [], transcript := .empty }

/-- **Run a script once** in the scope of a session, under the standard
limits. The transcript of the result has what this script printed. -/
def evaluate (s : Session) (body : Block) : Except Stop Value × Session :=
  ({ s with machine := s.machine.fresh .standard } : Session).run body

end MeteredScript
