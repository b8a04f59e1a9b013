import MeteredScript.Config.Basic
import MeteredScript.Heap.Basic
import MeteredScript.Machine.Scope
import MeteredScript.Machine.Transcript

/-!
# The machine

Everything that running a script can read or change, in one record: the
objects that values point at, the transcript, and three counters that bound a
run. *Gas* counts steps. *Depth* counts the calls and resumed generators that
are inside one another. `handling` lists the faults whose handlers are being
run, innermost first; a bare `raise` raises the first of them again. `aborted`
tells the host that it ends.
-/

namespace MeteredScript

/-- The body of a function: statements, or the expression of a lambda. -/
inductive FunctionBody where
  | block (body : Block)
  | expr (body : Expr)

/-- **A function** that a script defined. -/
structure Function where
  /-- The parameters, with the values of those defaults that there are. The
  defaults were computed when the function was defined. -/
  parameters : List (String × Option Value)
  /-- What a call runs. -/
  body : FunctionBody
  /-- The scope the definition stands in. -/
  closure : ScopeId
  /-- Whether a call makes a generator. -/
  isGenerator : Bool

instance : Inhabited Function := ⟨⟨[], .block [], ⟨0⟩, false⟩⟩

/-- **The state of a running script.** -/
structure Machine where
  /-- The limits of the run. -/
  config : Config
  /-- Contents of the containers. -/
  heap : Heap
  /-- The functions defined so far. -/
  functions : Array Function
  /-- The scopes opened so far, with the generators that run in them. -/
  scopes : ScopeTree
  /-- The next serial number for an object that stands in its value. -/
  nextSerial : Nat
  /-- What was printed. -/
  transcript : Transcript
  /-- The gas used so far. -/
  gas : Nat
  /-- The calls and resumed generators inside one another now. -/
  depth : Nat
  /-- The faults being handled, innermost first. -/
  handling : List Fault
  /-- Whether a guard was asked for that another one excludes. Then the host ends, and
  what the machine does after that is of no interest. -/
  aborted : Bool

namespace Machine

/-- A machine in which nothing has happened. -/
def initial (config : Config) : Machine where
  config
  heap := .empty
  functions := #[]
  scopes := .empty
  nextSerial := 0
  transcript := .empty
  gas := 0
  depth := 0
  handling := []
  aborted := false

instance : Inhabited Machine := ⟨initial .standard⟩

/-- The function that a pointer leads to. -/
def function (m : Machine) (id : FunctionId) : Function := m.functions.getD id.index default

/-- The generator that a pointer leads to. A scope that belongs to no
generator is nothing that could be resumed, like a generator that is running. -/
def generator (m : Machine) (id : GeneratorId) : Generator :=
  ⟨id.scope, (m.scopes.generator? id.scope).getD .running⟩

end Machine

end MeteredScript
