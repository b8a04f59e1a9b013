import MeteredScript.Host.Session
import MeteredScript.Proofs.Reraising.Conversation

/-!
# Catching and raising again is transparent

A block with a handler around it that raises again what it catches does what the block does, for
every block and on every machine: it prints the same, changes the same and ends in the same way
(`caught_and_raised_again`). With `except: raise` nothing at all is different but the gas used.
With `except BaseException as e: raise e` a fault becomes an exception that was raised, which a
host can hardly tell from the fault (`Fault.ComesBack`), and the name is bound.

There are three reservations, and each is needed (`reraised_differently`). A violation of the
protocol of closing is no such violation any more when it is raised again. The report may be
another one if there is no message, or if an exhausted generator hands over a value. And the name
`BaseException` has to mean the class of all exceptions when the handler is looked for.
-/

namespace MeteredScript

variable {α : Type}

/-- **What handlers change that raise again what they catch**, given the outcome of some code and
its outcomes with the one and the other handler around it: nothing but the gas used, and the fault
and the binding of the name. -/
structure Transparent (c : Catch α) (scope : ScopeId) (name : String)
    (direct bare named : Except Stop α × Machine) : Prop where
  bare : ¬ direct.2.Spent → ¬ bare.2.Spent → SameUpToGas direct bare
  named : ¬ direct.2.Spent → ¬ named.2.Spent →
    ((c.find direct.1).isSome → direct.2.NamesBase scope) →
    SameUpToGas ((Passing.named scope name).outcome c direct) named

/-- **Catching and raising again is transparent**: for faults, for blocks that are run in one piece,
and for blocks of generator bodies, which talk to a caller. With a handler around it a block is one
level further in. -/
theorem caught_and_raised_again (bound : Nat) (scope : ScopeId) (body : Block) (name : String)
    (m : Machine) (inside : scope.index < m.scopes.scopes.size) :
    (∀ f : Fault, f.ComesBack) ∧
    Transparent .block scope name
      (((Evaluator.bounded (bound + 2)).execBlock scope body).on m)
      (((Evaluator.bounded (bound + 3)).exec (Handler.bare.around body) scope).on m)
      (((Evaluator.bounded (bound + 3)).exec ((Handler.named name).around body) scope).on m) ∧
    ∀ d : Dialogue, Transparent .talk scope name
      ((Talk.execBlock (Talk.exec scope (bound + 2)) body d).on m)
      ((Talk.exec scope (bound + 3) (Handler.bare.around body) d).on m)
      ((Talk.exec scope (bound + 3) ((Handler.named name).around body) d).on m) := by
  refine ⟨Fault.comesBack, ⟨?_, ?_⟩, fun d => ⟨?_, ?_⟩⟩
  · exact (wraps_block .bare (bound + 2) scope body).bare
  · exact fun direct again names =>
      (wraps_block (.named name) (bound + 2) scope body).named inside names direct again
  · exact (wraps_talk rfl (bound + 2) scope body d).bare
  · exact fun direct again names =>
      (wraps_talk rfl (bound + 2) scope body d).named inside names direct again

/-- A block that uses an unknown name. -/
def unknownName : Block := [StmtForm.synthetic (.expr (.name "unknown"))]

/-- An unknown name comes back as an exception that was raised. -/
theorem unknown_name_raised_again :
    let s := Session.start ⟨100, 10⟩
    let direct := ((Evaluator.bounded 12).execBlock s.globals unknownName).on s.machine
    let named := ((Evaluator.bounded 13).exec ((Handler.named "e").around unknownName)
      s.globals).on s.machine
    ¬ direct.2.Spent ∧ ¬ named.2.Spent ∧ direct.2.NamesBase s.globals ∧
      SameUpToGas ((Passing.named s.globals "e").outcome .block direct) named := by
  intro s direct named
  have inside : s.globals.index < s.machine.scopes.scopes.size := by decide
  have hdirect : ¬ direct.2.Spent := by decide +kernel
  have hnamed : ¬ named.2.Spent := by decide +kernel
  have names : direct.2.NamesBase s.globals := rfl
  exact ⟨hdirect, hnamed, names,
    (caught_and_raised_again 10 s.globals unknownName "e" s.machine inside).2.1.named hdirect hnamed
      fun _ => names⟩

/-! ## What is not the same -/

/-- The class of failure that a host sees. -/
def failure? : Except Stop α → Option ErrorKind
  | .ok _ => none
  | .error s => some s.kind

/-- A generator that waits in a block whose handler does not let it be closed. -/
def unwilling : Block :=
  let yields : Block := [StmtForm.synthetic (.expr (.yield none))]
  [StmtForm.synthetic (.function "unwilling" []
      [StmtForm.synthetic (.attempt yields [⟨none, none, yields⟩] none none)]),
    StmtForm.synthetic (.assign [.name "g"] (.call (.name "unwilling") [])),
    StmtForm.synthetic (.expr (.call (.name "next") [.name "g"]))]

/-- The generator is closed. -/
def closes : Block := [StmtForm.synthetic (.expr (.call (.attribute (.name "g") "close") []))]

/-- `BaseException` is given another meaning before the block fails. -/
def renames : Block :=
  StmtForm.synthetic (.assign [.name ExceptionKind.baseException.name] (.int 1)) :: unknownName

/-- **Where raising again is not transparent**: a violation of the protocol of closing is another
class of failure, a handler that is given by a name is another handler when the name is given
another meaning, and reports differ without a message and with a value that is handed over. -/
theorem reraised_differently :
    (let s := ((Session.start ⟨100, 10⟩).run unwilling).2;
      failure? (s.run closes).1 = some .generatorProtocolViolation ∧
      failure? (s.run [(Handler.named "e").around closes]).1 =
        some .unhandledPropagatedException) ∧
    (let s := Session.start ⟨100, 10⟩;
      failure? (s.run renames).1 = some .unresolvedName ∧
      failure? (s.run [(Handler.named "e").around renames]).1 = some .unsupportedOperation) ∧
    (Heap.empty.describeFault? (.typeFault (.other "")) = some "TypeError: " ∧
      Heap.empty.describeFault? (Fault.typeFault (.other "")).reraised = some "TypeError") ∧
    Heap.empty.describeFault? (.exhausted (.int 5)) = some "StopIteration" ∧
      Heap.empty.describeFault? (Fault.exhausted (.int 5)).reraised = some "StopIteration: 5" := by
  decide +kernel

end MeteredScript
