import MeteredScript.Config.Reader
import MeteredScript.Host.Inspection
import MeteredScript.Host.Probe
import MeteredScript.Syntax.Names
import MeteredScript.Proofs.Coupling.Basic
import MeteredScript.Proofs.Coupling.Primitive
import MeteredScript.Proofs.Coupling.Iteration
import MeteredScript.Proofs.Coupling.Builtin
import MeteredScript.Proofs.Coupling.Method
import MeteredScript.Proofs.Coupling.Assignment
import MeteredScript.Proofs.Coupling.Expression
import MeteredScript.Proofs.Coupling.Statement
import MeteredScript.Proofs.Coupling.Drive
import MeteredScript.Proofs.Coupling.Bounded
import MeteredScript.Proofs.Coupling.Invariant
import MeteredScript.Proofs.Coupling.Gas
import MeteredScript.Proofs.Coupling.Room
import MeteredScript.Proofs.Task
import MeteredScript.Proofs.Metering.Limit
import MeteredScript.Proofs.Metering.Final
import MeteredScript.Proofs.Balance.Handlers
import MeteredScript.Proofs.Balance.Exact
import MeteredScript.Proofs.Lifecycle.Transition
import MeteredScript.Proofs.Lifecycle.Tracked
import MeteredScript.Proofs.Lifecycle.Run
import MeteredScript.Proofs.Dialogue.Talk
import MeteredScript.Proofs.Dialogue.Silent
import MeteredScript.Proofs.Dialogue.Coupled
import MeteredScript.Proofs.Dialogue.Play
import MeteredScript.Proofs.Dialogue.Frames
import MeteredScript.Proofs.Dialogue.Resumes
import MeteredScript.Proofs.Dialogue.Turns
import MeteredScript.Proofs.Dialogue.Agreement
import MeteredScript.Proofs.Representation.Table
import MeteredScript.Proofs.Equality.Inside
import MeteredScript.Proofs.Equality.Layer
import MeteredScript.Proofs.Equality.Coherence
import MeteredScript.Proofs.Regime.Held
import MeteredScript.Proofs.Representation.Heap
import MeteredScript.Proofs.Regime.Computed
import MeteredScript.Proofs.Regime.Basic
import MeteredScript.Proofs.Regime.Primitive
import MeteredScript.Proofs.Regime.Iteration
import MeteredScript.Proofs.Regime.Builtin
import MeteredScript.Proofs.Regime.Method
import MeteredScript.Proofs.Regime.Assignment
import MeteredScript.Proofs.Regime.Expression
import MeteredScript.Proofs.Regime.Statement
import MeteredScript.Proofs.Regime.Targets
import MeteredScript.Proofs.Regime.Drive
import MeteredScript.Proofs.Regime.Bounded
import MeteredScript.Proofs.Representation.Invariant
import MeteredScript.Proofs.Scoping.Executing
import MeteredScript.Proofs.Scoping.Session
import MeteredScript.Proofs.Scoping.Call
import MeteredScript.Proofs.Exhaustion.Signal
import MeteredScript.Proofs.Exhaustion.Consumer
import MeteredScript.Proofs.Lifecycle.Growth
import MeteredScript.Proofs.Comprehension.Twins
import MeteredScript.Proofs.Comprehension.Beside
import MeteredScript.Proofs.Comprehension.Start
import MeteredScript.Proofs.Comprehension.Draws
import MeteredScript.Proofs.Comprehension.Clauses
import MeteredScript.Proofs.Comprehension.Body
import MeteredScript.Proofs.Comprehension.Drain
import MeteredScript.Proofs.Comprehension.Outcome
import MeteredScript.Proofs.Comprehension.Agreement
import MeteredScript.Proofs.Privacy.ClassBody
import MeteredScript.Proofs.Augmented.Contents
import MeteredScript.Proofs.Augmented.Commit
import MeteredScript.Proofs.Termination.Session
import MeteredScript.Proofs.Metering.Size
import MeteredScript.Proofs.Arithmetic.Division
import MeteredScript.Proofs.Order.Comparison
import MeteredScript.Proofs.Order.Sorted
import MeteredScript.Proofs.Iteration.Protocol
import MeteredScript.Proofs.Printing.Shown
import MeteredScript.Proofs.Printing.Ending
import MeteredScript.Proofs.Printing.Quoted
import MeteredScript.Proofs.Printing.Datum
import MeteredScript.Proofs.Printing.Built
import MeteredScript.Proofs.Printing.Unambiguous
import MeteredScript.Proofs.Closing.Contract
import MeteredScript.Proofs.Indexing.Position
import MeteredScript.Proofs.SetAlgebra.Law
import MeteredScript.Proofs.Chain.ShortCircuit
import MeteredScript.Proofs.Selection.FirstMatch
import MeteredScript.Proofs.Metering.Repetition
import MeteredScript.Proofs.Mutation.Failure
import MeteredScript.Proofs.Mutation.ReadBack
import MeteredScript.Proofs.Guards.Discipline
import MeteredScript.Proofs.Probing.Verdict
import MeteredScript.Proofs.Arithmetic.Progression
import MeteredScript.Proofs.Unpacking.Rebuilding
import MeteredScript.Proofs.Reraising.Handler
import MeteredScript.Proofs.Reraising.Statement
import MeteredScript.Proofs.Reraising.Conversation
import MeteredScript.Proofs.Reraising.Transparent
import MeteredScript.Proofs.Scoping.Resolution
import MeteredScript.Proofs.Lifecycle.Permanence
import MeteredScript.Proofs.Binding.Arguments
import MeteredScript.Proofs.Binding.Definition
import MeteredScript.Proofs.Signals.Confined
