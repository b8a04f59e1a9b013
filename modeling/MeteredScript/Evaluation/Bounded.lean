import MeteredScript.Evaluation.Drive

/-!
# Closing the circle

An evaluator that may recurse `bound + 1` levels deep is made out of one that
may recurse `bound` levels deep. At bound zero nothing is evaluated at all:
everything counts as endless.

A run is given a bound that it cannot reach. Every level of recursion but two
costs gas, and so does every round of a loop, and there is only so much gas.
`Machine.bound` is computed from the gas that is left.
-/

namespace MeteredScript

namespace Evaluator

/-- The evaluator to which everything is endless. -/
def idle : Evaluator where
  eval _ _ := throw .endless
  exec _ _ := throw .endless
  resume _ _ := throw .endless
  rounds := 0

/-- The evaluator that may recurse one level deeper. -/
def deeper (ev : Evaluator) : Evaluator where
  eval e scope := evalExpr ev e scope
  exec s scope := execStmt ev s scope
  resume id r := resumeGenerator ev id r
  rounds := ev.rounds + 1

/-- **An evaluator that recurses at most so many levels deep.** -/
def bounded : (bound : Nat) → Evaluator
  | 0 => idle
  | bound + 1 => (bounded bound).deeper

end Evaluator

/-- More levels of recursion than a run on this machine can need. -/
def Machine.bound (m : Machine) : Nat := 4 * (m.config.gasLimit - m.gas) + 16

/-- **Run an evaluation** with an evaluator that is enough for it. -/
def Eval.boundedly {α : Type} (x : Evaluator → Eval α) : Eval α := do
  x (.bounded (← get).bound)

end MeteredScript
