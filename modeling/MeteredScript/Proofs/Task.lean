import MeteredScript.Proofs.Coupling.Bounded

/-!
# All that evaluation can be asked to do

`Task` lists the operations of an evaluator and those that are built on them,
so that a statement about all of evaluation can be made once. A coupling of
evaluators for which no name is hidden couples what they make of a task.

A session performs tasks one after the other. `Session.Step` is one operation
of a host, and `Session.Reachable` is every session that operations of a host
lead to. An operation without end leads nowhere.
-/

namespace MeteredScript

/-- **An operation of evaluation.** -/
inductive Task where
  /-- Evaluate an expression. -/
  | eval (e : Expr) (scope : ScopeId)
  /-- Run a statement. -/
  | exec (s : Stmt) (scope : ScopeId)
  /-- Run a block. -/
  | block (body : Block) (scope : ScopeId)
  /-- Run a script at module level. -/
  | script (body : Block) (scope : ScopeId)
  /-- Call a value. -/
  | call (callee : Value) (arguments : List Value)
  /-- Call a method of a value. -/
  | method (receiver : Value) (name : String) (arguments : List Value)
  /-- Assign a value to a target. -/
  | assign (target : Expr) (value : Value) (scope : ScopeId)
  /-- Take all items of a value. -/
  | drain (v : Value)
  /-- Resume a generator. -/
  | resume (id : GeneratorId) (resume : Resume)
  /-- Close a generator. -/
  | close (id : GeneratorId)

/-- **What an evaluator does when it is asked to.** Operations that have no value
of their own give `None`, and the items of a value are given as a tuple. -/
def Task.run (ev : Evaluator) : Task → Eval Value
  | .eval e scope => ev.eval e scope
  | .exec s scope => (fun _ => .none) <$> ev.exec s scope
  | .block body scope => (fun _ => .none) <$> ev.execBlock scope body
  | .script body scope => execModule ev scope .none body
  | .call callee arguments => callValue ev callee arguments
  | .method receiver name arguments => callMethod ev receiver name arguments
  | .assign target value scope => (fun _ => .none) <$> assignTarget ev scope target value
  | .drain v => (fun items => .tuple items.toList) <$> ev.collect v
  | .resume id r => ev.resume id r
  | .close id => (fun _ => .none) <$> closeGenerator ev id

/-- **Two evaluators that do the same make the same of a task.** -/
theorem Coupling.Couples.task {c : Coupling} {ev ev' : Evaluator} (h : c.Couples ev ev')
    (hn : ∀ names, c.Shows names) (task : Task) : c.Sim (task.run ev) (task.run ev') := by
  cases task with
  | eval e scope => exact h.eval (hn _)
  | exec s scope => exact Sim.map _ (h.exec (hn _))
  | block block scope => exact Sim.map _ (h.execBlock (hn _))
  | script body scope => exact h.execModule (hn _) _
  | call callee arguments => exact h.callValue callee arguments
  | method receiver name arguments => exact h.callMethod receiver name arguments
  | assign target value scope => exact Sim.map _ (h.assignTarget target value (hn _))
  | drain v => exact Sim.map _ (h.collect v)
  | resume id resume => exact h.resume id resume
  | close id => exact Sim.map _ (h.close id)

/-! ## Sessions -/

@[simp] theorem Eval.on_boundedly {α : Type} (x : Evaluator → Eval α) (m : Machine) :
    (Eval.boundedly x).on m = (x (.bounded m.bound)).on m :=
  Eval.on_bind_ok (Eval.on_get m) _

namespace Session

variable {s : Session}

/-- Performing an evaluation runs it on the machine of the session. -/
theorem perform_eq {α : Type} (s : Session) (x : Eval α) :
    s.perform x = ((x.on s.machine).1, ⟨(x.on s.machine).2, s.globals⟩) := rfl

/-- To call a name that is bound is to call what it is bound to. -/
theorem call_of_some {name : String} {callee : Value} (found : s.global? name = some callee)
    (arguments : List Value) :
    s.call name arguments = s.perform (.boundedly fun ev => callValue ev callee arguments) := by
  rw [call, show s.machine.scopes.findLocal? s.globals name = some callee from found]

/-- To call a name that is not bound does nothing. -/
theorem call_of_none {name : String} (none : s.global? name = none) (arguments : List Value) :
    s.call name arguments = (.error (.fault (.unresolvedName name)), s) := by
  rw [call, show s.machine.scopes.findLocal? s.globals name = .none from none]

/-- **One operation of a host** that comes to an end, well or not. -/
inductive Step (s : Session) : Session → Prop
  | run (body : Block) : (s.run body).1 ≠ .error .endless → Step s (s.run body).2
  | call (name : String) (arguments : List Value) :
    (s.call name arguments).1 ≠ .error .endless → Step s (s.call name arguments).2
  | send (id : GeneratorId) (value : Value) :
    (s.send id value).1 ≠ .error .endless → Step s (s.send id value).2
  | throw (id : GeneratorId) (e : Exception) :
    (s.throw id e).1 ≠ .error .endless → Step s (s.throw id e).2
  | close (id : GeneratorId) : (s.close id).1 ≠ .error .endless → Step s (s.close id).2
  | define (name : String) (value : Value) : Step s (s.define name value)
  | clearOutput : Step s s.clearOutput

/-- **The sessions that a host can get to** from a session. Besides the
operations on the session there is `evaluate`, which goes on in its scope with
limits and counters of its own. -/
inductive Leads (s : Session) : Session → Prop
  | refl : Leads s s
  | step {s' s'' : Session} : Leads s s' → s'.Step s'' → Leads s s''
  | evaluate {s' : Session} (body : Block) : Leads s s' →
    (evaluate s' body).1 ≠ .error .endless → Leads s (evaluate s' body).2

/-- A session that a host can get to from a new one. -/
def Reachable (s : Session) : Prop := ∃ config, (start config).Leads s

end Session

end MeteredScript
