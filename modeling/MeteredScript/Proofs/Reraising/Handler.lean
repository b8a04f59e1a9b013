import MeteredScript.Proofs.Comprehension.Start
import MeteredScript.Proofs.Comprehension.Drain
import MeteredScript.Proofs.Mutation.ReadBack

/-!
# Handlers that raise again what they catch

A fault keeps its cause, and an exception object does not. A handler that raises the object it
has caught turns every fault into `Fault.raised`, from whatever it was. `Fault.ComesBack` says
what a host can tell afterwards. The class of the exception is what it was, and with it the
handlers that catch it. The class of failure goes by the class of the exception, which tells an
unknown name, a type error and an exhausted generator, but not why there was a `RuntimeError`: a
generator that did not keep to the protocol of closing comes back as any other exception. The
report is the same where there is a message. What a report says of an exhausted generator that
hands over a value is left open here.

`except: raise` raises the very fault that it has caught (`on_handleFault_bare`). With
`except BaseException as e: raise e` the fault goes through an exception object, which is bound
to the name on the way, and comes back as `Fault.reraised` (`on_handleFault_named`). For that
`BaseException` has to mean the class where the fault is caught. A script may use the name for
something else.

The machines on which handlers are run here have so much gas that it does not run out.
-/

namespace MeteredScript

open Coupling

/-! ## What comes back -/

theorem argumentCountMessage_ne_empty (function : String) (least most given : Nat) :
    TypeFault.argumentCountMessage function least most given ≠ "" := by
  unfold TypeFault.argumentCountMessage
  split
  · simp
  · split <;> simp

/-- The reasons that the language gives are never empty. -/
theorem TypeFault.message_ne_empty {why : TypeFault} (worded : why ≠ .other "") :
    why.message ≠ "" := by
  unfold message
  split
  case h_10 => exact argumentCountMessage_ne_empty _ _ _ _
  case h_30 => exact fun empty => worded (congrArg other empty)
  all_goals simp [quoted]

namespace Fault

/-- **A fault that is reported in words**: its message is not empty, and it does not hand over a
value. -/
def Worded : Fault → Prop
  | .typeFault why => why ≠ .other ""
  | .protocolViolation text => text ≠ ""
  | .exhausted returned => returned = .none
  | .unresolvedName _ | .raised _ => True

/-- A fault as a handler raises it that has caught it. -/
def reraised (f : Fault) : Fault := .raised f.toException

/-- **What a host sees of a fault that was caught and raised again.** -/
structure ComesBack (f : Fault) : Prop where
  /-- The same handlers catch it. -/
  caught (kind : ExceptionKind) : f.reraised.isInstanceOf kind = f.isInstanceOf kind
  /-- It is of the same class of failure, -/
  kind : (∀ text, f ≠ .protocolViolation text) → f.reraised.kind = f.kind
  /-- unless it was a violation of the protocol of closing. -/
  violation (text : String) : f = .protocolViolation text →
    f.reraised.kind = .unhandledPropagatedException
  /-- It is reported in the same words. -/
  text (h : Heap) : f.Worded → h.describeFault? f.reraised = h.describeFault? f

/-- The report of an exception with a message. -/
theorem describe_saying (h : Heap) (kind : ExceptionKind) {message : String} (some : message ≠ "") :
    h.describeFault? (.raised (.saying kind message)) =
      Option.some (kind.name ++ ": " ++ message) := by
  simp [Heap.describeFault?, Heap.describeException?, Exception.saying, Heap.messageText?, some]

theorem comesBack (f : Fault) : f.ComesBack where
  caught kind := by cases f <;> rfl
  kind other := by
    cases f with
    | protocolViolation text => exact absurd rfl (other text)
    | _ => rfl
  violation text same := by
    subst same
    rfl
  text h worded := by
    cases f with
    | unresolvedName name =>
      refine (describe_saying h .nameError (by simp)).trans ?_
      simp [Heap.describeFault?, ExceptionKind.name, ← String.append_assoc]
    | typeFault why => exact describe_saying h .typeError (why.message_ne_empty worded)
    | exhausted returned =>
      obtain rfl : returned = .none := worded
      rfl
    | protocolViolation text => exact describe_saying h .runtimeError worded
    | raised exception => rfl

end Fault

/-! ## The handlers -/

/-- **A handler that raises again what it catches**: any exception. -/
def Handler.bare : Handler := ⟨none, none, [StmtForm.synthetic (.raise none)]⟩

/-- **A handler that raises again what it has bound to a name**: any exception, given by the
class of all of them. -/
def Handler.named (name : String) : Handler :=
  ⟨some (.name ExceptionKind.baseException.name), some name,
    [StmtForm.synthetic (.raise (some (.name name)))]⟩

/-- The class of all exceptions has its name in a scope. -/
def Machine.NamesBase (m : Machine) (scope : ScopeId) : Prop :=
  (Eval.lookup scope ExceptionKind.baseException.name).on m =
    (.ok (.exceptionClass .baseException), m)

/-- A machine on which the exception that a handler sees of a fault was bound to a name. -/
def Machine.caught (m : Machine) (scope : ScopeId) (name : String) (f : Fault) : Machine :=
  { m with
    nextSerial := m.nextSerial + 1
    scopes := m.scopes.define scope name (f.toException.toValue ⟨m.nextSerial⟩) }

/-- The object of an exception stands for the exception. -/
theorem exceptionOf_toValue (e : Exception) (serial : Serial) :
    exceptionOf (e.toValue serial) = .ok e := rfl

variable {m : Machine} {scope : ScopeId} {bound : Nat}

/-- A `raise` costs a unit of gas before it does anything. -/
theorem on_execBlock_raise (hu : m.Unmetered) (exception : Option Expr) :
    ((Evaluator.bounded (bound + 1)).execBlock scope
        [StmtForm.synthetic (.raise exception)]).on m =
      (raisedFault (.bounded bound) scope exception >>= fun f => Eval.fail (α := Unit) f).on
        { m with gas := min (m.gas + 1) Eval.gasCeiling } := by
  have hrun : (Evaluator.bounded (bound + 1)).execBlock scope
      [StmtForm.synthetic (.raise exception)] =
        Eval.tick >>= fun _ => raisedFault (.bounded bound) scope exception >>= Eval.fail := by
    show (Eval.tick >>= fun _ => raisedFault (.bounded bound) scope exception >>= Eval.fail) >>=
      (fun _ => pure ()) = _
    exact bind_pure_unit
  rw [hrun, Eval.on_bind_ok hu.on_tick]

theorem on_handleFault_bare (hu : m.Unmetered) (f : Fault) :
    (handleFault (.bounded (bound + 1)) scope [.bare] f).on m =
      (.error (.fault f), { m with gas := min (m.gas + 1) Eval.gasCeiling }) := by
  show (Eval.whileHandling f ((Evaluator.bounded (bound + 1)).execBlock scope
    [StmtForm.synthetic (.raise none)])).on m = _
  have hu' : Machine.Unmetered { m with handling := f :: m.handling } := hu
  rw [Eval.on_whileHandling, on_execBlock_raise hu']
  rfl

/-- What names mean depends on the scopes alone. -/
theorem Machine.NamesBase.congr {n : Machine} (names : m.NamesBase scope)
    (same : n.scopes = m.scopes) : n.NamesBase scope := by
  have found : n.scopes.find? scope ExceptionKind.baseException.name =
      m.scopes.find? scope ExceptionKind.baseException.name := by rw [same]
  obtain ⟨r, before, after⟩ := Eval.on_lookup_congr found
  obtain ⟨rfl, -⟩ := Prod.mk.inj (before.symm.trans names)
  exact after

/-- The handler for the class of all exceptions catches every fault. -/
theorem on_findHandler_named (hu : m.Unmetered) (names : m.NamesBase scope) (name : String)
    (kind : ExceptionKind) :
    (findHandler (.bounded (bound + 1)) scope kind [.named name]).on m =
      (.ok (some (.named name)), { m with gas := min (m.gas + 1) Eval.gasCeiling }) := by
  have hclass : ((Evaluator.bounded (bound + 1)).eval (.name ExceptionKind.baseException.name)
      scope).on m = (.ok (.exceptionClass .baseException), _) :=
    (on_eval_lookup hu scope _).trans (names.congr rfl)
  show (((Evaluator.bounded (bound + 1)).eval (.name ExceptionKind.baseException.name) scope) >>=
    _).on m = _
  rw [Eval.on_bind_ok hclass, catches, ExceptionKind.isSubclassOf_baseException]
  rfl

/-- **An exception that is bound to a name is raised by the name.** -/
theorem on_whileHandling_named (bound : Nat) (hu : m.Unmetered) {name : String} {e : Exception}
    {serial : Serial} (found : m.scopes.find? scope name = some (e.toValue serial)) (f : Fault) :
    ∃ gas, (Eval.whileHandling f ((Evaluator.bounded (bound + 2)).execBlock scope
        [StmtForm.synthetic (.raise (some (.name name)))])).on m =
      (.error (.fault (.raised e)), { m with gas }) := by
  have hu' : Machine.Unmetered { m with handling := f :: m.handling } := hu
  have hraised (gas : Nat) : (raisedFault (.bounded (bound + 1)) scope (some (.name name))).on
      { m with handling := f :: m.handling, gas } =
        (.ok (.raised e), { m with
          handling := f :: m.handling
          gas := min (gas + 1) Eval.gasCeiling }) := by
    rw [raisedFault, Eval.on_bind_ok (on_eval_name (m := { m with
      handling := f :: m.handling, gas }) hu found), exceptionOf_toValue]
    rfl
  refine ⟨min (min (m.gas + 1) Eval.gasCeiling + 1) Eval.gasCeiling, ?_⟩
  rw [Eval.on_whileHandling, on_execBlock_raise hu', Eval.on_bind_ok (hraised _)]
  rfl

theorem on_handleFault_named (hu : m.Unmetered) (names : m.NamesBase scope)
    (inside : scope.index < m.scopes.scopes.size) (name : String) (f : Fault) :
    ∃ gas, (handleFault (.bounded (bound + 2)) scope [.named name] f).on m =
      (.error (.fault f.reraised), { m.caught scope name f with gas }) := by
  have hu' : Machine.Unmetered { m.caught scope name f with
    gas := min (m.gas + 1) Eval.gasCeiling } := hu
  have found : (m.caught scope name f).scopes.find? scope name =
      some (f.toException.toValue ⟨m.nextSerial⟩) := ScopeTree.find?_define_self inside name _
  obtain ⟨gas, hrun⟩ := on_whileHandling_named bound hu' found f
  refine ⟨gas, ?_⟩
  rw [handleFault, Eval.on_bind_ok (on_findHandler_named hu names name _)]
  exact hrun

end MeteredScript
