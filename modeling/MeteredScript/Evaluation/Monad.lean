import MeteredScript.Fault.Raised
import MeteredScript.Heap.Guard
import MeteredScript.Machine.Basic
import MeteredScript.Operation.Binary

/-!
# Running on the machine

An evaluation reads and changes a machine and ends with a value or with the
reason why it stopped (`Eval`). What it did to the machine before it stopped
stays done.

The primitives of this module are all there is that touches the machine.
`charge` uses gas, `inFrame` bounds the depth of calls, and `whileHandling`
and `withHandled` list faults as being handled. All but the first undo their
change on every way out. The one exception is an evaluation without end,
after which no machine is of interest.
-/

namespace MeteredScript

/-- **An evaluation** that gives an `α`. -/
abbrev Eval (α : Type) : Type := EStateM Stop Machine α

namespace Eval

variable {α β : Type}

/-! ## Answers -/

/-- Stop with a fault. -/
def fail (f : Fault) : Eval α := throw (.fault f)

/-- Stop with a fault unless a condition holds. -/
def require (p : Prop) [Decidable p] (f : Fault) : Eval Unit := if p then pure () else fail f

/-- Go on with an answer, or stop. -/
def ofStop : Except Stop α → Eval α
  | .ok a => pure a
  | .error s => throw s

/-- Go on with an answer, or stop with a fault. -/
def ofFault : Except Fault α → Eval α
  | .ok a => pure a
  | .error f => fail f

/-- Go on with an answer, or stop with a type error. -/
def ofTypeFault : Except TypeFault α → Eval α
  | .ok a => pure a
  | .error why => fail (.typeFault why)

/-- Go on with an answer, if there is one in finite time. -/
def ofAnswer : Option α → Eval α
  | some a => pure a
  | none => throw .endless

/-- Run an evaluation and give back how it ended. One that does not end gives
back nothing. -/
def attempt (x : Eval α) : Eval (Except Stop α) := fun m =>
  match x m with
  | .ok a m => .ok (.ok a) m
  | .error .endless m => .error .endless m
  | .error s m => .ok (.error s) m

/-- Run an evaluation on a machine. -/
def on (x : Eval α) (m : Machine) : Except Stop α × Machine :=
  match x m with
  | .ok a m => (.ok a, m)
  | .error s m => (.error s, m)

@[simp] theorem on_pure (a : α) (m : Machine) : (pure a : Eval α).on m = (.ok a, m) := rfl

@[simp] theorem on_throw (s : Stop) (m : Machine) : (throw s : Eval α).on m = (.error s, m) := rfl

@[simp] theorem on_fail (f : Fault) (m : Machine) :
    (fail f : Eval α).on m = (.error (.fault f), m) := rfl

/-- What runs second runs on the machine that the first leaves behind. -/
theorem on_bind (x : Eval α) (f : α → Eval β) (m : Machine) :
    (x >>= f).on m =
      match x.on m with
      | (.ok a, m) => (f a).on m
      | (.error s, m) => (.error s, m) := by
  simp only [on, bind, EStateM.bind]
  cases x m <;> rfl

theorem on_bind_ok {x : Eval α} {m m' : Machine} {a : α} (h : x.on m = (.ok a, m'))
    (f : α → Eval β) : (x >>= f).on m = (f a).on m' := by
  rw [on_bind, h]

theorem on_bind_error {x : Eval α} {m m' : Machine} {s : Stop} (h : x.on m = (.error s, m'))
    (f : α → Eval β) : (x >>= f).on m = (.error s, m') := by
  rw [on_bind, h]

/-- What comes to a result went through one first. -/
theorem on_bind_eq_ok_iff {x : Eval α} {f : α → Eval β} {m n : Machine} {b : β} :
    (x >>= f).on m = (.ok b, n) ↔ ∃ a k, x.on m = (.ok a, k) ∧ (f a).on k = (.ok b, n) := by
  rw [on_bind]
  rcases x.on m with ⟨_ | a, k⟩ <;> simp [and_assoc]

theorem on_map (f : α → β) (x : Eval α) (m : Machine) :
    (f <$> x).on m = ((x.on m).1.map f, (x.on m).2) := by
  simp only [on, Functor.map, EStateM.map]
  cases x m <;> rfl

/-- What an outcome becomes for someone who looks at it: the result is wrapped
up and the machine tidied, unless there is no end. -/
def leaving (wrap : Except Stop α → Except Stop β) (tidy : Machine → Machine) :
    Except Stop α × Machine → Except Stop β × Machine
  | (.error .endless, m) => (.error .endless, m)
  | (r, m) => (wrap r, tidy m)

@[simp] theorem leaving_endless (wrap : Except Stop α → Except Stop β)
    (tidy : Machine → Machine) (m : Machine) :
    leaving wrap tidy (.error .endless, m) = (.error .endless, m) := rfl

theorem leaving_of_ne {r : Except Stop α} (hr : r ≠ .error .endless)
    (wrap : Except Stop α → Except Stop β) (tidy : Machine → Machine) (m : Machine) :
    leaving wrap tidy (r, m) = (wrap r, tidy m) := by
  match r, hr with
  | .ok _, _ | .error (.fault _), _ | .error (.returns _), _ | .error .breaks, _
  | .error .continues, _ | .error .gasExhausted, _ => rfl

theorem on_attempt (x : Eval α) (m : Machine) :
    (attempt x).on m = leaving .ok id (x.on m) := by
  simp only [on, attempt]
  cases h : x m with
  | ok => rfl
  | error s => cases s <;> rfl

/-- What is done with a result that was looked at. -/
theorem on_attempt_bind (x : Eval α) {f : Except Stop α → Eval β} {m : Machine}
    {wrap : Except Stop α → Except Stop β} {tidy : Machine → Machine}
    (hf : ∀ r n, (f r).on n = (wrap r, tidy n)) :
    (attempt x >>= f).on m = leaving wrap tidy (x.on m) := by
  rw [on_bind, on_attempt]
  obtain ⟨r, n⟩ := x.on m
  by_cases hr : r = .error .endless
  · subst hr
    rfl
  · rw [leaving_of_ne hr, leaving_of_ne hr]
    exact hf r n

theorem on_attempt_of_ne {x : Eval α} {m m' : Machine} {r : Except Stop α}
    (h : x.on m = (r, m')) (hr : r ≠ .error .endless) : (attempt x).on m = (.ok r, m') := by
  rw [on_attempt, h]
  exact leaving_of_ne hr _ _ _

theorem on_attempt_of_endless {x : Eval α} {m m' : Machine}
    (h : x.on m = (.error .endless, m')) : (attempt x).on m = (.error .endless, m') := by
  rw [on_attempt, h]
  rfl

@[simp] theorem on_get (m : Machine) : (get : Eval Machine).on m = (.ok m, m) := rfl

@[simp] theorem on_modify (f : Machine → Machine) (m : Machine) :
    (modify f : Eval Unit).on m = (.ok (), f m) := rfl

@[simp] theorem on_ofStop (r : Except Stop α) (m : Machine) : (ofStop r).on m = (r, m) := by
  cases r <;> rfl

@[simp] theorem on_ofFault_ok (m : Machine) (a : α) :
    (ofFault (.ok a)).on m = (.ok a, m) := rfl

@[simp] theorem on_ofFault_error (m : Machine) (f : Fault) :
    (ofFault (.error f) : Eval α).on m = (.error (.fault f), m) := rfl

/-! ## Reading -/

/-- The contents of all containers. -/
def heap : Eval Heap := do return (← get).heap

/-- The function that a pointer leads to. -/
def function (id : FunctionId) : Eval Function := do return (← get).function id

/-- The value that a scope itself binds a name to. -/
def own? (scope : ScopeId) (name : String) : Eval (Option Value) := do
  return (← get).scopes.findLocal? scope name

/-- The value that a scope, or one around it, binds a name to. -/
def find? (scope : ScopeId) (name : String) : Eval (Option Value) := do
  return (← get).scopes.find? scope name

/-- The fault whose handler is being run, of several the innermost. -/
def handled? : Eval (Option Fault) := do return (← get).handling.head?

/-! ## Counters -/

/-- The greatest count of gas. The count stays there. -/
def gasCeiling : Nat := UInt64.size - 1

/-- **Use gas**, and stop if the limit is exceeded. The gas is counted in
either case. -/
def charge (amount : Nat) : Eval Unit := do
  modify fun m => { m with gas := min (m.gas + amount) gasCeiling }
  let m ← get
  if m.config.gasLimit < m.gas then throw .gasExhausted

/-- Use one unit of gas: what each step of an evaluation costs. -/
def tick : Eval Unit := charge 1

/-- **Run an evaluation one call deeper**, unless that is too deep. -/
def inFrame (x : Eval α) : Eval (Except Stop α) := do
  let m ← get
  require (m.depth < m.config.maxCallDepth) .recursionLimit
  modify fun m => { m with depth := m.depth + 1 }
  let result ← attempt x
  modify fun m => { m with depth := m.depth - 1 }
  return result

/-- List a fault as being handled. -/
def pushHandling (f : Fault) : Eval Unit := modify fun m => { m with handling := f :: m.handling }

/-- Take the innermost fault off the list of those being handled. -/
def popHandling : Eval Unit := modify fun m => { m with handling := m.handling.tail }

/-- **Run an evaluation as the handler of a fault.** -/
def whileHandling (f : Fault) (x : Eval α) : Eval α := do
  pushHandling f
  let result ← attempt x
  popHandling
  ofStop result

/-- **Run a body whose handlers are active again**: the faults that its frames
handle are listed while it runs, and the list is cut back to what it was
before. -/
def withHandled (faults : List Fault) (x : Eval α) : Eval (Except Stop α) := do
  let base := (← get).handling.length
  modify fun m => { m with handling := faults ++ m.handling }
  let result ← attempt x
  modify fun m => { m with handling := m.handling.drop (m.handling.length - base) }
  return result

theorem on_charge (amount : Nat) (m : Machine) :
    (charge amount).on m =
      (if m.config.gasLimit < min (m.gas + amount) gasCeiling then .error .gasExhausted
        else .ok (),
        { m with gas := min (m.gas + amount) gasCeiling }) := by
  rw [charge, on_bind_ok (on_modify _ m), on_bind_ok (on_get _)]
  dsimp only
  split <;> rfl

theorem on_inFrame_of_lt {m : Machine} (h : m.depth < m.config.maxCallDepth) (x : Eval α) :
    (inFrame x).on m =
      leaving .ok (fun n => { n with depth := n.depth - 1 })
        (x.on { m with depth := m.depth + 1 }) := by
  rw [inFrame, on_bind_ok (on_get m), require, if_pos h, on_bind_ok (on_pure _ _),
    on_bind_ok (on_modify _ m)]
  exact on_attempt_bind x fun _ _ => rfl

theorem on_inFrame_of_le {m : Machine} (h : m.config.maxCallDepth ≤ m.depth) (x : Eval α) :
    (inFrame x).on m = (.error (.fault .recursionLimit), m) := by
  rw [inFrame, on_bind_ok (on_get m), require, if_neg (Nat.not_lt.2 h)]
  exact on_bind_error (on_fail _ m) _

theorem on_whileHandling (f : Fault) (x : Eval α) (m : Machine) :
    (whileHandling f x).on m =
      leaving id (fun n => { n with handling := n.handling.tail })
        (x.on { m with handling := f :: m.handling }) := by
  rw [whileHandling, pushHandling, on_bind_ok (on_modify _ m)]
  refine on_attempt_bind x fun r n => ?_
  rw [popHandling, on_bind_ok (on_modify _ n), on_ofStop, id]

theorem on_withHandled (faults : List Fault) (x : Eval α) (m : Machine) :
    (withHandled faults x).on m =
      leaving .ok
        (fun n => { n with handling := n.handling.drop (n.handling.length - m.handling.length) })
        (x.on { m with handling := faults ++ m.handling }) := by
  rw [withHandled, on_bind_ok (on_get m), on_bind_ok (on_modify _ m)]
  exact on_attempt_bind x fun _ _ => rfl

/-! ## Objects -/

/-- Change the heap. -/
def modifyHeap (f : Heap → Heap) : Eval Unit := modify fun m => { m with heap := f m.heap }

/-- Put a result into the heap. -/
def place (result : Fresh) : Eval Value :=
  modifyGet fun m => let (v, heap) := m.heap.place result; (v, { m with heap })

@[simp] theorem on_heap (m : Machine) : heap.on m = (.ok m.heap, m) := rfl

@[simp] theorem on_modifyHeap (m : Machine) (f : Heap → Heap) :
    (modifyHeap f).on m = (.ok (), { m with heap := f m.heap }) := rfl

@[simp] theorem on_place (m : Machine) (c : Fresh) :
    (place c).on m = (.ok (m.heap.place c).1, { m with heap := (m.heap.place c).2 }) := rfl

/-- A serial number that was not used before. -/
def newSerial : Eval Serial :=
  modifyGet fun m => (⟨m.nextSerial⟩, { m with nextSerial := m.nextSerial + 1 })

/-- The object of an exception. -/
def newException (e : Exception) : Eval Value := do return e.toValue (← newSerial)

/-- A function that was not there before. -/
def newFunction (name : String) (f : Function) : Eval Value :=
  modifyGet fun m =>
    (.function ⟨m.functions.size⟩ name, { m with functions := m.functions.push f })

/-! ## Generators -/

/-- A generator that has not started, with a scope for its body. -/
def newGenerator (kind : ScopeKind) (parent : ScopeId) (body : Block) : Eval GeneratorId :=
  modifyGet fun m =>
    let (id, scopes) := m.scopes.addScope kind (some parent) (some (.notStarted body))
    (⟨id⟩, { m with scopes })

/-- Where a generator is in its life. -/
def generatorState (id : GeneratorId) : Eval GeneratorState := do
  return ((← get).generator id).state

/-- Bring a generator to another place in its life. -/
def setGeneratorState (id : GeneratorId) (state : GeneratorState) : Eval Unit :=
  modify fun m => { m with scopes := m.scopes.setGenerator id.scope state }

/-! ## Scopes -/

/-- A scope without bindings. -/
def newScope (kind : ScopeKind) (parent : Option ScopeId) : Eval ScopeId :=
  modifyGet fun m =>
    let (id, scopes) := m.scopes.addScope kind parent none
    (id, { m with scopes })

/-- Bind a name in a scope. -/
def define (scope : ScopeId) (name : String) (value : Value) : Eval Unit :=
  modify fun m => { m with scopes := m.scopes.define scope name value }

/-- **What a name means in a scope**: what the scopes say, else a built-in
function, else a class of exceptions. -/
def lookup (scope : ScopeId) (name : String) : Eval Value := do
  match ← find? scope name with
  | some v => return v
  | none =>
    match Builtin.ofName? name with
    | some b => return .builtin b
    | none =>
      match ExceptionKind.ofName? name with
      | some kind => return .exceptionClass kind
      | none => fail (.unresolvedName name)

/-! ## Texts and truth -/

/-- Whether a value counts as true. -/
def isTruthy (v : Value) : Eval Bool := do return v.isTruthy (← heap)

/-- The printed form of a value. -/
def repr (v : Value) : Eval String := do ofAnswer ((← heap).repr? v)

/-- The text of a value. -/
def text (v : Value) : Eval String := do ofAnswer ((← heap).text? v)

/-- End the host. -/
def abort : Eval Unit := modify fun m => { m with aborted := true }

/-- The printed form of a value for someone who holds guards. Where they exclude the
printing the host ends. -/
def reprHolding (held : List Guard) (v : Value) : Eval String := do
  if (← heap).reprExcluded held v then abort
  repr v

/-- Print a line. -/
def print (line : String) : Eval Unit :=
  modify fun m => { m with transcript := m.transcript.push line }

end Eval

end MeteredScript
