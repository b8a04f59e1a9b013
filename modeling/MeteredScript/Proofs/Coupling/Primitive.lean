import MeteredScript.Evaluation.Method
import MeteredScript.Evaluation.Comprehension
import MeteredScript.Proofs.Coupling.Basic

/-!
# What a coupling has to say about the primitives

`Coupling.Lawful` lists what all of evaluation rests on: machines that are
alike have the same containers, functions and visible names, and every
primitive keeps machines alike. The brackets `inFrame` and `whileHandling` keep
them alike if what they enclose does, at whatever world it is run.

Evaluation recurses through an evaluator, so two runs need two of them.
`Coupling.Couples` says that two evaluators do the same; the remaining modules
of this theory say that whatever is built on them does so too.
-/

namespace MeteredScript

/-- The names that occur in the body of a function. -/
def FunctionBody.names : FunctionBody → List String
  | .block body => blockNames body
  | .expr body => body.names

/-- The names that a call of a function binds or uses. -/
def Function.names (f : Function) : List String := f.parameters.map Prod.fst ++ f.body.names

/-- Running a statement takes an evaluator that can: to this one every statement is
endless. -/
def Evaluator.Idles (ev : Evaluator) : Prop := ∀ st s, ev.exec st s = throw .endless

namespace Coupling

variable {α β : Type}

/-- **Every primitive keeps machines alike.** -/
structure Lawful (c : Coupling) : Prop where
  heap_eq {w m m'} : c.Related w m m' → m.heap = m'.heap
  handled_eq {w m m'} : c.Related w m m' → m.handling.head? = m'.handling.head?
  function_eq {w m m'} : c.Related w m m' → ∀ id, m.function id = m'.function id
  function_shown {w m m'} : c.Related w m m' → ∀ id, c.Shows (m.function id).names
  own_eq {w m m'} : c.Related w m m' → ∀ s {name}, ¬ c.hidden name →
    m.scopes.findLocal? s name = m'.scopes.findLocal? s name
  find_eq {w m m'} : c.Related w m m' → ∀ s {name}, ¬ c.hidden name →
    m.scopes.find? s name = m'.scopes.find? s name
  charge (amount : Nat) : c.Sim (Eval.charge amount) (Eval.charge amount)
  modifyHeap (f : Heap → Heap) : c.Sim (Eval.modifyHeap f) (Eval.modifyHeap f)
  place (r : Fresh) : c.Sim (Eval.place r) (Eval.place r)
  newSerial : c.Sim Eval.newSerial Eval.newSerial
  newFunction (name : String) {f : Function} : c.Shows f.names →
    c.Sim (Eval.newFunction name f) (Eval.newFunction name f)
  print (line : String) : c.Sim (Eval.print line) (Eval.print line)
  abort : c.Sim Eval.abort Eval.abort
  define {s : ScopeId} {name : String} (v : Value) : ¬ c.hidden name →
    c.Sim (Eval.define s name v) (Eval.define s name v)
  setAttribute (object : Value) {name : String} (v : Value) : ¬ c.hidden name →
    c.Sim (Eval.setAttribute object name v) (Eval.setAttribute object name v)
  newScope (kind : ScopeKind) (parent : Option ScopeId) :
    c.Sim (Eval.newScope kind parent) (Eval.newScope kind parent)
  newGenerator (kind : ScopeKind) (parent : ScopeId) {body : Block} :
    c.Shows (blockNames body) →
    c.Sim (Eval.newGenerator kind parent body)
      (Eval.newGenerator kind parent body)
  newGeneratorExpression (scope : ScopeId) {element : Expr} {first : Clause}
    {rest : List Clause} (outer : Value) : c.Shows element.names →
    c.Shows (clausesNames (first :: rest)) →
    c.Sim (newGeneratorExpression scope (generatorBody element first rest) outer)
      (newGeneratorExpression scope (generatorBody element first rest) outer)
  inFrame {α : Type} {P : α → Prop} {x y : Eval α} : c.SimOf P x y →
    c.SimTo (OutOfGas fun _ => False) (IfOk P) (Eval.inFrame x) (Eval.inFrame y)
  whileHandling {α : Type} (f : Fault) {x y : Eval α} : c.Sim x y →
    c.Sim (Eval.whileHandling f x) (Eval.whileHandling f y)

/-- **How often two runs may go through a loop**: one of them less often than the
other only if nothing is said about it when it has to stop too early. -/
inductive Rounds (c : Coupling) : Nat → Nat → Prop
  | done : Rounds c 0 0
  | left (n : Nat) : c.patientLeft → Rounds c 0 n
  | right (n : Nat) : c.patientRight → Rounds c n 0
  | more {n n' : Nat} : Rounds c n n' → Rounds c (n + 1) (n' + 1)

namespace Rounds

variable {c : Coupling} {n n' : Nat}

theorem refl (n : Nat) : c.Rounds n n := by
  induction n with
  | zero => exact .done
  | succ n ih => exact .more ih

theorem of_le (hp : c.patientLeft) (h : n ≤ n') : c.Rounds n n' := by
  induction n generalizing n' with
  | zero => exact .left n' hp
  | succ n ih =>
    obtain ⟨n', rfl⟩ : ∃ k, n' = k + 1 := ⟨n' - 1, by omega⟩
    exact .more (ih (by omega))

theorem of_ge (hp : c.patientRight) (h : n' ≤ n) : c.Rounds n n' := by
  induction n' generalizing n with
  | zero => exact .right n hp
  | succ n' ih =>
    obtain ⟨n, rfl⟩ : ∃ k, n = k + 1 := ⟨n - 1, by omega⟩
    exact .more (ih (by omega))

theorem add (h : c.Rounds n n') (k : Nat) : c.Rounds (n + k) (n' + k) := by
  induction k with
  | zero => exact h
  | succ k ih => exact .more ih

theorem mul (h : c.Rounds n n') (k : Nat) : c.Rounds (k * n) (k * n') := by
  induction h with
  | done => exact refl _
  | left n hp => exact .left _ hp
  | right n hp => exact .right _ hp
  | more _ ih => exact ih.add k

/-- Without patience the two runs go round equally often. -/
theorem eq (hl : ¬ c.patientLeft) (hr : ¬ c.patientRight) (h : c.Rounds n n') : n = n' := by
  induction h with
  | done => rfl
  | left n hp => exact absurd hp hl
  | right n hp => exact absurd hp hr
  | more _ ih => rw [ih]

end Rounds

/-- **Two evaluators do the same** with code whose names are not hidden. -/
structure Couples (c : Coupling) (ev ev' : Evaluator) : Prop extends c.Lawful where
  eval {e : Expr} {s : ScopeId} : c.Shows e.names →
    c.Sim (ev.eval e s) (ev'.eval e s)
  exec {st : Stmt} {s : ScopeId} : c.Shows st.names →
    c.Sim (ev.exec st s) (ev'.exec st s)
  resume (id : GeneratorId) (r : Resume) : c.Sim (ev.resume id r) (ev'.resume id r)
  close (id : GeneratorId) : c.Sim (closeGenerator ev id) (closeGenerator ev' id)
  rounds : c.Rounds ev.rounds ev'.rounds
  /-- Without gas no statement is run, or there is no run of a statement at all. -/
  unwinds : (∀ st s, c.Unwinds (fun _ => False) (ev.exec st s)) ∨ ev.Idles ∧ ev'.Idles := by
    exact .inl fun _ _ => .of_united _

namespace Lawful

variable {c : Coupling} (hc : c.Lawful)

include hc

theorem tick : c.Sim Eval.tick Eval.tick := hc.charge 1

theorem heap : c.Sim Eval.heap Eval.heap :=
  Sim.read (g := Machine.heap) (fun _ => rfl) (fun _ _ => trivial)
    fun hR => ⟨hc.heap_eq hR, trivial⟩

theorem handled? : c.Sim Eval.handled? Eval.handled? :=
  Sim.read (g := fun m => m.handling.head?) (fun _ => rfl) (fun _ _ => trivial)
    fun hR => ⟨hc.handled_eq hR, trivial⟩

theorem function (id : FunctionId) :
    c.SimOf (fun f => c.Shows f.names) (Eval.function id) (Eval.function id) :=
  Sim.read (g := (·.function id)) (fun _ => rfl)
    (fun hl f => hl.shows f.names)
    fun hR => ⟨hc.function_eq hR id, hc.function_shown hR id⟩

theorem own? (s : ScopeId) {name : String} (hname : ¬ c.hidden name) :
    c.Sim (Eval.own? s name) (Eval.own? s name) :=
  Sim.read (g := (·.scopes.findLocal? s name)) (fun _ => rfl) (fun _ _ => trivial)
    fun hR => ⟨hc.own_eq hR s hname, trivial⟩

theorem isTruthy (v : Value) : c.Sim (Eval.isTruthy v) (Eval.isTruthy v) :=
  Sim.bind hc.heap fun h => Sim.pure (v.isTruthy h)

theorem repr (v : Value) : c.Sim (Eval.repr v) (Eval.repr v) :=
  Sim.bind hc.heap fun h => Sim.ofAnswer (h.repr? v)

theorem text (v : Value) : c.Sim (Eval.text v) (Eval.text v) :=
  Sim.bind hc.heap fun h => Sim.ofAnswer (h.text? v)

theorem reprHolding (held : List Guard) (v : Value) :
    c.Sim (Eval.reprHolding held v) (Eval.reprHolding held v) :=
  Sim.bind hc.heap fun _ => Sim.ite (Sim.bind hc.abort fun _ => hc.repr v) (hc.repr v)

theorem newException (e : Exception) : c.Sim (Eval.newException e) (Eval.newException e) :=
  Sim.bind hc.newSerial fun serial => Sim.pure (e.toValue serial)

theorem find? {s : ScopeId} {name : String} (hname : ¬ c.hidden name) :
    c.Sim (Eval.find? s name) (Eval.find? s name) :=
  Sim.read (g := (·.scopes.find? s name)) (fun _ => rfl) (fun _ _ => trivial)
    fun hR => ⟨hc.find_eq hR s hname, trivial⟩

/-- A name means the same in both runs. -/
theorem lookup {s : ScopeId} {name : String} (hname : ¬ c.hidden name) :
    c.Sim (Eval.lookup s name) (Eval.lookup s name) := by
  refine Sim.bind (hc.find? hname) fun v => ?_
  cases v with
  | some v => exact Sim.pure v
  | none =>
    cases hb : Builtin.ofName? name with
    | some b => simpa only [hb] using Sim.pure _
    | none =>
      cases hk : ExceptionKind.ofName? name with
      | some kind => simpa only [hb, hk] using Sim.pure _
      | none => simpa only [hb, hk] using Sim.fail _

end Lawful

end Coupling

end MeteredScript
