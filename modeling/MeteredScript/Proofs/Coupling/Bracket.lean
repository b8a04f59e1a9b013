import MeteredScript.Proofs.Coupling.Basic

/-!
# Two runs inside brackets

A call runs one level deeper, and a handler runs while its fault is listed. Both are
evaluations inside a bracket that changes a counter or a list of the machine, which
it changes back on every way out. So two runs inside of brackets do the same if the
two changes keep machines alike.
-/

namespace MeteredScript

namespace Coupling

variable {α : Type} {c : Coupling} {P : α → Prop} {x y : Eval α}

/-- What is looked at and given back, with something done in between. -/
theorem Unwinds.afterBracket {f : Machine → Machine} (hf : ∀ m : Machine, m.WindsDown (f m))
    {r : Except Stop α} (hr : OutOfGas (fun _ => False) r) :
    c.Unwinds (OutOfGas fun _ => False) (do modify f; return r) :=
  Unwinds.bind (Unwinds.tidy hf) fun _ _ => Unwinds.pure hr

/-- **Two calls do the same** if their bodies do. -/
theorem SimOf.inFrame
    (hroom : ∀ {w m m'}, c.Related w m m' →
      (m.depth, m.config.maxCallDepth) = (m'.depth, m'.config.maxCallDepth))
    (hdepth : ∀ f : Nat → Nat, c.Sim (modify fun m => { m with depth := f m.depth } : Eval Unit)
      (modify fun m => { m with depth := f m.depth }))
    (h : c.SimOf P x y) :
    c.SimTo (OutOfGas fun _ => False) (IfOk P) (Eval.inFrame x) (Eval.inFrame y) := by
  have hP (hl : c.Lenient) (r : Except Stop α) : IfOk P r := fun a _ => h.total hl a
  let body (z : Eval α) (room : Nat × Nat) : Eval (Except Stop α) := do
    Eval.require (room.1 < room.2) .recursionLimit
    modify fun m => { m with depth := m.depth + 1 }
    let result ← Eval.attempt z
    modify fun m => { m with depth := m.depth - 1 }
    return result
  have hlook : c.Sim ((fun m : Machine => (m.depth, m.config.maxCallDepth)) <$> get)
      ((fun m : Machine => (m.depth, m.config.maxCallDepth)) <$> get) :=
    Sim.read (fun _ => rfl) (fun _ _ => trivial) fun hR => ⟨hroom hR, trivial⟩
  refine SimOf.bindOf (f := body x) (g := body y) hlook (fun room _ => ?_) hP
  have hrequire : c.Sim (Eval.require (room.1 < room.2) .recursionLimit)
      (Eval.require (room.1 < room.2) .recursionLimit) := Sim.ite (Sim.pure ()) (Sim.fail _)
  refine SimOf.bindOf hrequire (fun _ _ => ?_) hP
  refine SimOf.bindOf (hdepth (· + 1)) (fun _ _ => ?_) hP
  refine SimTo.bindOf (SimTo.attempt h) (fun r hr => ?_)
    (fun r hr => Unwinds.afterBracket (fun m => .depth m _) hr) hP
  exact SimOf.bindOf (hdepth (· - 1)) (fun _ _ => SimTo.pure hr hP) hP

section Handling

variable (hlist : ∀ f : List Fault → List Fault,
  c.Sim (modify fun m => { m with handling := f m.handling } : Eval Unit)
    (modify fun m => { m with handling := f m.handling }))

include hlist

/-- **Two handlers do the same** if their bodies do. -/
theorem Sim.whileHandling (f : Fault) (h : c.Sim x y) :
    c.Sim (Eval.whileHandling f x) (Eval.whileHandling f y) := by
  refine Sim.bind (hlist (f :: ·)) fun _ => ?_
  refine SimOf.attempt_bindOf h (fun r _ => ?_) ?_ fun _ _ => trivial
  · exact Sim.bind (hlist List.tail) fun _ => Sim.ofStop r
  · exact Unwinds.bind (Unwinds.tidy fun m => .handling m _) fun _ _ => Unwinds.throw

/-- **Two bodies with active handlers do the same** if they do without. -/
theorem SimOf.withHandled
    (hlength : ∀ {w m m'}, c.Related w m m' → m.handling.length = m'.handling.length)
    (faults : List Fault) (h : c.SimOf P x y) :
    c.SimTo (OutOfGas fun _ => False) (IfOk P) (Eval.withHandled faults x)
      (Eval.withHandled faults y) := by
  have hP (hl : c.Lenient) (r : Except Stop α) : IfOk P r := fun a _ => h.total hl a
  let body (z : Eval α) (base : Nat) : Eval (Except Stop α) := do
    modify fun m => { m with handling := faults ++ m.handling }
    let result ← Eval.attempt z
    modify fun m => { m with handling := m.handling.drop (m.handling.length - base) }
    return result
  have hlook : c.Sim ((fun m : Machine => m.handling.length) <$> get)
      ((fun m : Machine => m.handling.length) <$> get) :=
    Sim.read (fun _ => rfl) (fun _ _ => trivial) fun hR => ⟨hlength hR, trivial⟩
  refine SimOf.bindOf (f := body x) (g := body y) hlook (fun base _ => ?_) hP
  refine SimOf.bindOf (hlist (faults ++ ·)) (fun _ _ => ?_) hP
  refine SimTo.bindOf (SimTo.attempt h) (fun r hr => ?_)
    (fun r hr => Unwinds.afterBracket (fun m => .handling m _) hr) hP
  exact SimOf.bindOf (hlist fun l => l.drop (l.length - base))
    (fun _ _ => SimTo.pure hr hP) hP

end Handling

end Coupling

end MeteredScript
