import MeteredScript.Proofs.Coupling.Invariant
import MeteredScript.Proofs.Lifecycle.Transition

/-!
# Scopes and functions stay

Scopes are opened and never given up, so what a scope pointer leads to is there from
then on, and a scope that is opened later has a later pointer. Functions are defined and
neither given up nor defined again, so what a function pointer leads to is the same from
then on (`Machine.KeepsFunctions`).

Both are properties of the scopes and functions of a machine alone, and
`Coupling.Enduring` says what has to be shown of such a property for evaluation to keep
it.
-/

namespace MeteredScript

namespace Coupling

variable {W : Type} {Inv : W → Machine → Prop}

/-- **What has to be shown of a property of scopes and functions** for evaluation to keep
it. -/
structure Enduring (Inv : W → Machine → Prop) : Prop where
  /-- It is about scopes and functions alone. -/
  congr {w : W} {m m' : Machine} : Inv w m → m'.functions = m.functions →
    m'.scopes = m.scopes → Inv w m'
  newFunction {w : W} {m : Machine} (f : Function) : Inv w m →
    Inv w { m with functions := m.functions.push f }
  define {w : W} {m : Machine} (s : ScopeId) (name : String) (v : Value) : Inv w m →
    Inv w { m with scopes := m.scopes.define s name v }
  addScope {w : W} {m : Machine} (kind : ScopeKind) (parent : Option ScopeId)
    (state : Option GeneratorState) : Inv w m →
    Inv w { m with scopes := (m.scopes.addScope kind parent state).2 }
  setGenerator {w : W} {m : Machine} (s : ScopeId) (state : GeneratorState) : Inv w m →
    Inv w { m with scopes := m.scopes.setGenerator s state }

namespace Enduring

variable (h : Enduring Inv)

include h

theorem inFrame {α : Type} {P : α → Prop} {x y : Eval α} (hxy : (keeping Inv).SimOf P x y) :
    (keeping Inv).SimOf (IfOk P) (Eval.inFrame x) (Eval.inFrame y) := by
  refine keeping_sim fun w m hI => ?_
  rcases Nat.lt_or_ge m.depth m.config.maxCallDepth with hlt | hge
  · rw [Eval.on_inFrame_of_lt hlt, Eval.on_inFrame_of_lt hlt]
    have hI' : Inv w { m with depth := m.depth + 1 } := h.congr hI rfl rfl
    refine (hxy.alike hI').leaving (fun r _ => by simp) fun r n hn => ?_
    exact ⟨h.congr hn.1 rfl rfl, ifOk_ok hn.2⟩
  · rw [Eval.on_inFrame_of_le hge, Eval.on_inFrame_of_le hge]
    exact .error ⟨hI, ifOk_error _⟩

theorem whileHandling {α : Type} (f : Fault) {x y : Eval α} (hxy : (keeping Inv).Sim x y) :
    (keeping Inv).Sim (Eval.whileHandling f x) (Eval.whileHandling f y) := by
  refine keeping_sim fun w m hI => ?_
  rw [Eval.on_whileHandling, Eval.on_whileHandling]
  have hI' : Inv w { m with handling := f :: m.handling } := h.congr hI rfl rfl
  refine (hxy.alike hI').leaving (fun r hr => hr) fun r n hn => ?_
  exact ⟨h.congr hn.1 rfl rfl, hn.2⟩

theorem withHandled {α : Type} {P : α → Prop} (faults : List Fault) {x y : Eval α}
    (hxy : (keeping Inv).SimOf P x y) :
    (keeping Inv).SimOf (IfOk P) (Eval.withHandled faults x) (Eval.withHandled faults y) := by
  refine keeping_sim fun w m hI => ?_
  rw [Eval.on_withHandled, Eval.on_withHandled]
  have hI' : Inv w { m with handling := faults ++ m.handling } := h.congr hI rfl rfl
  refine (hxy.alike hI').leaving (fun r _ => by simp) fun r n hn => ?_
  exact ⟨h.congr hn.1 rfl rfl, ifOk_ok hn.2⟩

/-- An attribute is set in the scope that a class object leads to, or not at all. -/
theorem setAttribute (object : Value) (name : String) (v : Value) :
    (keeping Inv).Sim (Eval.setAttribute object name v) (Eval.setAttribute object name v) := by
  match object with
  | .classObject _ scope => exact keeping_self fun w m hI => h.define scope name v hI
  | .int _ | .str _ | .bool _ | .none | .list _ | .tuple _ | .set _ | .dict _ | .function _ _
  | .builtin _ | .method _ _ _ | .generator _ _ | .exceptionClass _ | .exception _ _ _ _ =>
    exact Sim.fail _

theorem lawful : (keeping Inv).Lawful where
  heap_eq := fun hR => by rw [hR.1]
  handled_eq := fun hR => by rw [hR.1]
  function_eq := fun hR id => by rw [hR.1]
  function_shown := fun _ _ => keeping_shows _
  own_eq := fun hR s name _ => by rw [hR.1]
  find_eq := fun hR s name _ => by rw [hR.1]
  charge amount := by
    refine keeping_self fun w m hI => ?_
    rw [Eval.on_charge]
    exact h.congr hI rfl rfl
  modifyHeap f := keeping_self fun w m hI => h.congr hI rfl rfl
  place r := keeping_self fun w m hI => h.congr hI rfl rfl
  newSerial := keeping_self fun w m hI => h.congr hI rfl rfl
  newFunction name f _ := keeping_self fun w m hI => h.newFunction _ hI
  print line := keeping_self fun w m hI => h.congr hI rfl rfl
  abort := keeping_self fun w m hI => h.congr hI rfl rfl
  define v _ := keeping_self fun w m hI => h.define _ _ v hI
  setAttribute object _ v _ := h.setAttribute object _ v
  newScope kind parent := keeping_self fun w m hI => h.addScope kind parent none hI
  newGenerator kind parent body _ := keeping_self fun w m hI => h.addScope kind _ _ hI
  newGeneratorExpression scope element first rest outer _ _ := by
    refine keeping_self fun w m hI => ?_
    rw [on_newGeneratorExpression]
    cases Cursor.ofValue m.heap outer with
    | error f => exact h.addScope _ _ none hI
    | ok cursor => exact h.define _ _ _ (h.addScope _ _ _ hI)
  inFrame h' := (h.inFrame h').to
  whileHandling := h.whileHandling

/-- **A property that endures is kept** by all of evaluation. -/
theorem complete : (keeping Inv).Complete where
  toLawful := h.lawful
  pushHandling f := keeping_self fun _ _ hI => h.congr hI rfl rfl
  popHandling := keeping_self fun _ _ hI => h.congr hI rfl rfl
  withHandled {_ _} faults {_ _} hxy := (h.withHandled faults hxy).to
  setGeneratorState id state _ := keeping_self fun _ _ hI => h.setGenerator id.scope state hI
  generatorState id :=
    Sim.read (g := fun m => (m.generator id).state) (fun _ => rfl)
      (fun hl => absurd hl keeping_not_lenient) fun hR => ⟨by rw [hR.1], keeping_shows _⟩

end Enduring

end Coupling

open Coupling

/-! ## Scopes -/

/-- There are at least so many scopes. -/
def Peopled (least : Nat) (m : Machine) : Prop := least ≤ m.scopes.scopes.size

theorem Peopled.of_eq {least : Nat} {m m' : Machine} (h : Peopled least m)
    (hs : m'.scopes.scopes.size = m.scopes.scopes.size) : Peopled least m' :=
  Nat.le_trans h (Nat.le_of_eq hs.symm)

theorem peopled_enduring : Enduring Peopled where
  congr hI _ hs := hI.of_eq (congrArg (·.scopes.size) hs)
  newFunction _ hI := hI
  define s name v hI := hI.of_eq (by simp [ScopeTree.define])
  addScope kind parent state hI := by
    have hI : _ ≤ _ := hI
    simp only [Peopled, ScopeTree.addScope, Array.size_push]
    omega
  setGenerator s state hI := hI.of_eq (by simp [ScopeTree.setGenerator])

theorem peopled_complete : (keeping Peopled).Complete := peopled_enduring.complete

/-- **No scope is given up** by what keeps them, if it comes to an end. -/
theorem size_le_of_sim {α : Type} {x : Eval α} (hself : (keeping Peopled).Sim x x) {m n : Machine}
    {r : Except Stop α} (hrun : x.on m = (r, n)) (hr : r ≠ .error .endless) :
    m.scopes.scopes.size ≤ n.scopes.scopes.size := by
  have hI : Peopled m.scopes.scopes.size m := Nat.le_refl _
  rcases hself.alike hI with ⟨hend, -⟩ | ⟨-, -, hn⟩
  · rw [hrun] at hend
    exact absurd hend hr
  · rw [hrun] at hn
    exact hn.1

/-- No scope is given up by evaluation that comes to an end. -/
theorem size_le_of_eval {bound : Nat} {e : Expr} {s : ScopeId} {m n : Machine}
    {r : Except Stop Value} (hrun : ((Evaluator.bounded bound).eval e s).on m = (r, n))
    (hr : r ≠ .error .endless) : m.scopes.scopes.size ≤ n.scopes.scopes.size :=
  size_le_of_sim ((peopled_complete.bounded_self bound).eval (keeping_shows e.names)) hrun hr

/-! ## Functions -/

/-- **All functions of a machine are there in another one**, under the same pointers. -/
def Machine.KeepsFunctions (m n : Machine) : Prop := m.functions.toList <+: n.functions.toList

namespace Machine.KeepsFunctions

variable {m n k : Machine}

theorem refl (m : Machine) : m.KeepsFunctions m := List.prefix_refl _

theorem of_eq (h : m.KeepsFunctions n) (hf : k.functions = n.functions) : m.KeepsFunctions k := by
  unfold KeepsFunctions
  rw [hf]
  exact h

theorem push (h : m.KeepsFunctions n) (f : Function) :
    m.KeepsFunctions { n with functions := n.functions.push f } := by
  unfold KeepsFunctions
  rw [Array.toList_push]
  exact List.IsPrefix.trans h (List.prefix_append _ _)

/-- A pointer leads to the same function. -/
theorem function_eq (h : m.KeepsFunctions n) {id : FunctionId}
    (there : id.index < m.functions.size) : n.function id = m.function id := by
  have found := List.prefix_iff_getElem?.1 h id.index there
  rw [Array.getElem?_toList, Array.getElem_toList] at found
  rw [function, function, Array.getD_eq_getD_getElem?, Array.getD_eq_getD_getElem?, found,
    Array.getElem?_eq_getElem there]

end Machine.KeepsFunctions

theorem functions_enduring (m : Machine) :
    Enduring fun (_ : Unit) (n : Machine) => m.KeepsFunctions n where
  congr hI hf _ := hI.of_eq hf
  newFunction f hI := hI.push f
  define _ _ _ hI := hI
  addScope _ _ _ hI := hI
  setGenerator _ _ hI := hI

end MeteredScript
