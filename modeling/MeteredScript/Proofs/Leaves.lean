import MeteredScript.Evaluation.Method

/-!
# What evaluations leave alone

An evaluation leaves a part of the machine alone if it is after it what it was before it, however
the evaluation ends. Looking at the machine, checking arguments and failing leave every part
alone, and evaluations that leave a part alone do so one after another.
-/

namespace MeteredScript

variable {α β γ : Type} {view : Machine → γ}

namespace Eval

/-- **What leaves a part of the machine alone**, however it ends. -/
def Leaves (view : Machine → γ) (x : Eval α) : Prop := ∀ m, view (x.on m).2 = view m

namespace Leaves

theorem pure (a : α) : Leaves view (Pure.pure a) := fun _ => rfl

theorem throw (s : Stop) : Leaves view (MonadExcept.throw s : Eval α) := fun _ => rfl

theorem fail (f : Fault) : Leaves view (Eval.fail f : Eval α) := fun _ => rfl

theorem heap : Leaves view Eval.heap := fun _ => rfl

theorem ofStop (r : Except Stop α) : Leaves view (Eval.ofStop r) := by
  cases r <;> exact fun _ => rfl

theorem ofTypeFault (r : Except TypeFault α) : Leaves view (Eval.ofTypeFault r) := by
  cases r <;> exact fun _ => rfl

theorem ofFault (r : Except Fault α) : Leaves view (Eval.ofFault r) := by
  cases r <;> exact fun _ => rfl

theorem ofAnswer (a : Option α) : Leaves view (Eval.ofAnswer a) := by
  cases a <;> exact fun _ => rfl

theorem require (p : Prop) [Decidable p] (f : Fault) : Leaves view (Eval.require p f) := by
  unfold Eval.require
  split
  · exact pure ()
  · exact fail f

theorem ite {p : Prop} [Decidable p] {x y : Eval α} (hx : Leaves view x) (hy : Leaves view y) :
    Leaves view (if p then x else y) := by
  split
  · exact hx
  · exact hy

theorem bind {x : Eval α} {f : α → Eval β} (hx : Leaves view x) (hf : ∀ a, Leaves view (f a)) :
    Leaves view (x >>= f) := by
  intro m
  have alone := hx m
  rw [on_bind]
  generalize x.on m = o at alone ⊢
  obtain ⟨s | a, n⟩ := o
  · exact alone
  · exact (hf a n).trans alone

theorem repr (v : Value) : Leaves view (Eval.repr v) := heap.bind fun _ => ofAnswer _

theorem checkCount (function : String) (arguments : List Value) (least most : Nat) :
    Leaves view (checkCount function arguments least most) := by
  unfold MeteredScript.checkCount
  exact ite (pure ()) (fail _)

theorem integerArgument (function : String) (v : Value) :
    Leaves view (integerArgument function v) := by
  unfold MeteredScript.integerArgument
  cases v.asInt? with
  | some n => exact pure n
  | none => exact fail _

theorem popIndex (index : Option Value) : Leaves view (popIndex index) := by
  cases index with
  | none => exact pure (-1)
  | some v => exact (integerArgument _ v).bind fun n => pure n.toInt

end Leaves

end Eval

end MeteredScript
