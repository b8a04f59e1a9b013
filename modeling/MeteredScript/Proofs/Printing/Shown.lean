import MeteredScript.Heap.Print
import MeteredScript.Proofs.Equality.Inside

/-!
# What printing goes on to

Printing a value goes on to the values that it shows: the items of tuples and
containers, keys and values of dicts, and what an exception without a message
carries (`Heap.shown`). These are the values that stand inside it, and one sort
more: equality does not look into exceptions, printing does.

A list or dict that is met again inside itself is cut short, whatever else is
printed is printed as often as it is met. `Heap.ShownIn` is one step of printing,
and `Heap.LooselyIn` a step out of a value that is never cut short. The lemmas
say, one layer at a time, that a value has no printed form exactly if something
that it shows has none.
-/

namespace MeteredScript

open Relation (ReflTransGen TransGen)

namespace Container

/-- The pointer as a value. -/
def value : Container → Value
  | list id => .list id
  | dict id => .dict id
  | set id => .set id

/-- The containers that are open while the contents of one are printed: sets
are not counted. -/
def openIn (opened : List Container) : Container → List Container
  | set _ => opened
  | c => c :: opened

end Container

/-- Whether the value is a list or dict, which are cut short when they are met
again. -/
def Value.isCut : Value → Bool
  | .list _ | .dict _ => true
  | _ => false

theorem Container.openIn_of_isCut {opened : List Container} {c : Container}
    (cut : c.value.isCut = true) : c.openIn opened = c :: opened := by
  cases c with
  | list | dict => rfl
  | set => cases cut

namespace Heap

variable (h : Heap)

/-- The values that printing a value goes on to. -/
def shown : Value → List Value
  | .exception _ _ none carried => [carried]
  | v => h.parts v

/-- Printing the second value goes on to the first. -/
def ShownIn (x v : Value) : Prop := x ∈ h.shown v

/-- Printing the second value goes on to the first, and the second is never cut
short. -/
def LooselyIn (x v : Value) : Prop := v.isCut = false ∧ x ∈ h.shown v

variable {h} {v x : Value} {depth : Nat} {opened : List Container} {c : Container}
  {contents : List Container → Container → Option String}

theorem LooselyIn.shownIn (loosely : h.LooselyIn x v) : h.ShownIn x v := loosely.2

/-! ## One layer of printing -/

theorem bind_return_eq_none_iff {α β : Type} {o : Option α} {f : α → β} :
    (do let a ← o; return f a) = none ↔ o = none := by
  cases o <;> simp

theorem printAllWith_eq_none_iff {vs : List Value} :
    Value.printAllWith h contents opened vs = none ↔
      ∃ x ∈ vs, x.printWith h contents opened = none := by
  induction vs with
  | nil => simp [Value.printAllWith]
  | cons v vs ih =>
    rw [Value.printAllWith]
    simp only [List.mem_cons, exists_eq_or_imp, ← ih]
    cases v.printWith h contents opened with
    | none => simp
    | some text => cases Value.printAllWith h contents opened vs <;> simp

theorem printEntriesWith_eq_none_iff {es : List (Value × Value)} :
    Value.printEntriesWith h contents opened es = none ↔
      ∃ x ∈ es.flatMap fun e => [e.1, e.2], x.printWith h contents opened = none := by
  induction es with
  | nil => simp [Value.printEntriesWith]
  | cons e es ih =>
    rw [Value.printEntriesWith]
    simp only [List.flatMap_cons, List.cons_append, List.nil_append, List.mem_cons,
      exists_eq_or_imp, ← ih]
    cases e.1.printWith h contents opened with
    | none => simp
    | some text =>
      cases e.2.printWith h contents opened with
      | none => simp
      | some text' => cases Value.printEntriesWith h contents opened es <;> simp

/-- A container has no printed form if it is not cut short and its contents have
none. -/
theorem printWith_container_eq_none_iff :
    c.value.printWith h contents opened = none ↔
      (c.value.isCut = true → c ∉ opened) ∧ contents opened c = none := by
  cases c with
  | list id =>
    by_cases met : Container.list id ∈ opened <;>
      simp [Container.value, Value.printWith, Value.isCut, met]
  | dict id =>
    by_cases met : Container.dict id ∈ opened <;>
      simp [Container.value, Value.printWith, Value.isCut, met]
  | set id => simp [Container.value, Value.printWith, Value.isCut]

/-- Any other value has none if something that it shows has none. -/
theorem printWith_other_eq_none_iff (other : ∀ c : Container, v ≠ c.value) :
    v.printWith h contents opened = none ↔
      ∃ x ∈ h.shown v, x.printWith h contents opened = none := by
  cases v with
  | list id => exact absurd rfl (other (.list id))
  | dict id => exact absurd rfl (other (.dict id))
  | set id => exact absurd rfl (other (.set id))
  | bool b => cases b <;> simp [Value.printWith, shown, parts]
  | tuple items =>
    rw [Value.printWith, bind_return_eq_none_iff, printAllWith_eq_none_iff]
    rfl
  | exception serial kind message carried =>
    cases message with
    | some text => simp [Value.printWith, shown, parts]
    | none =>
      cases empty : carried.isNone with
      | true =>
        obtain rfl := Value.isNone_iff.1 empty
        simp [Value.printWith, shown]
      | false =>
        simp only [Value.printWith, empty, Bool.false_eq_true, if_false, shown]
        exact bind_return_eq_none_iff.trans (by simp)
  | _ => simp [Value.printWith, shown, parts]

/-- The contents of a container have no printed form if an item has none. -/
theorem printContents?_succ_eq_none_iff :
    h.printContents? (depth + 1) opened c = none ↔
      ∃ x ∈ h.shown c.value, x.printWith h (h.printContents? depth) (c.openIn opened) = none := by
  cases c with
  | list id =>
    rw [printContents?, bind_return_eq_none_iff, printAllWith_eq_none_iff]
    rfl
  | dict id =>
    rw [printContents?, bind_return_eq_none_iff, printEntriesWith_eq_none_iff]
    rfl
  | set id =>
    rw [printContents?]
    split
    · rename_i empty
      simp_all [Table.isEmpty, Container.value, shown, parts, Table.values]
    · rw [bind_return_eq_none_iff, printAllWith_eq_none_iff]
      rfl

end Heap

end MeteredScript
