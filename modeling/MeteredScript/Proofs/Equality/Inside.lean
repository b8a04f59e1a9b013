import Mathlib.Data.Finset.Card
import Mathlib.Logic.Relation
import Mathlib.Order.Interval.Finset.Nat
import MeteredScript.Heap.Equality
import MeteredScript.Proofs.Representation.Table

/-!
# What stands inside what

A value is *regular* in a heap if nothing that can be reached from it, through
tuples and containers, stands inside itself, and if every dict and set that
can be reached is sound. Methods and exception objects are not looked into:
they are equal only to themselves.

On a regular value every walk from a list or dict to its contents comes to an
end. `Heap.rank` counts the lists and dicts that can be reached; it drops with
each container that is opened, and never exceeds the number of containers,
which is how the bound of `Heap.equal?` comes to suffice. The induction that
it carries is stated once, as `Heap.Regular.induct`.
-/

namespace MeteredScript

open Relation (ReflTransGen TransGen)

namespace Value

/-- Whether the value is a tuple or a container: one of the four kinds that
equality looks into. -/
def isCompound : Value → Bool
  | tuple _ | list _ | dict _ | set _ => true
  | _ => false

end Value

namespace Heap

variable (h : Heap)

/-- The values that a tuple or container holds directly. -/
def parts : Value → List Value
  | .tuple items => items
  | .list id => (h.list id).toList
  | .dict id => (h.dict id).values.flatMap fun entry => [entry.1, entry.2]
  | .set id => (h.set id).values
  | _ => []

/-- The first value is one of those that the second holds. -/
def Inside (x v : Value) : Prop := x ∈ h.parts v

/-- The first value is the second or can be reached from it. -/
abbrev Reached : Value → Value → Prop := ReflTransGen h.Inside

/-- **A value that equality can be decided on**: what can be reached from it
stands in no circle, and the dicts and sets among it are sound. -/
structure Regular (v : Value) : Prop where
  /-- Nothing that can be reached stands inside itself. -/
  acyclic : ∀ x, h.Reached x v → ¬ TransGen h.Inside x x
  /-- The dicts that can be reached are sound. -/
  dict : ∀ id, h.Reached (.dict id) v → (h.dict id).Sound
  /-- The sets that can be reached are sound. -/
  set : ∀ id, h.Reached (.set id) v → (h.set id).Sound

variable {h} {v x : Value}

theorem Regular.of_inside (regular : h.Regular v) (inside : h.Inside x v) : h.Regular x where
  acyclic y reached := regular.acyclic y (reached.tail inside)
  dict id reached := regular.dict id (reached.tail inside)
  set id reached := regular.set id (reached.tail inside)

/-- Nothing that can be reached from a part of a regular value leads back to
the whole. -/
theorem Regular.not_reached (regular : h.Regular v) (inside : h.Inside x v) :
    ¬ h.Reached v x := fun back =>
  regular.acyclic v .refl (TransGen.tail' back inside)

/-- The value of an entry stands inside the dict. -/
theorem inside_dict {id : DictId} {e : HashKey × Value × Value} (member : e ∈ (h.dict id).entries) :
    h.Inside e.2.2 (.dict id) :=
  List.mem_flatMap.2 ⟨e.2, List.mem_map_of_mem member, by simp⟩

/-! ## Rank -/

open Classical in
variable (h v) in
/-- **How many lists and dicts can be reached** from a value, itself
included. -/
noncomputable def rank : Nat :=
  ((Finset.range h.lists.size).filter fun i => h.Reached (.list ⟨i⟩) v).card
    + ((Finset.range h.dicts.size).filter fun i => h.Reached (.dict ⟨i⟩) v).card

/-- There are never more of them than containers. -/
theorem rank_lt_pairBound : h.rank v < h.pairBound := by
  classical
  have lists : h.lists.size ≤ h.lists.size * h.lists.size := Nat.le_mul_self _
  have dicts : h.dicts.size ≤ h.dicts.size * h.dicts.size := Nat.le_mul_self _
  have fewer := Finset.card_filter_le (Finset.range h.lists.size)
    fun i => h.Reached (.list ⟨i⟩) v
  have fewer' := Finset.card_filter_le (Finset.range h.dicts.size)
    fun i => h.Reached (.dict ⟨i⟩) v
  rw [Finset.card_range] at fewer fewer'
  unfold rank pairBound
  omega

theorem rank_le_of_inside (inside : h.Inside x v) : h.rank x ≤ h.rank v := by
  classical
  exact Nat.add_le_add
    (Finset.card_le_card (Finset.monotone_filter_right _ fun _ _ reached => reached.tail inside))
    (Finset.card_le_card (Finset.monotone_filter_right _ fun _ _ reached => reached.tail inside))

/-- Opening a list loses the list itself. -/
theorem Regular.rank_lt_list {id : ListId} (regular : h.Regular (.list id))
    (inside : x ∈ (h.list id).toList) : h.rank x < h.rank (.list id) := by
  classical
  have bound : id.index < h.lists.size := by
    by_contra outside
    simp [list, Array.getD, outside] at inside
  refine Nat.add_lt_add_of_lt_of_le (Finset.card_lt_card ?_) (Finset.card_le_card
    (Finset.monotone_filter_right _ fun _ _ reached => reached.tail inside))
  refine (Finset.ssubset_iff_of_subset
    (Finset.monotone_filter_right _ fun _ _ reached => reached.tail inside)).2
      ⟨id.index, ?_, ?_⟩
  · simpa using ⟨bound, ReflTransGen.refl⟩
  · simpa using fun _ => regular.not_reached inside

/-- Opening a dict loses the dict itself. -/
theorem Regular.rank_lt_dict {id : DictId} {e : HashKey × Value × Value}
    (regular : h.Regular (.dict id)) (member : e ∈ (h.dict id).entries) :
    h.rank e.2.2 < h.rank (.dict id) := by
  classical
  have inside := inside_dict member
  have bound : id.index < h.dicts.size := by
    by_contra outside
    simp [Heap.dict, Array.getD, outside, Table.empty] at member
  refine Nat.add_lt_add_of_le_of_lt (Finset.card_le_card
    (Finset.monotone_filter_right _ fun _ _ reached => reached.tail inside))
      (Finset.card_lt_card ?_)
  refine (Finset.ssubset_iff_of_subset
    (Finset.monotone_filter_right _ fun _ _ reached => reached.tail inside)).2
      ⟨id.index, ?_, ?_⟩
  · simpa using ⟨bound, ReflTransGen.refl⟩
  · simpa using fun _ => regular.not_reached inside

/-- **Induction on regular values**, through tuples, lists and the values of
dicts. Sets need no hypothesis: what they are equal to is settled by their
keys. -/
@[elab_as_elim]
theorem Regular.induct {motive : (v : Value) → h.Regular v → Prop}
    (tuple : ∀ items (regular : h.Regular (.tuple items)),
      (∀ x (inside : x ∈ items), motive x (regular.of_inside inside)) →
      motive (.tuple items) regular)
    (list : ∀ id (regular : h.Regular (.list id)),
      (∀ x (inside : x ∈ (h.list id).toList), motive x (regular.of_inside inside)) →
      motive (.list id) regular)
    (dict : ∀ id (regular : h.Regular (.dict id)),
      (∀ e (member : e ∈ (h.dict id).entries),
        motive e.2.2 (regular.of_inside (inside_dict member))) →
      motive (.dict id) regular)
    (set : ∀ id (regular : h.Regular (.set id)), motive (.set id) regular)
    (atom : ∀ v (regular : h.Regular v), v.isCompound = false → motive v regular) {v : Value}
    (regular : h.Regular v) : motive v regular := by
  induction bound : h.rank v using Nat.strong_induction_on generalizing v with
  | h n smaller =>
    subst bound
    -- Within one rank the value can only get smaller through tuples.
    induction v using Value.tupleInduction with
    | tuple items inner =>
      refine tuple items regular fun x inside => ?_
      have within : h.Inside x (.tuple items) := inside
      refine inner x inside (regular.of_inside within) fun m less y hy same => ?_
      exact smaller m (less.trans_le (rank_le_of_inside within)) hy same
    | other v notTuple =>
      match v with
      | .list id =>
        exact list id regular fun x inside =>
          smaller _ (regular.rank_lt_list inside) (regular.of_inside inside) rfl
      | .dict id =>
        exact dict id regular fun e member =>
          smaller _ (regular.rank_lt_dict member) (regular.of_inside (inside_dict member)) rfl
      | .set id => exact set id regular
      | .tuple items => exact absurd rfl (notTuple items)
      | .none | .bool _ | .int _ | .str _ | .generator .. | .function .. | .builtin _
      | .method .. | .exceptionClass _ | .classObject .. | .exception .. =>
        exact atom _ regular rfl

end Heap

end MeteredScript
