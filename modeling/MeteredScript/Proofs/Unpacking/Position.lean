import MeteredScript.Proofs.Iteration.Walk
import MeteredScript.Syntax.Names

/-!
# Targets and values, position by position

A target that consists of names, tuples and lists is laid out like the value that it takes
apart: each of its names stands for the part of the value at the same position. `Unpacks` says
what an assignment makes of that, without following the recursion of the assignment. Positions
are taken from the left, a tuple or list before its own parts. Up to the first one where target
and value have different numbers of parts, the names are bound to the items that stand there.
From that position on, nothing is bound.

The lemmas below build such a description along the syntax: for one name
(`Unpacks.name`), for a display from what is in it (`Unpacks.display`), and for what is in it
from its first part and the others (`Unpacks.cons`).
-/

namespace MeteredScript

/-! ## Positions -/

section Parts

variable {α : Type} {parts : α → Option (List α)} {a : α} {as : List α} {i : Nat} {p : List Nat}

/-- **The part at a position**: the position says which part to go to, and which part of that, and
so on. -/
def partAt? (parts : α → Option (List α)) (a : α) : List Nat → Option α
  | [] => some a
  | i :: p => do
    let inside ← parts a
    let part ← inside[i]?
    partAt? parts part p

/-- The same, starting with one of several things. -/
def partAmong? (parts : α → Option (List α)) (as : List α) : List Nat → Option α
  | [] => none
  | i :: p => do
    let part ← as[i]?
    partAt? parts part p

@[simp] theorem partAt?_nil : partAt? parts a [] = some a := rfl

@[simp] theorem partAmong?_nil : partAmong? parts as [] = none := rfl

theorem partAt?_cons (inside : parts a = some as) :
    partAt? parts a (i :: p) = partAmong? parts as (i :: p) := by
  simp [partAt?, partAmong?, inside]

/-- What has no parts has nothing but itself. -/
theorem partAt?_of_none (bare : parts a = none) {b : α} :
    partAt? parts a p = some b ↔ p = [] ∧ a = b := by
  cases p <;> simp [partAt?, bare]

@[simp] theorem partAmong?_nil_left : partAmong? parts [] p = none := by
  cases p <;> simp [partAmong?]

@[simp] theorem partAmong?_zero : partAmong? parts (a :: as) (0 :: p) = partAt? parts a p := by
  simp [partAmong?]

@[simp] theorem partAmong?_succ :
    partAmong? parts (a :: as) ((i + 1) :: p) = partAmong? parts as (i :: p) := by
  simp [partAmong?]

end Parts

namespace Expr

/-- What a tuple or list consists of. -/
def display? : Expr → Option (List Expr)
  | .tuple parts | .list parts => some parts
  | _ => Option.none

/-- **Targets that take a value apart**: names, and tuples and lists of such targets. -/
inductive IsLayout : Expr → Prop
  | name (id : String) : IsLayout (.name id)
  | display {e : Expr} {parts : List Expr} (shown : e.display? = some parts)
    (each : ∀ t ∈ parts, IsLayout t) : IsLayout e

/-- The part of a target at a position. -/
abbrev part? (e : Expr) : List Nat → Option Expr := partAt? display? e

end Expr

/-- No name stands at two positions. -/
def NamesApart (T : List Nat → Option Expr) : Prop :=
  ∀ p q x, T p = some (.name x) → T q = some (.name x) → p = q

section Names

variable {e : Expr} {ts : List Expr} {x : String} {p : List Nat}

namespace Expr

theorem names_of_display (shown : e.display? = some ts) : e.names = exprsNames ts := by
  cases e with
  | tuple parts | list parts =>
    cases shown
    rw [names]
  | _ => cases shown

theorem display?_ne_name (shown : e.display? = some ts) : e ≠ .name x := by
  rintro rfl
  cases shown

end Expr

theorem mem_exprsNames_of_partAmong?
    (each : ∀ t ∈ ts, ∀ {p}, t.part? p = some (.name x) → x ∈ t.names)
    (there : partAmong? Expr.display? ts p = some (.name x)) : x ∈ exprsNames ts := by
  induction ts generalizing p with
  | nil => simp at there
  | cons t ts ih =>
    rw [exprsNames, List.mem_append]
    cases p with
    | nil => cases there
    | cons i p =>
      cases i with
      | zero => exact .inl (each t List.mem_cons_self (by simpa using there))
      | succ i =>
        exact .inr (ih (fun t' mem => each t' (List.mem_cons_of_mem t mem)) (by simpa using there))

namespace Expr.IsLayout

theorem mem_names (layout : e.IsLayout) {p : List Nat} (there : e.part? p = some (.name x)) :
    x ∈ e.names := by
  induction layout generalizing p with
  | name id =>
    obtain ⟨-, same⟩ := (partAt?_of_none rfl).1 there
    cases same
    simp [Expr.names]
  | @display e ts shown _ ih =>
    cases p with
    | nil => exact absurd (Option.some.inj there) (Expr.display?_ne_name shown)
    | cons i p =>
      rw [Expr.names_of_display shown]
      exact mem_exprsNames_of_partAmong? (fun t mem => ih t mem)
        ((partAt?_cons shown).symm.trans there)

end Expr.IsLayout

theorem namesApart_among (layouts : ∀ t ∈ ts, t.IsLayout)
    (each : ∀ t ∈ ts, t.names.Nodup → NamesApart t.part?) (nodup : (exprsNames ts).Nodup) :
    NamesApart (partAmong? Expr.display? ts) := by
  induction ts with
  | nil => exact fun p q x there => by simp at there
  | cons t ts ih =>
    rw [exprsNames, List.nodup_append] at nodup
    obtain ⟨first, rest, disjoint⟩ := nodup
    have inFirst {p x} (there : t.part? p = some (.name x)) : x ∈ t.names :=
      (layouts t List.mem_cons_self).mem_names there
    have inRest {p x} (there : partAmong? Expr.display? ts p = some (.name x)) :
        x ∈ exprsNames ts :=
      mem_exprsNames_of_partAmong?
        (fun t' mem => (layouts t' (List.mem_cons_of_mem t mem)).mem_names) there
    have apart := ih (fun t' mem => layouts t' (List.mem_cons_of_mem t mem))
      (fun t' mem => each t' (List.mem_cons_of_mem t mem)) rest
    rintro (_ | ⟨_ | i, p⟩) (_ | ⟨_ | j, q⟩) x there there' <;>
      simp only [partAmong?_nil, partAmong?_zero, partAmong?_succ, reduceCtorEq] at there there'
    · rw [each t List.mem_cons_self first p q x there there']
    · exact absurd rfl (disjoint x (inFirst there) x (inRest there'))
    · exact absurd rfl (disjoint x (inFirst there') x (inRest there))
    · obtain ⟨rfl, rfl⟩ := List.cons.inj (apart _ _ x there there')
      rfl

/-- Names that are all different stand at one position each. -/
theorem Expr.IsLayout.namesApart (layout : e.IsLayout) (nodup : e.names.Nodup) :
    NamesApart e.part? := by
  induction layout with
  | name id =>
    intro p q x there there'
    rw [((partAt?_of_none rfl).1 there).1, ((partAt?_of_none rfl).1 there').1]
  | @display e ts shown layouts ih =>
    rw [Expr.names_of_display shown] at nodup
    have apart := namesApart_among layouts ih nodup
    rintro (_ | ⟨i, p⟩) (_ | ⟨j, q⟩) x there there'
    · rfl
    · exact absurd (Option.some.inj there) (Expr.display?_ne_name shown)
    · exact absurd (Option.some.inj there') (Expr.display?_ne_name shown)
    · exact apart _ _ x ((partAt?_cons shown).symm.trans there)
        ((partAt?_cons shown).symm.trans there')

end Names

/-- The item of a value at a position. -/
abbrev Value.part? (h : Heap) (v : Value) : List Nat → Option Value := partAt? (Value.items? h) v

/-! ## Counting parts -/

variable {h : Heap} {T T₁ : List Nat → Option Expr} {V V₁ : List Nat → Option Value}
  {p : List Nat} {i : Nat}

/-- How many targets there are at a position, where a tuple or list stands. -/
def targetsAt? (T : List Nat → Option Expr) (p : List Nat) : Option Nat :=
  ((T p).bind Expr.display?).map List.length

/-- How many items there are at a position. -/
def itemsAt? (h : Heap) (V : List Nat → Option Value) (p : List Nat) : Option Nat :=
  ((V p).bind (Value.items? h)).map List.length

/-- **A position where the numbers differ.** -/
structure Clash where
  /-- The position. -/
  position : List Nat
  /-- How many targets there are. -/
  targets : Nat
  /-- How many items there are. -/
  items : Nat

namespace Clash

/-- What an assignment reports. -/
def fault (c : Clash) : Fault :=
  if c.targets < c.items then .tooManyToUnpack c.targets else .notEnoughToUnpack c.targets c.items

/-- The numbers do differ there. -/
structure Holds (h : Heap) (T : List Nat → Option Expr) (V : List Nat → Option Value)
    (c : Clash) : Prop where
  targets : targetsAt? T c.position = some c.targets
  items : itemsAt? h V c.position = some c.items
  differ : c.targets ≠ c.items

/-- Nothing can clash where no target is. -/
theorem Holds.position_ne_nil {c : Clash} (holds : c.Holds h T V) (nothing : T [] = none) :
    c.position ≠ [] := by
  intro root
  have := holds.targets
  simp [root, targetsAt?, nothing] at this

/-- A clash in the first of several parts. -/
def inFirst (c : Clash) : Clash := { c with position := 0 :: c.position }

/-- A clash in the parts behind the first. -/
def inRest (c : Clash) : Clash :=
  { c with position := c.position.modifyHead (· + 1) }

/-- **Whether an assignment gets to a position**: it does unless there is a clash there or
before. -/
def Reached : Option Clash → List Nat → Prop
  | none, _ => True
  | some c, p => p < c.position

theorem reached_inFirst {c : Clash} : Reached (some c.inFirst) (0 :: p) ↔ Reached (some c) p := by
  simp [Reached, inFirst]

theorem not_reached_inFirst {c : Clash} : ¬ Reached (some c.inFirst) ((i + 1) :: p) := by
  intro before
  rcases List.cons_lt_cons_iff.1 before with before | ⟨same, -⟩ <;> omega

variable {stop : Option Clash} (later : ∀ c, stop = some c → c.position ≠ [])

include later

theorem reached_inRest_zero : Reached (stop.map inRest) (0 :: p) := by
  match stop with
  | none => trivial
  | some ⟨[], _, _⟩ => exact absurd rfl (later _ rfl)
  | some ⟨j :: q, _, _⟩ => simp [Reached, inRest, List.cons_lt_cons_iff]

theorem reached_inRest_succ :
    Reached (stop.map inRest) ((i + 1) :: p) ↔ Reached stop (i :: p) := by
  match stop with
  | none => simp [Reached]
  | some ⟨[], _, _⟩ => exact absurd rfl (later _ rfl)
  | some ⟨j :: q, _, _⟩ => simp [Reached, inRest, List.cons_lt_cons_iff]

end Clash

open Clash

/-! ## What an assignment does -/

/-- **What an assignment makes of targets and items**: which names it binds to what, and where it
stops, if it does. -/
structure Unpacks (h : Heap) (T : List Nat → Option Expr) (V : List Nat → Option Value)
    (bound : List (String × Value)) (stop : Option Clash) : Prop where
  /-- The names are those it gets to, with the items at their positions. -/
  bound (x : String) (v : Value) :
    (x, v) ∈ bound ↔ ∃ p, Reached stop p ∧ T p = some (.name x) ∧ V p = some v
  /-- There are such items. -/
  given (p : List Nat) (x : String) : Reached stop p → T p = some (.name x) → ∃ v, V p = some v
  /-- Where it gets to, the numbers are the same. -/
  matched (p : List Nat) (n : Nat) : Reached stop p → targetsAt? T p = some n →
    itemsAt? h V p = some n
  /-- Where it stops, they are not. -/
  stopped (c : Clash) : stop = some c → c.Holds h T V

namespace Unpacks

variable {t : Expr} {ts : List Expr} {v : Value} {vs : List Value} {x : String}
  {bound bound₁ bound₂ : List (String × Value)} {stop : Option Clash} {c : Clash}

theorem part?_name {p : List Nat} {e : Expr} :
    (Expr.name x).part? p = some e ↔ p = [] ∧ .name x = e := partAt?_of_none rfl

/-- A name is bound. -/
theorem name (h : Heap) (x : String) (v : Value) :
    Unpacks h (Expr.name x).part? (v.part? h) [(x, v)] none where
  bound y w := by
    constructor
    · intro mem
      obtain ⟨rfl, rfl⟩ : y = x ∧ w = v := by simpa using mem
      exact ⟨[], trivial, rfl, rfl⟩
    · rintro ⟨p, -, there, item⟩
      obtain ⟨rfl, same⟩ := part?_name.1 there
      cases same
      cases item
      simp
  given p y _ there := by
    obtain ⟨rfl, -⟩ := part?_name.1 there
    exact ⟨v, rfl⟩
  matched p n _ there := by
    obtain ⟨parts, shown, -⟩ := Option.map_eq_some_iff.1 there
    obtain ⟨e, here, shown⟩ := Option.bind_eq_some_iff.1 shown
    obtain ⟨-, rfl⟩ := part?_name.1 here
    cases shown
  stopped _ same := nomatch same

/-- No targets and no items. -/
theorem nil : Unpacks h (partAmong? Expr.display? []) (partAmong? (Value.items? h) []) [] none where
  bound := by simp
  given := by simp
  matched := by simp [targetsAt?]
  stopped _ same := nomatch same

/-- **The parts of a display are taken on from the items**, if there are as many. -/
theorem display {e : Expr} (shown : e.display? = some ts) (items : v.items? h = some vs)
    (same : ts.length = vs.length)
    (inside : Unpacks h (partAmong? Expr.display? ts) (partAmong? (Value.items? h) vs) bound stop) :
    Unpacks h e.part? (v.part? h) bound stop where
  bound x w := by
    rw [inside.bound]
    refine exists_congr fun p => ?_
    cases p with
    | nil => cases e <;> simp_all [Expr.display?]
    | cons i p => rw [Expr.part?, Value.part?, partAt?_cons shown, partAt?_cons items]
  given p x reached there := by
    cases p with
    | nil => exact ⟨v, rfl⟩
    | cons i p =>
      rw [Expr.part?, partAt?_cons shown] at there
      rw [Value.part?, partAt?_cons items]
      exact inside.given _ x reached there
  matched p n reached there := by
    cases p with
    | nil =>
      obtain rfl : ts.length = n := by simpa [targetsAt?, shown] using there
      simp [itemsAt?, items, same]
    | cons i p =>
      rw [targetsAt?, Expr.part?, partAt?_cons shown] at there
      rw [itemsAt?, Value.part?, partAt?_cons items]
      exact inside.matched _ n reached there
  stopped c stops := by
    obtain ⟨targets, taken, differ⟩ := inside.stopped c stops
    obtain ⟨i, p, root⟩ := List.exists_cons_of_ne_nil
      ((inside.stopped c stops).position_ne_nil rfl)
    refine ⟨?_, ?_, differ⟩
    · rw [← targets, root, targetsAt?, targetsAt?, Expr.part?, partAt?_cons shown]
    · rw [← taken, root, itemsAt?, itemsAt?, Value.part?, partAt?_cons items]

/-- **Otherwise nothing is bound.** -/
theorem clash {e : Expr} (shown : e.display? = some ts) (items : v.items? h = some vs)
    (differ : ts.length ≠ vs.length) :
    Unpacks h e.part? (v.part? h) [] (some ⟨[], ts.length, vs.length⟩) where
  bound x w := by
    have none p : ¬ Reached (some ⟨[], ts.length, vs.length⟩) p := List.not_lt_nil p
    simp [none]
  given p _ reached := absurd reached (List.not_lt_nil p)
  matched p _ reached := absurd reached (List.not_lt_nil p)
  stopped c stops := by
    cases stops
    exact ⟨by simp [targetsAt?, shown], by simp [itemsAt?, items], differ⟩

/-- **The first of several parts stops the assignment**, and the others get nothing. -/
theorem stop_first (first : Unpacks h t.part? (v.part? h) bound (some c)) :
    Unpacks h (partAmong? Expr.display? (t :: ts)) (partAmong? (Value.items? h) (v :: vs)) bound
      (some c.inFirst) where
  bound x w := by
    rw [first.bound]
    constructor
    · rintro ⟨p, reached, there, item⟩
      exact ⟨0 :: p, reached_inFirst.2 reached, by simpa using there, by simpa using item⟩
    · rintro ⟨_ | ⟨_ | i, p⟩, reached, there, item⟩
      · cases there
      · exact ⟨p, reached_inFirst.1 reached, by simpa using there, by simpa using item⟩
      · exact absurd reached not_reached_inFirst
  given
    | [], _, _, there => nomatch there
    | 0 :: p, x, reached, there => by
      simpa using first.given p x (reached_inFirst.1 reached) (by simpa using there)
    | (i + 1) :: p, x, reached, _ => absurd reached not_reached_inFirst
  matched
    | [], _, _, there => nomatch there
    | 0 :: p, n, reached, there => by
      simpa [itemsAt?] using
        first.matched p n (reached_inFirst.1 reached) (by simpa [targetsAt?] using there)
    | (i + 1) :: p, n, reached, _ => absurd reached not_reached_inFirst
  stopped c' stops := by
    cases stops
    obtain ⟨targets, items, differ⟩ := first.stopped c rfl
    exact ⟨by simpa [targetsAt?, inFirst] using targets, by simpa [itemsAt?, inFirst] using items,
      differ⟩

/-- **The first of several parts is done with**, and the others come next. -/
theorem cons (first : Unpacks h t.part? (v.part? h) bound₁ none)
    (rest : Unpacks h (partAmong? Expr.display? ts) (partAmong? (Value.items? h) vs) bound₂ stop) :
    Unpacks h (partAmong? Expr.display? (t :: ts)) (partAmong? (Value.items? h) (v :: vs))
      (bound₁ ++ bound₂) (stop.map inRest) := by
  have later c (stops : stop = some c) := (rest.stopped c stops).position_ne_nil rfl
  constructor
  case bound =>
    intro x w
    rw [List.mem_append, first.bound, rest.bound]
    constructor
    · rintro (⟨p, -, there, item⟩ | ⟨_ | ⟨i, p⟩, reached, there, item⟩)
      · exact ⟨0 :: p, reached_inRest_zero later, by simpa using there, by simpa using item⟩
      · cases there
      · exact ⟨(i + 1) :: p, (reached_inRest_succ later).2 reached, by simpa using there,
          by simpa using item⟩
    · rintro ⟨_ | ⟨_ | i, p⟩, reached, there, item⟩
      · cases there
      · exact .inl ⟨p, trivial, by simpa using there, by simpa using item⟩
      · exact .inr ⟨i :: p, (reached_inRest_succ later).1 reached, by simpa using there,
          by simpa using item⟩
  case given =>
    rintro (_ | ⟨_ | i, p⟩) x reached there
    · cases there
    · simpa using first.given p x trivial (by simpa using there)
    · simpa using rest.given (i :: p) x ((reached_inRest_succ later).1 reached)
        (by simpa using there)
  case matched =>
    rintro (_ | ⟨_ | i, p⟩) n reached there
    · cases there
    · simpa [itemsAt?] using first.matched p n trivial (by simpa [targetsAt?] using there)
    · simpa [itemsAt?] using rest.matched (i :: p) n ((reached_inRest_succ later).1 reached)
        (by simpa [targetsAt?] using there)
  case stopped =>
    intro c' shifted
    obtain ⟨c, stops, rfl⟩ := Option.map_eq_some_iff.1 shifted
    obtain ⟨targets, items, differ⟩ := rest.stopped c stops
    obtain ⟨i, p, root⟩ := List.exists_cons_of_ne_nil (later c stops)
    rw [root] at targets items
    exact ⟨by simpa [targetsAt?, inRest, root] using targets,
      by simpa [itemsAt?, inRest, root] using items, differ⟩

end Unpacks

end MeteredScript
