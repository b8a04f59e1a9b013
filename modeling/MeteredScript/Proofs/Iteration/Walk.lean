import MeteredScript.Proofs.Augmented.Combination

/-!
# Walking through a container

Taking items from anything but a generator runs no code of the script and
changes nothing, so the items that a cursor will give can be read off the heap
(`Cursor.ahead?`). Two ways to go through them are compared with that: taking
one item after the other from an unchanging machine (`Cursor.Walks`), which is
what the protocol of iteration says, and `Evaluator.collect`, which also pays
for the items or reads them all at once. What is made of the items is often a
new list (`Heap.OneListMore`).
-/

namespace MeteredScript

variable {ev : Evaluator} {m : Machine} {cursor cursor' : Cursor} {x v : Value}
  {xs ys : List Value}

namespace Cursor

/-- **The items that lie ahead** of a cursor, if they can be read off the
heap. -/
def ahead? (h : Heap) : Cursor → Option (List Value)
  | .list id next => some ((h.list id).toList.drop next)
  | .items rest => some rest
  | .generator _ => none

theorem on_next?_of_nil (ev : Evaluator) (ahead : cursor.ahead? m.heap = some []) :
    (ev.next? cursor).on m = (.ok none, m) := by
  cases cursor with
  | list id next =>
    have ends : (m.heap.list id)[next]? = none := by
      simpa [ahead?] using ahead
    rw [Evaluator.next?, Eval.on_bind_ok (Eval.on_heap m), ends, Eval.on_pure]
  | items rest =>
    obtain rfl : rest = [] := Option.some.inj ahead
    rfl
  | generator => cases ahead

theorem on_next?_of_cons (ev : Evaluator) (ahead : cursor.ahead? m.heap = some (x :: xs)) :
    ∃ cursor', (ev.next? cursor).on m = (.ok (some (x, cursor')), m) ∧
      cursor'.ahead? m.heap = some xs := by
  cases cursor with
  | list id next =>
    have ahead : (m.heap.list id).toList.drop next = x :: xs := Option.some.inj ahead
    have here : (m.heap.list id)[next]? = some x := by
      have first : ((m.heap.list id).toList.drop next)[0]? = some x := by rw [ahead]; rfl
      simpa using first
    have rest : (m.heap.list id).toList.drop (next + 1) = xs := by
      simpa using congrArg List.tail ahead
    refine ⟨.list id (next + 1), ?_, congrArg some rest⟩
    rw [Evaluator.next?, Eval.on_bind_ok (Eval.on_heap m), here, Eval.on_pure]
  | items rest =>
    obtain rfl : rest = x :: xs := Option.some.inj ahead
    exact ⟨.items xs, rfl, rfl⟩
  | generator => cases ahead

/-- **A cursor gives items one after the other** and then no more, and the
machine is what it was. -/
inductive Walks (ev : Evaluator) (m : Machine) : Cursor → List Value → Prop
  | done {cursor : Cursor} (ends : (ev.next? cursor).on m = (.ok none, m)) : Walks ev m cursor []
  | item {cursor cursor' : Cursor} {x : Value} {xs : List Value}
    (next : (ev.next? cursor).on m = (.ok (some (x, cursor')), m)) (rest : Walks ev m cursor' xs) :
    Walks ev m cursor (x :: xs)

/-- The items that lie ahead are given. -/
theorem walks_of_ahead (ahead : cursor.ahead? m.heap = some xs) : cursor.Walks ev m xs := by
  induction xs generalizing cursor with
  | nil => exact .done (on_next?_of_nil ev ahead)
  | cons x xs ih =>
    obtain ⟨cursor', next, ahead'⟩ := on_next?_of_cons ev ahead
    exact .item next (ih ahead')

/-- No others are. -/
theorem Walks.unique (walks : cursor.Walks ev m xs) (walks' : cursor.Walks ev m ys) : xs = ys := by
  induction walks generalizing ys with
  | done ends =>
    cases walks' with
    | done => rfl
    | item next => simp [ends] at next
  | item next _ ih =>
    cases walks' with
    | done ends => simp [ends] at next
    | item next' rest' =>
      simp only [next, Prod.mk.injEq, Except.ok.injEq, Option.some.injEq, and_true] at next'
      obtain ⟨rfl, rfl⟩ := next'
      rw [ih rest']

end Cursor

/-! ## Collecting -/

namespace Value

/-- The values that hold items of their own. -/
def isContainer : Value → Bool
  | str _ | list _ | tuple _ | dict _ | set _ => true
  | _ => false

/-- **The items of a container**, in the order of iteration. -/
def items? (h : Heap) (v : Value) : Option (List Value) :=
  (Cursor.ofValue h v).toOption.bind (Cursor.ahead? h)

theorem exists_items (h : Heap) (container : v.isContainer = true) :
    ∃ xs, v.items? h = some xs := by
  cases v <;> first | exact ⟨_, rfl⟩ | cases container

end Value

/-- Paying for an item changes the gas only, and it can be paid if the limit
allows. -/
theorem Eval.on_tick (m : Machine) : ∃ r gas, Eval.tick.on m = (r, { m with gas }) ∧
    gas ≤ m.gas + 1 ∧ (r = .ok () ∨ r = .error .gasExhausted) ∧
    (m.gas < m.config.gasLimit → r = .ok ()) := by
  refine ⟨_, _, Eval.on_charge 1 m, Nat.min_le_left _ _, ?_, fun enough => if_neg ?_⟩
  · split
    · exact .inr rfl
    · exact .inl rfl
  · have := Nat.min_le_left (m.gas + 1) Eval.gasCeiling
    omega

/-- The turn of collecting: an item is paid for and kept. -/
def Evaluator.keepItem (items : Array Value) (item : Value) : Eval (ForInStep (Array Value)) := do
  Eval.tick
  return .yield (items.push item)

/-- What collecting the items that lie ahead comes to: it runs out of gas, or of
rounds, or has them all; and only the gas changes, by at most one unit for each. -/
theorem Cursor.on_collect_ahead (ev : Evaluator) (ahead : cursor.ahead? m.heap = some xs)
    (rounds : Nat) (items : Array Value) :
    ∃ r gas, (ev.iterate Evaluator.keepItem rounds cursor items).on m = (r, { m with gas }) ∧
      gas ≤ m.gas + xs.length ∧ (∀ items', r = .ok items' → items' = items ++ xs) ∧
      (xs.length < rounds → m.gas + xs.length ≤ m.config.gasLimit → r = .ok (items ++ xs)) := by
  -- The induction is on the rounds, and the heap, hence what lies ahead, stays through all.
  induction rounds generalizing m cursor xs items with
  | zero =>
    exact ⟨.error .endless, m.gas, rfl, Nat.le_add_right _ _, fun _ same => (nomatch same),
      fun few => absurd few (Nat.not_lt_zero _)⟩
  | succ rounds ih =>
    cases xs with
    | nil =>
      refine ⟨.ok items, m.gas, ?_, Nat.le_refl _, fun _ same => by simpa using same.symm,
        fun _ _ => by simp⟩
      rw [Evaluator.iterate, Eval.on_bind_ok (on_next?_of_nil ev ahead)]
      rfl
    | cons x xs =>
      obtain ⟨cursor', next, ahead'⟩ := on_next?_of_cons ev ahead
      obtain ⟨r, gas, paid, once, ends, enough⟩ := Eval.on_tick m
      rw [Evaluator.iterate, Eval.on_bind_ok next]
      dsimp only [Evaluator.keepItem]
      rw [bind_assoc]
      rcases ends with rfl | rfl
      · obtain ⟨r, gas', collected, price, made, enough'⟩ :=
          ih (m := { m with gas }) ahead' (items.push x)
        dsimp only at price
        rw [Eval.on_bind_ok paid, pure_bind]
        refine ⟨r, gas', collected, ?_, fun items' same => ?_, fun many within => ?_⟩
        · rw [List.length_cons]
          omega
        · rw [made items' same]
          simp
        · rw [List.length_cons] at many within
          have fits : gas + xs.length ≤ m.config.gasLimit := by omega
          rw [enough' (by omega) fits]
          simp
      · rw [Eval.on_bind_error paid, List.length_cons]
        refine ⟨_, gas, rfl, by omega, fun _ same => (nomatch same), fun _ within => ?_⟩
        exact absurd (enough (by omega)) (by simp)

/-- Collecting the items of a container costs at most one unit of gas for each, and gives them
if there is enough of it. -/
theorem Evaluator.exists_on_collect (ev : Evaluator) (items : v.items? m.heap = some xs) :
    ∃ r gas, (ev.collect v).on m = (r, { m with gas }) ∧
      gas ≤ m.gas + xs.length ∧ (∀ items', r = .ok items' → items'.toList = xs) ∧
      (xs.length < ev.rounds → m.gas + xs.length ≤ m.config.gasLimit → r = .ok xs.toArray) := by
  -- Lists and tuples are read at once, and the others along a cursor.
  by_cases sequence : v.isSequence = true
  · cases v with
    | list | tuple =>
      obtain rfl := Option.some.inj items
      exact ⟨_, m.gas, rfl, Nat.le_add_right _ _, fun items' same => by cases same; simp,
        fun _ _ => by simp⟩
    | _ => cases sequence
  · obtain ⟨cursor, start, ahead⟩ : ∃ cursor, Cursor.ofValue m.heap v = .ok cursor ∧
        cursor.ahead? m.heap = some xs := by
      cases v <;> first | exact ⟨_, rfl, items⟩ | cases items
    obtain ⟨r, gas, collected, price, made, enough⟩ :=
      Cursor.on_collect_ahead ev ahead ev.rounds #[]
    have walked : (ev.collect v).on m = (startIteration v >>= fun cursor =>
        ev.iterate keepItem ev.rounds cursor #[] : Eval _).on m := by
      cases v <;> first | rfl | exact absurd rfl sequence
    refine ⟨r, gas, ?_, price, fun items' same => ?_, fun many within => ?_⟩
    · rw [walked, startIteration, bind_assoc, Eval.on_bind_ok (Eval.on_heap m), start,
        Eval.on_bind_ok (Eval.on_ofFault_ok m cursor), collected]
    · rw [made items' same]
      simp
    · rw [enough many within]
      simp

/-- **Collecting the items of a container** touches nothing but the gas, and
gives the items if there is enough of it. -/
theorem Evaluator.on_collect_of_items (ev : Evaluator) (items : v.items? m.heap = some xs) :
    ∃ r gas, (ev.collect v).on m = (r, { m with gas }) ∧
      (∀ items', r = .ok items' → items'.toList = xs) ∧
      (xs.length < ev.rounds → m.gas + xs.length ≤ m.config.gasLimit → r = .ok xs.toArray) := by
  obtain ⟨r, gas, collected, -, rest⟩ := ev.exists_on_collect items
  exact ⟨r, gas, collected, rest⟩

/-! ## Lists made of items -/

namespace Heap

/-- **A heap with one list more.** -/
structure OneListMore (before after : Heap) (id : ListId) (items : List Value) : Prop where
  /-- The list was not there before. -/
  new : before.lists.size ≤ id.index
  /-- These are its items. -/
  items : (after.list id).toList = items
  /-- Everything else is as it was. -/
  lists : ∀ a, a ≠ id → after.list a = before.list a
  dicts : ∀ a, after.dict a = before.dict a
  sets : ∀ a, after.set a = before.set a

theorem oneListMore_newList (h : Heap) (items : List Value) :
    h.OneListMore (h.newList items.toArray).2 (h.newList items.toArray).1 items where
  new := Nat.le_refl _
  items := by simp
  lists a other := by
    have apart : a.index ≠ h.lists.size := fun same => other (by cases a; simp_all [newList])
    simp [list, newList, Array.getD_eq_getD_getElem?, Array.getElem?_push, apart]
  dicts _ := rfl
  sets _ := rfl

end Heap

theorem Eval.exists_on_placeList (m : Machine) (items : List Value) :
    ∃ id heap, (Eval.place (.list items.toArray)).on m = (.ok (.list id), { m with heap }) ∧
      m.heap.OneListMore heap id items :=
  ⟨_, _, rfl, m.heap.oneListMore_newList items⟩

end MeteredScript
