import MeteredScript.Proofs.Augmented.Combination
import MeteredScript.Proofs.Leaves
import MeteredScript.Proofs.SetAlgebra.Operator

/-!
# Mutations that fail

A list, dict or set is changed by its methods, by storing to an item, and by an operator in
place. Each of these first checks what it is given, then drains the argument that it goes
through, if there is one, and writes last. Nothing that can fail comes after the writing. So a
failure leaves the receiver as it was, unless the draining, which may run code of the script,
changed it (`Mutation.intact`).

The one exception writes more than once: `update` of a set adds the drained items one by one, and
stops at the first that cannot be in a set. `FailedUpdate` says what that leaves behind.
-/

namespace MeteredScript

open Eval

variable {α β : Type}

/-! ## Evaluations and containers -/

namespace Eval

/-- What changes no container, however it ends. -/
abbrev Spares (x : Eval α) : Prop := Leaves Machine.heap x

/-- What does not fail. -/
def Succeeds (x : Eval α) : Prop := ∀ m, ∃ a n, x.on m = (.ok a, n)

/-- **What changes containers only if it succeeds.** -/
def AllOrNothing (x : Eval α) : Prop := ∀ m s n, x.on m = (.error s, n) → n.heap = m.heap

theorem Spares.abort : Spares Eval.abort := fun _ => rfl

theorem Spares.reprHolding (held : List Guard) (v : Value) : Spares (Eval.reprHolding held v) :=
  Leaves.heap.bind fun _ => .ite (abort.bind fun _ => .repr v) (.repr v)

namespace Succeeds

theorem pure (a : α) : Succeeds (Pure.pure a) := fun m => ⟨a, m, rfl⟩

theorem modifyHeap (f : Heap → Heap) : Succeeds (Eval.modifyHeap f) := fun _ => ⟨(), _, rfl⟩

theorem place (c : Fresh) : Succeeds (Eval.place c) := fun _ => ⟨_, _, rfl⟩

theorem bind {x : Eval α} {f : α → Eval β} (hx : Succeeds x) (hf : ∀ a, Succeeds (f a)) :
    Succeeds (x >>= f) := by
  intro m
  obtain ⟨a, n, ran⟩ := hx m
  rw [on_bind_ok ran]
  exact hf a n

end Succeeds

namespace AllOrNothing

theorem of_spares {x : Eval α} (hx : Spares x) : AllOrNothing x := by
  intro m s n failed
  rw [← hx m, failed]

theorem of_succeeds {x : Eval α} (hx : Succeeds x) : AllOrNothing x := by
  intro m s n failed
  obtain ⟨a, n', ran⟩ := hx m
  rw [ran] at failed
  cases failed

/-- Checks come before everything else. -/
theorem bind {x : Eval α} {f : α → Eval β} (hx : Spares x) (hf : ∀ a, AllOrNothing (f a)) :
    AllOrNothing (x >>= f) := by
  intro m s n failed
  have spared := hx m
  rw [on_bind] at failed
  generalize x.on m = o at spared failed
  obtain ⟨s' | a, n'⟩ := o
  · cases failed
    exact spared
  · exact (hf a n' s n failed).trans spared

theorem fail (f : Fault) : AllOrNothing (Eval.fail f : Eval α) := .of_spares (.fail f)

/-! ### Methods that drain nothing -/

theorem popItem (id : ListId) (index : Option Value) : AllOrNothing (popItem id index) := by
  refine bind .heap fun h => bind (.require _ _) fun _ => bind (.popIndex index) fun n => ?_
  cases resolvePosition (h.list id).size n with
  | none => exact fail _
  | some i =>
    exact bind .heap fun h => .of_succeeds ((Succeeds.modifyHeap _).bind fun _ => .pure _)

theorem requireMember (id : SetId) (key : HashKey) (item : Value) :
    Spares (requireMember id key item) :=
  Leaves.heap.bind fun _ => .ite (.pure ()) ((Spares.reprHolding _ item).bind fun _ => .fail _)

/-- A method of a set writes once and last, but for `update`, which takes more than one item. -/
theorem callSetMethod (ev : Evaluator) (id : SetId) {name : String} (arguments : List Value)
    (single : name ≠ "update") : AllOrNothing (callSetMethod ev id name arguments) := by
  have discarded (key : HashKey) : AllOrNothing (do discardKey id key; return Value.none) :=
    .of_succeeds ((Succeeds.modifyHeap _).bind fun _ => .pure _)
  unfold MeteredScript.callSetMethod
  split
  · -- `add` writes once its only item has a key
    refine bind (.checkCount _ _ _ _) fun _ => ?_
    rw [addItems, bind_assoc]
    refine bind (.ofTypeFault _) fun key => .of_succeeds ?_
    exact ((Succeeds.modifyHeap _).bind fun _ => .pure ()).bind fun _ => .pure _
  · exact absurd rfl single
  · exact bind (.checkCount _ _ _ _) fun _ => bind (.ofTypeFault _) fun key =>
      bind (requireMember id key _) fun _ => discarded key
  · exact bind (.checkCount _ _ _ _) fun _ => bind (.ofTypeFault _) discarded
  · exact fail _

/-- The methods of a dict write nothing but new lists. -/
theorem callDictMethod (id : DictId) (name : String) (arguments : List Value) :
    AllOrNothing (callDictMethod id name arguments) := by
  unfold MeteredScript.callDictMethod
  split
  · refine bind (.checkCount _ _ _ _) fun _ => bind (.ofTypeFault _) fun key => ?_
    refine bind .heap fun h => ?_
    cases (h.dict id).find? key with
    | none => exact .of_spares (.pure _)
    | some entry => exact .of_spares (.pure _)
  · exact bind (.checkCount _ _ _ _) fun _ => bind .heap fun h => .of_succeeds (.place _)
  · exact bind (.checkCount _ _ _ _) fun _ => bind .heap fun h => .of_succeeds (.place _)
  · exact bind (.checkCount _ _ _ _) fun _ => bind .heap fun h => .of_succeeds (.place _)
  · exact fail _

/-- Storing to an item writes once and last. -/
theorem storeItem (container key value : Value) : AllOrNothing (storeItem container key value) :=
  bind .heap fun _ => bind (.ofFault _) fun _ => .of_succeeds (.modifyHeap _)

end AllOrNothing

end Eval

variable {ev : Evaluator} {m m₁ n : Machine} {s : Stop} {receiver operand : Value}
  {name : String} {arguments : List Value} {op : BinaryOp}

theorem on_checkCount (function : String) (arguments : List Value) (least most : Nat)
    (m : Machine) :
    (checkCount function arguments least most).on m =
      if least ≤ arguments.length ∧ arguments.length ≤ most then (.ok (), m)
      else (.error (.fault (.typeFault (.argumentCount function least most arguments.length))),
        m) := by
  unfold checkCount
  split <;> rfl

/-- A count that is refused, or one argument. -/
theorem one_of_checkCount {function : String} {x : Unit → Eval α} {r : Except Stop α}
    (ran : (checkCount function arguments 1 1 >>= x).on m = (r, n)) :
    (arguments.length ≠ 1 ∧ n = m ∧
      r = .error (.fault (.typeFault (.argumentCount function 1 1 arguments.length)))) ∨
    ∃ v, arguments = [v] ∧ (x ()).on m = (r, n) := by
  rw [on_bind, on_checkCount] at ran
  split at ran
  · rename_i counted
    split at counted
    · rename_i one
      cases counted
      obtain ⟨v, rfl⟩ := List.length_eq_one_iff.1 (Nat.le_antisymm one.2 one.1)
      exact .inr ⟨v, rfl, ran⟩
    · cases counted
  · rename_i refused
    split at refused
    · cases refused
    · rename_i more
      cases refused
      cases ran
      exact .inl ⟨by omega, rfl, rfl⟩

/-! ## Draining -/

/-- What does not fail once an argument is drained fails only in the draining. -/
theorem failed_of_drain {v : Value} {x : Array Value → Eval α} (hx : ∀ items, Succeeds (x items))
    (failed : (ev.collect v >>= x).on m = (.error s, n)) :
    (ev.collect v).on m = (.error s, n) := by
  rw [on_bind] at failed
  split at failed
  · rename_i items m' drained
    obtain ⟨a, n', ran⟩ := hx items m'
    rw [ran] at failed
    cases failed
  · rename_i drained
    cases failed
    exact drained

/-- **A method of a list that fails** changed no container, or it is `extend` and fails in the
draining. -/
theorem callListMethod_failed {id : ListId}
    (failed : (callListMethod ev id name arguments).on m = (.error s, n)) :
    n.heap = m.heap ∨
      ∃ v, name = "extend" ∧ arguments = [v] ∧ (ev.collect v).on m = (.error s, n) := by
  unfold callListMethod at failed
  split at failed
  · refine .inl (AllOrNothing.bind (.checkCount _ _ _ _) (fun _ => ?_) m s n failed)
    exact .of_succeeds ((Succeeds.modifyHeap _).bind fun _ => .pure _)
  · obtain ⟨-, rfl, -⟩ | ⟨v, rfl, ran⟩ := one_of_checkCount failed
    · exact .inl rfl
    · refine .inr ⟨v, rfl, rfl, failed_of_drain (fun items => ?_) ran⟩
      exact (Succeeds.modifyHeap _).bind fun _ => .pure _
  · refine .inl (AllOrNothing.bind (.checkCount _ _ _ _) (fun _ => ?_) m s n failed)
    exact .popItem id _
  · exact .inl (AllOrNothing.fail _ m s n failed)

/-- **A combination in place that fails** changed no container, or it is `+=` on a list and fails
in the draining. -/
theorem combineInPlace_failed
    (failed : (combineInPlace ev op receiver operand).on m = (.error s, n)) :
    n.heap = m.heap ∨
      ∃ id, receiver = .list id ∧ op = .add ∧ (ev.collect operand).on m = (.error s, n) := by
  generalize drained : (drainOperand ev op receiver operand).on m = o
  obtain ⟨s' | items, m₁⟩ := o
  · have same := combineInPlace_of_drain_error drained
    rw [failed] at same
    cases same
    unfold drainOperand at drained
    split at drained
    · exact .inr ⟨_, rfl, rfl, drained⟩
    · cases drained
  · have course := combineInPlace_combines drained
    rw [failed] at course
    cases course with
    | refused s gas =>
      unfold drainOperand at drained
      split at drained
      · -- once the items of a list are drained, nothing refuses to append them
        refine absurd failed ?_
        rw [combineInPlace, on_bind_ok drained, on_modifyHeap]
        simp
      · cases drained
        exact .inl rfl

/-! ## All ways to change a container -/

/-- **What may change a container**: a call of a method of it, storing to an item of it, or an
operator in place. -/
inductive Mutation where
  | method (name : String) (arguments : List Value)
  | store (key value : Value)
  | combine (op : BinaryOp) (operand : Value)

namespace Mutation

/-- What evaluation does for it. -/
def run (ev : Evaluator) (receiver : Value) : Mutation → Eval Unit
  | method name arguments => do let _ ← callMethod ev receiver name arguments
  | store key value => storeItem receiver key value
  | combine op operand => combineInPlace ev op receiver operand

/-- The argument that it drains. -/
def drained? (receiver : Value) : Mutation → Option Value
  | method name arguments =>
    match receiver, name, arguments with
    | .list _, "extend", [v] | .set _, "update", [v] => some v
    | _, _, _ => none
  | store .. => none
  | combine op operand =>
    match receiver, op with
    | .list _, .add => some operand
    | _, _ => none

/-- Whether it is `update` of a set, which changes it item by item. -/
def isUpdate (receiver : Value) : Mutation → Prop
  | method name _ => name = "update" ∧ ∃ id, receiver = .set id
  | _ => False

/-- **Draining leaves the receiver alone**, however it ends. -/
def Undisturbed (ev : Evaluator) (receiver : Value) (m : Machine) (change : Mutation) : Prop :=
  ∀ v, change.drained? receiver = some v →
    ((ev.collect v).on m).2.heap.contents? receiver = m.heap.contents? receiver

variable {change : Mutation}

theorem on_run_method (failed : ((method name arguments).run ev receiver).on m = (.error s, n)) :
    (callMethod ev receiver name arguments).on m = (.error s, n) := by
  rw [run, on_bind] at failed
  split at failed
  · cases failed
  · rename_i stopped
    cases failed
    exact stopped

/-- What fails left the containers as they were, or as draining left them. -/
theorem heap_of_failed (single : ¬ change.isUpdate receiver)
    (container : (m.heap.contents? receiver).isSome)
    (failed : (change.run ev receiver).on m = (.error s, n)) :
    n.heap = m.heap ∨ ∃ v, change.drained? receiver = some v ∧
      (ev.collect v).on m = (.error s, n) := by
  cases change with
  | store key value => exact .inl (AllOrNothing.storeItem receiver key value m s n failed)
  | combine op operand =>
    obtain same | ⟨id, rfl, rfl, stopped⟩ := combineInPlace_failed failed
    · exact .inl same
    · exact .inr ⟨operand, rfl, stopped⟩
  | method name arguments =>
    have stopped := on_run_method failed
    cases receiver with
    | list id =>
      obtain same | ⟨v, rfl, rfl, undrained⟩ := callListMethod_failed stopped
      · exact .inl same
      · exact .inr ⟨v, rfl, undrained⟩
    | dict id => exact .inl (AllOrNothing.callDictMethod id name arguments m s n stopped)
    | set id =>
      have other : name ≠ "update" := fun same => single ⟨same, id, rfl⟩
      exact .inl (AllOrNothing.callSetMethod ev id arguments other m s n stopped)
    | _ => cases container

/-- **A mutation that fails leaves its receiver as it was.** -/
theorem intact (single : ¬ change.isUpdate receiver)
    (undisturbed : change.Undisturbed ev receiver m)
    (failed : (change.run ev receiver).on m = (.error s, n)) :
    n.heap.contents? receiver = m.heap.contents? receiver := by
  cases contents : m.heap.contents? receiver with
  | none =>
    -- what is no container has no contents in any heap
    cases receiver with
    | list | dict | set => cases contents
    | _ => rfl
  | some c =>
    have container : (m.heap.contents? receiver).isSome := by rw [contents]; rfl
    rw [← contents]
    obtain same | ⟨v, drains, stopped⟩ := heap_of_failed single container failed
    · rw [same]
    · have kept := undisturbed v drains
      rwa [stopped] at kept

end Mutation

/-! ## Updates of a set -/

/-- Put items into a set in their order. Those that cannot be in a set are left out. -/
def ItemTable.addAll (t : ItemTable) : List Value → ItemTable
  | [] => t
  | item :: rest =>
    match item.hashKey with
    | .ok key => addAll (t.insertNew key item) rest
    | .error _ => addAll t rest

/-- **Items were added to a table**: what was there stays in front, behind it are items of the
given ones in their order, and it now has the keys of all of them. -/
structure ItemTable.Added (t : ItemTable) (items : List Value) (t' : ItemTable) : Prop where
  behind : ∃ added : List (HashKey × Value), t'.entries = t.entries ++ added ∧
    (added.map Prod.snd).Sublist items
  keys (k : HashKey) : t'.contains k = true ↔
    t.contains k = true ∨ ∃ item ∈ items, item.hashKey = .ok k

/-- Items that all have keys. -/
def AllHashed (items : List Value) : Prop := ∀ item ∈ items, ∃ k, item.hashKey = .ok k

namespace ItemTable

variable {t t' t'' : ItemTable} {items items' : List Value}

theorem Added.refl (t : ItemTable) : t.Added [] t := ⟨⟨[], by simp⟩, by simp⟩

theorem Added.trans (first : t.Added items t') (second : t'.Added items' t'') :
    t.Added (items ++ items') t'' := by
  obtain ⟨⟨added, entries, sublist⟩, keys⟩ := first
  obtain ⟨⟨added', entries', sublist'⟩, keys'⟩ := second
  refine ⟨⟨added ++ added', by rw [entries', entries, List.append_assoc], ?_⟩, fun k => ?_⟩
  · rw [List.map_append]
    exact sublist.append sublist'
  · rw [keys', keys, or_assoc]
    simp only [List.mem_append, or_and_right, exists_or]

theorem added_insertNew (t : ItemTable) {item : Value} {key : HashKey}
    (hashed : item.hashKey = .ok key) : t.Added [item] (t.insertNew key item) := by
  refine ⟨?_, fun k => ?_⟩
  · unfold Table.insertNew
    split
    · exact ⟨[], by simp⟩
    · exact ⟨[(key, item)], by simp⟩
  · rw [Table.contains_insertNew, Bool.or_eq_true, beq_iff_eq, or_comm, @eq_comm _ k key]
    simp only [List.mem_singleton, exists_eq_left, hashed, Except.ok.injEq]

theorem added_of_error (t : ItemTable) {item : Value} {why : TypeFault}
    (refused : item.hashKey = .error why) : t.Added [item] t :=
  ⟨⟨[], by simp⟩, by simp [refused]⟩

theorem added_addAll (t : ItemTable) (items : List Value) : t.Added items (t.addAll items) := by
  induction items generalizing t with
  | nil => exact .refl t
  | cons item rest ih =>
    cases hashed : item.hashKey with
    | ok key =>
      rw [addAll, hashed]
      exact (t.added_insertNew hashed).trans (ih _)
    | error why =>
      rw [addAll, hashed]
      exact (t.added_of_error hashed).trans (ih t)

end ItemTable

theorem Heap.modifySet_modifySet (h : Heap) (id : SetId) (f g : ItemTable → ItemTable) :
    (h.modifySet id f).modifySet id g = h.modifySet id fun t => g (f t) := by
  simp only [modifySet, Heap.mk.injEq, true_and]
  refine Array.ext_getElem? fun i => ?_
  simp only [Array.getElem?_modify]
  split
  · rw [Option.map_map]
    rfl
  · rfl

theorem Heap.modifySet_self (h : Heap) (id : SetId) : h.modifySet id (fun t => t) = h := by
  have same : h.sets.modify id.index (fun t => t) = h.sets := by
    refine Array.ext_getElem? fun i => ?_
    rw [Array.getElem?_modify]
    split
    · exact Option.map_id'
    · rfl
  rw [modifySet, same]

/-- Items that have keys are all added. -/
theorem on_addItems (id : SetId) {items : List Value} (hashable : AllHashed items) (m : Machine) :
    (addItems id items).on m =
      (.ok (), { m with heap := m.heap.modifySet id (ItemTable.addAll · items) }) := by
  induction items generalizing m with
  | nil =>
    have same : m.heap.modifySet id (ItemTable.addAll · []) = m.heap := m.heap.modifySet_self id
    rw [same]
    rfl
  | cons item rest ih =>
    obtain ⟨key, hashed⟩ := hashable item List.mem_cons_self
    have next : (Eval.ofTypeFault item.hashKey).on m = (.ok key, m) := by
      rw [hashed]
      rfl
    rw [addItems, on_bind_ok next, on_bind_ok (on_modifyHeap m _),
      ih fun item member => hashable item (List.mem_cons_of_mem _ member)]
    simp only [Heap.modifySet_modifySet, ItemTable.addAll, hashed]

/-- Items are added in two parts like in one. -/
theorem on_addItems_append (id : SetId) (before after : List Value) :
    addItems id (before ++ after) = (do addItems id before; addItems id after) := by
  induction before with
  | nil => rfl
  | cons item rest ih => simp only [List.cons_append, addItems, ih, bind_assoc]

/-- The items before the first that cannot be in a set. -/
theorem hashable_or_split (items : List Value) :
    AllHashed items ∨ ∃ before bad after why, items = before ++ bad :: after ∧
      AllHashed before ∧ bad.hashKey = .error why := by
  induction items with
  | nil => exact .inl fun _ member => nomatch member
  | cons item rest ih =>
    cases hashed : item.hashKey with
    | error why =>
      have none : AllHashed [] := fun _ member => nomatch member
      exact .inr ⟨[], item, rest, why, rfl, none, hashed⟩
    | ok key =>
      have first : ∃ k, item.hashKey = .ok k := ⟨key, hashed⟩
      obtain all | ⟨before, bad, after, why, rfl, all, refused⟩ := ih
      · exact .inl (List.forall_mem_cons.2 ⟨first, all⟩)
      · exact .inr ⟨item :: before, bad, after, why, rfl, List.forall_mem_cons.2 ⟨first, all⟩,
          refused⟩

/-- **What an update of a set that fails leaves behind.** -/
inductive FailedUpdate (ev : Evaluator) (id : SetId) (m : Machine) :
    List Value → Stop → Machine → Prop
  /-- There is not one argument. Nothing is drained and nothing added. -/
  | miscounted {arguments : List Value} (count : arguments.length ≠ 1) :
    FailedUpdate ev id m arguments
      (.fault (.typeFault (.argumentCount "update" 1 1 arguments.length))) m
  /-- The draining fails. That is all that happens. -/
  | undrained {v : Value} {s : Stop} {n : Machine} (stopped : (ev.collect v).on m = (.error s, n)) :
    FailedUpdate ev id m [v] s n
  /-- An item cannot be in a set. The items before it were added, and nothing else. -/
  | unhashable {v bad : Value} {items : Array Value} {before after : List Value}
    {why : TypeFault} {n : Machine} (drained : (ev.collect v).on m = (.ok items, n))
    (split : items.toList = before ++ bad :: after) (hashable : AllHashed before)
    (refused : bad.hashKey = .error why)
    (added : n.heap.Has (.set id) → (n.heap.set id).Added before
      ((n.heap.modifySet id (ItemTable.addAll · before)).set id)) :
    FailedUpdate ev id m [v] (.fault (.typeFault why))
      { n with heap := n.heap.modifySet id (ItemTable.addAll · before) }

theorem update_failed {id : SetId}
    (failed : (callMethod ev (.set id) "update" arguments).on m = (.error s, n)) :
    FailedUpdate ev id m arguments s n := by
  have failed : (callSetMethod ev id "update" arguments).on m = (.error s, n) := failed
  rw [callSetMethod] at failed
  obtain ⟨count, rfl, stopped⟩ | ⟨v, rfl, ran⟩ := one_of_checkCount failed
  · cases stopped
    exact .miscounted count
  · rw [on_bind] at ran
    split at ran
    · rename_i items m₁ drained
      obtain all | ⟨before, bad, after, why, split, hashable, refused⟩ :=
        hashable_or_split items.toList
      · rw [on_bind_ok (on_addItems id all m₁)] at ran
        cases ran
      · have stopped (m : Machine) : (addItems id (bad :: after)).on m =
            (.error (.fault (.typeFault why)), m) := by
          rw [addItems, refused]
          rfl
        rw [split, on_addItems_append, bind_assoc, on_bind_ok (on_addItems id hashable m₁),
          on_bind_error (stopped _)] at ran
        cases ran
        refine .unhashable drained split hashable refused fun has => ?_
        rw [Heap.set_modifySet has, if_pos rfl]
        exact ItemTable.added_addAll _ _
    · rename_i stopped
      cases ran
      exact .undrained stopped

/-! ## Both together -/

/-- **What mutations of a value that fail leave behind.** -/
structure FailsIntact (ev : Evaluator) (receiver : Value) : Prop where
  /-- Every one but an update of a set leaves the contents as they were, and in their order, if
  draining its argument does. -/
  intact (m n : Machine) (s : Stop) (change : Mutation) : ¬ change.isUpdate receiver →
    change.Undisturbed ev receiver m → (change.run ev receiver).on m = (.error s, n) →
    n.heap.contents? receiver = m.heap.contents? receiver
  /-- An update adds the items before the first that cannot be in a set. -/
  updated (m n : Machine) (s : Stop) (id : SetId) (arguments : List Value) : receiver = .set id →
    (callMethod ev receiver "update" arguments).on m = (.error s, n) →
    FailedUpdate ev id m arguments s n

/-- **Mutations that fail leave their receiver intact.** -/
theorem failed_mutations_leave_receiver_intact (ev : Evaluator) (receiver : Value) :
    FailsIntact ev receiver where
  intact _ _ _ _ := Mutation.intact
  updated := by
    rintro m n s id arguments rfl failed
    exact update_failed failed

end MeteredScript
