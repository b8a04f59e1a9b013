import MeteredScript.Proofs.Equality.Coherence
import MeteredScript.Proofs.Printing.Shown
import MeteredScript.Proofs.Representation.Heap

/-!
# When printing ends

A list or dict that is met again inside itself is cut short, so however lists
and dicts contain one another, printing them ends. Sets are not cut short. A
set cannot be an item of what it contains, except that an exception object has
a key whatever it carries, and it may carry the set it is an item of. Printing
then goes round without end.

That is the only way. `printing_ends_iff` says that a value has no printed form
exactly if printing it comes to a set that stands *loosely* in itself, which is
to say through sets, tuples and exceptions alone. It also says that allowing
more containers inside one another than `Heap.printBound` changes nothing.

For one direction a loop has to be reached, although the lists and dicts on the
way are cut short when they are met again (`Leads`): a way that meets one twice
has a shorter one. For the other, a printing that does not end goes deeper than
there are lists and dicts to open and sets to pass between two of them, so it
meets one set twice (`Walk`).
-/

namespace MeteredScript

open Relation (ReflTransGen TransGen)

namespace Heap

variable (h : Heap)

/-- **Printing goes round**: it comes to a set that stands loosely in
itself. -/
def GoesRound (v : Value) : Prop :=
  ∃ id, ReflTransGen h.ShownIn (.set id) v ∧ TransGen h.LooselyIn (.set id) (.set id)

variable {h} {v x : Value} {depth : Nat} {opened : List Container} {c : Container}

theorem GoesRound.of_shownIn (round : h.GoesRound x) (inside : h.ShownIn x v) : h.GoesRound v := by
  obtain ⟨id, reached, loop⟩ := round
  exact ⟨id, reached.tail inside, loop⟩

/-! ## A loop is never printed -/

/-- A container that is not cut short has no printed form if one of its items has
none with less room. -/
theorem printWith_container_eq_none (inside : h.ShownIn x c.value)
    (new : c.value.isCut = true → c ∉ opened)
    (deeper : ∀ d < depth, x.printWith h (h.printContents? d) (c.openIn opened) = none) :
    c.value.printWith h (h.printContents? depth) opened = none := by
  refine printWith_container_eq_none_iff.2 ⟨new, ?_⟩
  cases depth with
  | zero => rfl
  | succ d => exact printContents?_succ_eq_none_iff.2 ⟨x, inside, deeper d (Nat.lt_succ_self d)⟩

/-- What shows something loosely has no printed form if that has none, however
much room there is. -/
theorem LooselyIn.printWith_eq_none (step : h.LooselyIn x v)
    (unprintable : ∀ d ≤ depth, x.printWith h (h.printContents? d) opened = none) :
    v.printWith h (h.printContents? depth) opened = none := by
  obtain ⟨loose, inside⟩ := step
  cases v with
  | set id =>
    exact printWith_container_eq_none (c := .set id) inside (fun cut => by cases cut)
      fun d less => unprintable d less.le
  | list id | dict id => cases loose
  | _ =>
    refine (printWith_other_eq_none_iff fun c => ?_).2 ⟨x, inside, unprintable depth le_rfl⟩
    cases c <;> simp [Container.value]

/-- **What shows a loop loosely has no printed form**, however many containers
may be opened. -/
theorem printWith_eq_none_of_loop {id : SetId} (loop : TransGen h.LooselyIn (.set id) (.set id))
    (loosely : ReflTransGen h.LooselyIn (.set id) v) (depth : Nat) :
    v.printWith h (h.printContents? depth) opened = none := by
  induction depth using Nat.strong_induction_on generalizing v with
  | h depth deeper =>
    induction loosely with
    | refl =>
      -- Once around the loop costs the room for one set.
      obtain ⟨x, before, step⟩ := TransGen.tail'_iff.1 loop
      exact printWith_container_eq_none (c := .set id) step.2 (fun cut => by cases cut)
        fun d less => deeper d less before
    | @tail x v before step same =>
      refine step.printWith_eq_none fun d le => ?_
      rcases le.lt_or_eq with less | rfl
      · exact deeper d less before
      · exact same

/-! ## A loop that can be reached is reached -/

variable (h) in
/-- **A way to a loop** on which no open list or dict is met again. -/
inductive Leads : List Container → Value → Prop
  | here {opened : List Container} {v : Value} {id : SetId}
    (loop : TransGen h.LooselyIn (.set id) (.set id))
    (loosely : ReflTransGen h.LooselyIn (.set id) v) : Leads opened v
  | loosely {opened : List Container} {x v : Value} (step : h.LooselyIn x v)
    (rest : Leads opened x) : Leads opened v
  | opening {opened : List Container} {x : Value} {c : Container} (cut : c.value.isCut = true)
    (new : c ∉ opened) (inside : h.ShownIn x c.value) (rest : Leads (c :: opened) x) :
    Leads opened c.value

/-- Fewer open containers are less in the way. -/
theorem Leads.anti {opened' : List Container} (leads : h.Leads opened v)
    (fewer : opened' ⊆ opened) : h.Leads opened' v := by
  induction leads generalizing opened' with
  | here loop loosely => exact .here loop loosely
  | loosely step _ ih => exact .loosely step (ih fewer)
  | opening cut new inside _ ih =>
    exact .opening cut (fun met => new (fewer met)) inside (ih (List.cons_subset_cons _ fewer))

/-- A way avoids a container, or the container has a way of its own. -/
theorem Leads.avoid (leads : h.Leads opened v) (c : Container) :
    h.Leads (c :: opened) v ∨ h.Leads opened c.value := by
  induction leads with
  | here loop loosely => exact .inl (.here loop loosely)
  | loosely step _ ih => exact ih.imp_left (.loosely step)
  | @opening opened x c' cut new inside rest ih =>
    by_cases same : c' = c
    · -- The way opens this very container: the rest of it is the container's own way.
      subst same
      exact .inr (.opening cut new inside rest)
    · refine ih.imp (fun around => ?_) (·.anti (List.subset_cons_self _ _))
      refine .opening cut (by simp [same, new]) inside (around.anti ?_)
      simp [List.subset_def, or_left_comm]

/-- **A loop that printing comes to is not hidden by what is cut short.** -/
theorem GoesRound.leads (round : h.GoesRound v) : h.Leads [] v := by
  obtain ⟨id, reached, loop⟩ := round
  induction reached with
  | refl => exact .here loop .refl
  | @tail x v _ inside ih =>
    -- Where the way from the item comes back to the container, a shorter one begins there.
    have opening (c : Container) (cut : c.value.isCut = true) (inside : h.ShownIn x c.value) :
        h.Leads [] c.value :=
      (ih.avoid c).elim (.opening cut List.not_mem_nil inside) fun own => own
    cases v with
    | list id' => exact opening (.list id') rfl inside
    | dict id' => exact opening (.dict id') rfl inside
    | _ => exact .loosely ⟨rfl, inside⟩ ih

/-- **What leads to a loop has no printed form.** -/
theorem Leads.printWith_eq_none (leads : h.Leads opened v) (depth : Nat) :
    v.printWith h (h.printContents? depth) opened = none := by
  induction leads generalizing depth with
  | here loop loosely => exact printWith_eq_none_of_loop loop loosely depth
  | loosely step _ ih => exact step.printWith_eq_none fun d _ => ih d
  | opening cut new inside _ ih =>
    refine printWith_container_eq_none inside (fun _ => new) fun d _ => ?_
    rw [Container.openIn_of_isCut cut]
    exact ih d

/-! ## A printing that does not end meets a loop -/

/-- Whether a container is in the heap. -/
def Valid (h : Heap) : Container → Prop
  | .list id => id.index < h.lists.size
  | .dict id => id.index < h.dicts.size
  | .set id => id.index < h.sets.size

/-- A container that shows something is in the heap. -/
theorem valid_of_shownIn (inside : h.ShownIn x c.value) : h.Valid c := by
  by_contra outside
  cases c with
  | list id => simp_all [ShownIn, shown, Container.value, parts, Valid, list]
  | dict id =>
    simp_all [ShownIn, shown, Container.value, parts, Valid, dict, Table.empty, Table.values]
  | set id =>
    simp_all [ShownIn, shown, Container.value, parts, Valid, set, Table.empty, Table.values]

variable (h) in
/-- **How printing got to a value**: the lists and dicts that are open, and the
sets passed since the last of them was opened. The value stands loosely in each
of these sets. -/
structure Walk (opened : List Container) (passed : List SetId) (v : Value) : Prop where
  cut : ∀ c ∈ opened, c.value.isCut = true ∧ h.Valid c
  opened_nodup : opened.Nodup
  valid : ∀ id ∈ passed, id.index < h.sets.size
  passed_nodup : passed.Nodup
  loosely : ∀ id ∈ passed, TransGen h.LooselyIn v (.set id)

variable (h) in
/-- The number of a list or dict when all lists are counted before all dicts. -/
def number : Container → Nat
  | .list id | .set id => id.index
  | .dict id => h.lists.size + id.index

/-- **Lists and dicts have numbers of their own**: those of lists are below those of
dicts. -/
theorem number_inj {c c' : Container} (cut : c.value.isCut = true) (valid : h.Valid c)
    (cut' : c'.value.isCut = true) (valid' : h.Valid c') (same : h.number c = h.number c') :
    c = c' := by
  cases c with
  | set => cases cut
  | list id =>
    have below : id.index < h.lists.size := valid
    cases c' with
    | set => cases cut'
    | list id' =>
      have equal : id.index = id'.index := same
      exact congrArg (fun i => Container.list ⟨i⟩) equal
    | dict id' =>
      have above : id.index = h.lists.size + id'.index := same
      omega
  | dict id =>
    cases c' with
    | set => cases cut'
    | list id' =>
      have below : id'.index < h.lists.size := valid'
      have above : h.lists.size + id.index = id'.index := same
      omega
    | dict id' =>
      have equal : id.index = id'.index := Nat.add_left_cancel same
      exact congrArg (fun i => Container.dict ⟨i⟩) equal

namespace Walk

variable {passed : List SetId}

/-- A list of different numbers below a bound is no longer than that. -/
theorem length_le_of_nodup {α : Type} {l : List α} {f : α → Nat} {n : Nat} (nodup : l.Nodup)
    (below : ∀ a ∈ l, f a < n) (inj : ∀ a ∈ l, ∀ b ∈ l, f a = f b → a = b) :
    l.length ≤ n := by
  have codes : (l.map f).Subperm (List.range n) := by
    refine List.subperm_of_subset (List.Nodup.map_on inj nodup) fun k member => ?_
    obtain ⟨a, inside, rfl⟩ := List.mem_map.1 member
    exact List.mem_range.2 (below a inside)
  simpa using codes.length_le

theorem length_passed_le (walk : h.Walk opened passed v) : passed.length ≤ h.sets.size :=
  length_le_of_nodup (f := SetId.index) walk.passed_nodup walk.valid fun a _ b _ same => by
    cases a; cases b; exact congrArg SetId.mk same

theorem length_opened_le (walk : h.Walk opened passed v) :
    opened.length ≤ h.lists.size + h.dicts.size := by
  refine length_le_of_nodup (f := h.number) walk.opened_nodup (fun c member => ?_)
    fun c member c' member' same => ?_
  · obtain ⟨cut, valid⟩ := walk.cut c member
    cases c with
    | list id => exact Nat.lt_add_right _ valid
    | dict id => exact Nat.add_lt_add_left valid _
    | set id => cases cut
  · obtain ⟨cut, valid⟩ := walk.cut c member
    obtain ⟨cut', valid'⟩ := walk.cut c' member'
    exact number_inj cut valid cut' valid' same

/-- Through tuples and exceptions. -/
theorem inner (walk : h.Walk opened passed v) (step : h.LooselyIn x v) :
    h.Walk opened passed x :=
  { walk with loosely := fun id member => .head step (walk.loosely id member) }

/-- Past a set that has not been passed since. -/
theorem pass {id : SetId} (walk : h.Walk opened passed (.set id)) (new : id ∉ passed)
    (inside : h.ShownIn x (.set id)) : h.Walk opened (id :: passed) x where
  cut := walk.cut
  opened_nodup := walk.opened_nodup
  valid := List.forall_mem_cons.2 ⟨valid_of_shownIn (c := .set id) inside, walk.valid⟩
  passed_nodup := walk.passed_nodup.cons new
  loosely :=
    have step : h.LooselyIn x (.set id) := ⟨rfl, inside⟩
    List.forall_mem_cons.2 ⟨.single step, (walk.inner step).loosely⟩

/-- Into a list or dict that is not open. -/
theorem enter (walk : h.Walk opened passed c.value) (cut : c.value.isCut = true)
    (new : c ∉ opened) (inside : h.ShownIn x c.value) : h.Walk (c :: opened) [] x where
  cut := List.forall_mem_cons.2 ⟨⟨cut, valid_of_shownIn inside⟩, walk.cut⟩
  opened_nodup := walk.opened_nodup.cons new
  valid := by simp
  passed_nodup := List.nodup_nil
  loosely := by simp

end Walk

variable (h) in
/-- How many more containers a walk can open without a loop. -/
def room (opened : List Container) (passed : List SetId) : Nat :=
  (h.lists.size + h.dicts.size - opened.length) * (h.sets.size + 1)
    + (h.sets.size - passed.length)

theorem room_lt_printBound : h.room [] [] < h.printBound := by
  simp only [room, printBound, List.length_nil, Nat.sub_zero, Nat.succ_mul]
  omega

theorem Walk.room_lt_of_pass {passed : List SetId} {id : SetId}
    (walk : h.Walk opened (id :: passed) x) :
    h.room opened (id :: passed) < h.room opened passed := by
  have fits := walk.length_passed_le
  rw [List.length_cons] at fits
  simp only [room, List.length_cons]
  omega

theorem Walk.room_lt_of_enter {passed : List SetId} (walk : h.Walk (c :: opened) [] x) :
    h.room (c :: opened) [] < h.room opened passed := by
  have fits := walk.length_opened_le
  rw [List.length_cons] at fits
  obtain ⟨more, left⟩ := Nat.exists_eq_add_of_le fits
  have after : h.lists.size + h.dicts.size - (c :: opened).length = more := by
    rw [List.length_cons]; omega
  have before : h.lists.size + h.dicts.size - opened.length = more + 1 := by omega
  simp only [room, after, before, List.length_nil, Nat.succ_mul]
  omega

/-- Values that are no containers show smaller ones. -/
theorem sizeOf_lt_of_shownIn (other : ∀ c : Container, v ≠ c.value) (inside : h.ShownIn x v) :
    sizeOf x < sizeOf v := by
  cases v with
  | list id => exact absurd rfl (other (.list id))
  | dict id => exact absurd rfl (other (.dict id))
  | set id => exact absurd rfl (other (.set id))
  | tuple items =>
    have := List.sizeOf_lt_of_mem (show x ∈ items from inside)
    rw [Value.tuple.sizeOf_spec]
    omega
  | exception serial kind message carried =>
    cases message with
    | some text => cases inside
    | none =>
      obtain rfl := List.mem_singleton.1 inside
      rw [Value.exception.sizeOf_spec]
      omega
  | _ => cases inside

/-- **A printing with room for a whole walk that does not end meets a loop.** -/
theorem Walk.goesRound {opened : List Container} {passed : List SetId} {depth : Nat} {v : Value}
    (walk : h.Walk opened passed v) (enough : h.room opened passed < depth)
    (unprintable : v.printWith h (h.printContents? depth) opened = none) : h.GoesRound v := by
  by_cases container : ∃ c : Container, v = c.value
  · obtain ⟨c, rfl⟩ := container
    obtain ⟨new, contents⟩ := printWith_container_eq_none_iff.1 unprintable
    obtain ⟨d, rfl⟩ := Nat.exists_eq_succ_of_ne_zero (Nat.ne_zero_of_lt enough)
    obtain ⟨x, inside, deeper⟩ := printContents?_succ_eq_none_iff.1 contents
    cases c with
    | list | dict =>
      have walk' := walk.enter rfl (new rfl) inside
      have less : h.room _ [] < h.room opened passed := walk'.room_lt_of_enter
      exact (Walk.goesRound walk' (by omega) deeper).of_shownIn inside
    | set id =>
      by_cases met : id ∈ passed
      · -- It has been passed with no list or dict opened since: the loop is closed.
        exact ⟨id, .refl, walk.loosely id met⟩
      · have walk' := walk.pass met inside
        have less := walk'.room_lt_of_pass
        exact (Walk.goesRound walk' (by omega) deeper).of_shownIn inside
  · -- Such values take no room, but they hold smaller ones.
    have other (c : Container) : v ≠ c.value := fun same => container ⟨c, same⟩
    obtain ⟨x, inside, same⟩ := (printWith_other_eq_none_iff other).1 unprintable
    have smaller := sizeOf_lt_of_shownIn other inside
    have loose : v.isCut = false := by
      cases v with
      | list id => exact absurd rfl (other (.list id))
      | dict id => exact absurd rfl (other (.dict id))
      | _ => rfl
    exact (Walk.goesRound (walk.inner ⟨loose, inside⟩) enough same).of_shownIn inside
termination_by (depth, sizeOf v)

/-! ## What a loop goes through -/

/-- The items of a set have keys, and so has what stands in them up to the next
exception object. -/
theorem exists_hashKey_of_looselyIn {id : SetId} (sound : h.Sound)
    (loosely : TransGen h.LooselyIn x (.set id)) :
    (∃ k, x.hashKey = .ok k) ∨ ∃ serial kind carried,
      TransGen h.LooselyIn (.exception serial kind none carried) (.set id) := by
  induction loosely using TransGen.head_induction_on with
  | single step =>
    obtain ⟨e, stored, rfl⟩ := List.mem_map.1 (show _ ∈ (h.set id).values from step.2)
    exact .inl ⟨e.1, (sound.set id).keyed e stored⟩
  | @head x y step after ih =>
    obtain ⟨k, key⟩ | through := ih
    · cases y with
      | tuple items =>
        obtain ⟨keys, -, all⟩ := Value.hashKey_tuple_eq_ok_iff.1 key
        obtain ⟨i, bound, rfl⟩ := List.getElem_of_mem (show x ∈ items from step.2)
        exact .inl ⟨_, all.get bound (all.length_eq ▸ bound)⟩
      | exception serial kind message carried =>
        cases message with
        | some text => cases step.2
        | none => exact .inr ⟨serial, kind, carried, after⟩
      | list | dict | set =>
        -- These have no key, so the way to the set cannot lead through one.
        simp [Value.hashKey] at key
      | _ => cases step.2
    · exact .inr through

/-- **In a sound heap every loop goes through an exception object** that has no
message. -/
theorem GoesRound.exists_exception (sound : h.Sound) (round : h.GoesRound v) :
    ∃ serial kind carried, ReflTransGen h.ShownIn (.exception serial kind none carried) v := by
  obtain ⟨id, reached, loop⟩ := round
  obtain ⟨k, key⟩ | ⟨serial, kind, carried, inside⟩ := exists_hashKey_of_looselyIn sound loop
  · simp [Value.hashKey] at key
  · refine ⟨serial, kind, carried, ReflTransGen.trans ?_ reached⟩
    exact ReflTransGen.mono (fun _ _ => LooselyIn.shownIn) _ _ inside.to_reflTransGen

/-! ## The whole -/

/-- Where printing does not go round, there is a printed form. -/
theorem repr?_isSome (ends : ¬ h.GoesRound v) : (h.repr? v).isSome := by
  rw [Option.isSome_iff_ne_none]
  refine fun unprintable => ends (Walk.goesRound ?_ room_lt_printBound unprintable)
  exact ⟨by simp, List.nodup_nil, by simp, List.nodup_nil, by simp⟩

/-- A value has a text exactly if it has a printed form. -/
theorem text?_eq_none_iff : h.text? v = none ↔ h.repr? v = none := by
  cases v with
  | str s => simp [text?, repr?, Value.printWith]
  | exception serial kind message carried =>
    cases message with
    | some text => simp [text?, messageText?, repr?, Value.printWith]
    | none =>
      cases empty : carried.isNone with
      | true => simp [text?, messageText?, repr?, Value.printWith, empty]
      | false =>
        simp only [text?, messageText?, repr?, Value.printWith, empty, Bool.false_eq_true, if_false]
        exact bind_return_eq_none_iff.symm
  | _ => rfl

/-- **When printing ends.** -/
structure PrintingEnds (h : Heap) (v : Value) : Prop where
  /-- There is a printed form unless printing goes round. -/
  repr : h.repr? v = none ↔ h.GoesRound v
  /-- There is a text in the same cases. -/
  text : h.text? v = none ↔ h.GoesRound v
  /-- Nothing is given up that more room would have printed. -/
  room : h.repr? v = none ↔ ∀ depth, v.printWith h (h.printContents? depth) [] = none
  /-- Where dicts and sets are in order, printing goes round only through an
  exception object. -/
  through : h.Sound → h.GoesRound v →
    ∃ serial kind carried, ReflTransGen h.ShownIn (.exception serial kind none carried) v

/-- **Printing a value ends unless it comes to a set that stands in itself through
sets, tuples and exceptions alone**, in every heap. -/
theorem printing_ends_iff (h : Heap) (v : Value) : h.PrintingEnds v := by
  have round : h.repr? v = none → h.GoesRound v := by
    contrapose!
    exact fun ends => Option.isSome_iff_ne_none.1 (repr?_isSome ends)
  have never (round : h.GoesRound v) (depth : Nat) :
      v.printWith h (h.printContents? depth) [] = none := round.leads.printWith_eq_none depth
  have repr : h.repr? v = none ↔ h.GoesRound v := ⟨round, fun round => never round _⟩
  exact ⟨repr, text?_eq_none_iff.trans repr, ⟨fun none => never (round none), fun all => all _⟩,
    fun sound round => round.exists_exception sound⟩

/-- A set that holds an exception object that carries it. -/
example :
    let h : Heap := ⟨#[], #[],
      #[⟨[(.identity (.exception ⟨0⟩), .exception ⟨0⟩ .stopIteration none (.set ⟨0⟩))]⟩]⟩
    h.repr? (.set ⟨0⟩) = none := by
  decide

end Heap

end MeteredScript
