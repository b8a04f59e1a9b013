import MeteredScript.Proofs.Equality.Coherence
import MeteredScript.Proofs.Guards.Reading

/-!
# When printing is excluded

Someone who holds a guard for writing of a container and prints a value is excluded if printing
comes to the container. That is so if the value shows the container, however deep inside:
`reprExcluded_iff`. What is cut short does not hide it, since where a way to the container comes
back to a list or dict that is open already, a shorter way leaves from there (`Way`).

A value that has a key shows no container but through an exception object that carries one
(`shows_through_exception`). So whoever prints such a value, in the report that it is missing,
is excluded only where exceptions carry containers.
-/

namespace MeteredScript

open Relation (ReflTransGen)

variable {α β : Type} {h : Heap}

namespace Guarded

/-- Something that asks for guards has a result. -/
def Succeeds (x : Guarded α) (held : List Guard) : Prop := ∃ a, x held = .ok a

variable {x : Guarded α} {f : α → Guarded β} {held : List Guard} {b : β}

theorem bind_eq_ok : (x >>= f) held = .ok b ↔ ∃ a, x held = .ok a ∧ f a held = .ok b := by
  have run : (x >>= f) held = x held >>= fun a => f a held := rfl
  rw [run]
  cases x held with
  | error o => simp [bind, Except.bind]
  | ok a => simp [bind, Except.bind]

theorem Succeeds.of_bind (ok : (x >>= f).Succeeds held) : x.Succeeds held := by
  obtain ⟨b, ok⟩ := ok
  obtain ⟨a, first, -⟩ := bind_eq_ok.1 ok
  exact ⟨a, first⟩

theorem Succeeds.of_inside {c : Container} (ok : (inside c x).Succeeds held) :
    .writing (.container c) ∉ held ∧ x.Succeeds (.reading (.container c) :: held) := by
  obtain ⟨a, ok⟩ := ok
  rw [inside, holding] at ok
  split at ok
  · cases ok
  · rename_i free
    refine ⟨fun writing => free (List.any_eq_true.2 ⟨_, writing, ?_⟩), a, ok⟩
    exact Guard.excludes_reading.2 rfl

end Guarded

namespace Heap

variable {v x : Value} {c : Container} {depth : Nat} {opened : List Container}
  {held : List Guard} {contents : List Container → Container → Guarded String}

/-! ## One layer of printing -/

theorem succeeds_of_printAllWith {vs : List Value}
    (ok : (Value.guardedPrintAllWith h contents opened vs).Succeeds held) :
    ∀ x ∈ vs, (x.guardedPrintWith h contents opened).Succeeds held := by
  induction vs with
  | nil => simp
  | cons v vs ih =>
    obtain ⟨texts, ok⟩ := ok
    obtain ⟨text, first, rest⟩ := Guarded.bind_eq_ok.1 ok
    exact List.forall_mem_cons.2 ⟨⟨text, first⟩, ih (Guarded.Succeeds.of_bind ⟨texts, rest⟩)⟩

theorem succeeds_of_printEntriesWith {es : List (Value × Value)}
    (ok : (Value.guardedPrintEntriesWith h contents opened es).Succeeds held) :
    ∀ x ∈ es.flatMap fun e => [e.1, e.2],
      (x.guardedPrintWith h contents opened).Succeeds held := by
  induction es with
  | nil => simp
  | cons e es ih =>
    obtain ⟨texts, ok⟩ := ok
    obtain ⟨keyText, first, ok⟩ := Guarded.bind_eq_ok.1 ok
    obtain ⟨valueText, second, rest⟩ := Guarded.bind_eq_ok.1 ok
    simp only [List.flatMap_cons, List.cons_append, List.nil_append, List.forall_mem_cons]
    exact ⟨⟨_, first⟩, ⟨_, second⟩, ih (Guarded.Succeeds.of_bind ⟨texts, rest⟩)⟩

/-- A container that is not cut short is printed with its contents. -/
theorem succeeds_of_container (new : c.value.isCut = true → c ∉ opened)
    (ok : (c.value.guardedPrintWith h contents opened).Succeeds held) :
    (contents opened c).Succeeds held := by
  obtain ⟨text, ok⟩ := ok
  cases c with
  | list id | dict id =>
    rw [Container.value, Value.guardedPrintWith, if_neg (by simpa using new rfl)] at ok
    exact ⟨text, ok⟩
  | set id => exact ⟨text, ok⟩

/-- Any other value is printed with what it shows. -/
theorem succeeds_of_other (other : ∀ c : Container, v ≠ c.value)
    (ok : (v.guardedPrintWith h contents opened).Succeeds held) (inside : h.ShownIn x v) :
    (x.guardedPrintWith h contents opened).Succeeds held := by
  cases v with
  | list id => exact absurd rfl (other (.list id))
  | dict id => exact absurd rfl (other (.dict id))
  | set id => exact absurd rfl (other (.set id))
  | tuple items =>
    rw [Value.guardedPrintWith] at ok
    exact succeeds_of_printAllWith ok.of_bind x inside
  | exception serial kind message carried =>
    cases message with
    | some text => cases inside
    | none =>
      obtain rfl := List.mem_singleton.1 inside
      rw [Value.guardedPrintWith] at ok
      dsimp only at ok
      split at ok
      · rename_i empty
        obtain rfl := Value.isNone_iff.1 empty
        exact ⟨_, rfl⟩
      · exact ok.of_bind
  | _ => cases inside

/-- The contents of a container are printed with a guard held. -/
theorem succeeds_of_contents (ok : (h.guardedContents (depth + 1) opened c).Succeeds held) :
    .writing (.container c) ∉ held ∧ ∀ x, h.ShownIn x c.value →
      (x.guardedPrintWith h (h.guardedContents depth) (c.openIn opened)).Succeeds
        (.reading (.container c) :: held) := by
  cases c with
  | list id =>
    rw [guardedContents] at ok
    exact ⟨ok.of_inside.1, succeeds_of_printAllWith ok.of_inside.2.of_bind⟩
  | dict id =>
    rw [guardedContents] at ok
    exact ⟨ok.of_inside.1, succeeds_of_printEntriesWith ok.of_inside.2.of_bind⟩
  | set id =>
    rw [guardedContents] at ok
    obtain ⟨free, ok⟩ := ok.of_inside
    refine ⟨free, fun x inside => ?_⟩
    split at ok
    · rename_i empty
      simp_all [ShownIn, shown, Container.value, parts, Table.isEmpty, Table.values]
    · exact succeeds_of_printAllWith ok.of_bind x inside

/-! ## Ways to a container -/

variable (h) in
/-- **A way to a container** on which no open list or dict is met again. -/
inductive Way (c : Container) : List Container → Value → Prop
  | here {opened : List Container} (new : c ∉ opened) : Way c opened c.value
  | loosely {opened : List Container} {x v : Value} (step : h.LooselyIn x v)
    (rest : Way c opened x) : Way c opened v
  | opening {opened : List Container} {x : Value} {c' : Container} (cut : c'.value.isCut = true)
    (new : c' ∉ opened) (inside : h.ShownIn x c'.value) (rest : Way c (c' :: opened) x) :
    Way c opened c'.value

/-- Fewer open containers are less in the way. -/
theorem Way.anti {opened' : List Container} (way : h.Way c opened v) (fewer : opened' ⊆ opened) :
    h.Way c opened' v := by
  induction way generalizing opened' with
  | here new => exact .here fun met => new (fewer met)
  | loosely step _ ih => exact .loosely step (ih fewer)
  | opening cut new inside _ ih =>
    exact .opening cut (fun met => new (fewer met)) inside (ih (List.cons_subset_cons _ fewer))

/-- A way avoids a container, or the container has a way of its own. -/
theorem Way.avoid (way : h.Way c opened v) (c' : Container) :
    h.Way c (c' :: opened) v ∨ h.Way c opened c'.value := by
  induction way with
  | @here opened new =>
    by_cases same : c = c'
    · subst same
      exact .inr (.here new)
    · exact .inl (.here (by simp [same, new]))
  | loosely step _ ih => exact ih.imp_left (.loosely step)
  | @opening opened x c'' cut new inside rest ih =>
    by_cases same : c'' = c'
    · -- The way opens this very container: the rest of it is the container's own way.
      subst same
      exact .inr (.opening cut new inside rest)
    · refine ih.imp (fun around => ?_) (·.anti (List.subset_cons_self _ _))
      refine .opening cut (by simp [same, new]) inside (around.anti ?_)
      simp [List.subset_def, or_left_comm]

/-- **There is a way to every container that a value shows.** -/
theorem Way.of_shown (shown : ReflTransGen h.ShownIn c.value v) : h.Way c [] v := by
  induction shown with
  | refl => exact .here List.not_mem_nil
  | @tail x v _ inside ih =>
    -- Where the way from the item comes back to the container, a shorter one begins there.
    have opening (c' : Container) (cut : c'.value.isCut = true)
        (inside : h.ShownIn x c'.value) : h.Way c [] c'.value :=
      (ih.avoid c').elim (.opening cut List.not_mem_nil inside) fun own => own
    cases v with
    | list id => exact opening (.list id) rfl inside
    | dict id => exact opening (.dict id) rfl inside
    | _ => exact .loosely ⟨rfl, inside⟩ ih

/-- **Printing does not get past the end of a way** under a guard for writing. -/
theorem Way.not_succeeds (way : h.Way c opened v) (writing : .writing (.container c) ∈ held) :
    ¬ (v.guardedPrintWith h (h.guardedContents depth) opened).Succeeds held := by
  induction way generalizing depth held with
  | here new =>
    intro ok
    cases depth with
    | zero =>
      obtain ⟨text, ok⟩ := succeeds_of_container (fun _ => new) ok
      cases ok
    | succ depth => exact (succeeds_of_contents (succeeds_of_container (fun _ => new) ok)).1 writing
  | @loosely opened x v step _ ih =>
    intro ok
    obtain ⟨loose, inside⟩ := step
    cases v with
    | list | dict => cases loose
    | set id =>
      have ok := succeeds_of_container (c := .set id) (fun cut => by cases cut) ok
      cases depth with
      | zero =>
        obtain ⟨text, ok⟩ := ok
        cases ok
      | succ depth =>
        exact ih (List.mem_cons_of_mem _ writing) ((succeeds_of_contents ok).2 x inside)
    | _ =>
      refine ih writing (succeeds_of_other (fun c' => ?_) ok inside)
      cases c' <;> simp [Container.value]
  | @opening opened x c' cut new inside _ ih =>
    intro ok
    have ok := succeeds_of_container (fun _ => new) ok
    cases depth with
    | zero =>
      obtain ⟨text, ok⟩ := ok
      cases ok
    | succ depth =>
      have ok := (succeeds_of_contents ok).2 x inside
      rw [Container.openIn_of_isCut cut] at ok
      exact ih (List.mem_cons_of_mem _ writing) ok

/-! ## The whole -/

theorem reprExcluded_eq_true_iff :
    h.reprExcluded held v = true ↔ ∃ g, h.guardedRepr v held = .error (.excluded g) := by
  unfold reprExcluded
  split <;> simp_all

/-- Who prints a value without a guard for writing is not excluded. -/
theorem reprExcluded_of_readers (readers : ∀ g ∈ held, g.isReading = true) :
    h.reprExcluded held v = false := by
  rw [← Bool.not_eq_true, reprExcluded_eq_true_iff, (guardedRepr_reads h v).of_readers readers]
  rintro ⟨g, excluded⟩
  cases printed : h.repr? v <;> simp [printed, unlessEndless, Except.mapError] at excluded

/-- Who is excluded from printing a value holds a container for writing that the value shows. -/
theorem shown_of_reprExcluded (excluded : h.reprExcluded [.writing (.container c)] v = true) :
    ReflTransGen h.ShownIn c.value v := by
  obtain ⟨g, excluded⟩ := reprExcluded_eq_true_iff.1 excluded
  obtain same | ⟨c', -, writing, inside⟩ := guardedRepr_reads h v [.writing (.container c)]
  · rw [same] at excluded
    cases printed : h.repr? v <;> simp [printed, unlessEndless, Except.mapError] at excluded
  · simp only [List.mem_singleton, Guard.writing.injEq] at writing
    subst writing
    exact inside

/-- **Printing is excluded exactly if the value shows the container that is held for writing**,
as long as the value has a printed form at all. -/
theorem reprExcluded_iff (ends : (h.repr? v).isSome) :
    h.reprExcluded [.writing (.container c)] v = true ↔ ReflTransGen h.ShownIn c.value v := by
  refine ⟨shown_of_reprExcluded, fun shown => reprExcluded_eq_true_iff.2 ?_⟩
  obtain ⟨text, printed⟩ := Option.isSome_iff_exists.1 ends
  obtain same | ⟨c', excluded, -⟩ := guardedRepr_reads h v [.writing (.container c)]
  · rw [printed] at same
    exact absurd ⟨text, same⟩ ((Way.of_shown shown).not_succeeds (by simp))
  · exact ⟨_, excluded⟩

/-- **A value with a key shows no container but through an exception object.** -/
theorem shows_through_exception {key : HashKey} (hashed : v.hashKey = .ok key)
    (shown : ReflTransGen h.ShownIn c.value v) :
    ∃ serial kind carried, ReflTransGen h.ShownIn (.exception serial kind none carried) v := by
  induction shown generalizing key with
  | refl => cases c <;> simp [Container.value, Value.hashKey] at hashed
  | @tail x v _ inside ih =>
    cases v with
    | tuple items =>
      obtain ⟨keys, -, all⟩ := Value.hashKey_tuple_eq_ok_iff.1 hashed
      obtain ⟨i, bound, rfl⟩ := List.getElem_of_mem (show x ∈ items from inside)
      obtain ⟨serial, kind, carried, deeper⟩ := ih (all.get bound (all.length_eq ▸ bound))
      exact ⟨serial, kind, carried, deeper.tail inside⟩
    | exception serial kind message carried =>
      cases message with
      | some text => cases inside
      | none => exact ⟨serial, kind, carried, .refl⟩
    | list | dict | set => simp [Value.hashKey] at hashed
    | _ => cases inside

end Heap

end MeteredScript
