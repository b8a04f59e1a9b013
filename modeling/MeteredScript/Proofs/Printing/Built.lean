import Mathlib.Data.List.Forall2
import MeteredScript.Proofs.Printing.Datum
import MeteredScript.Proofs.Printing.Ending

/-!
# What data are printed as

`Heap.Built` are the values that are built from `None`, bools, ints and strings
by lists, tuples, dicts and sets. Being built step by step, such a value stands
in no circle, however much it shares. Each of them is described by a datum
(`Datum.Describes`), which is what it is as a tree: with the items and entries
in their order, and without the pointers.

A value that is built has a printed form, and this is the text of the datum that
describes it (`Heap.Built.repr?_eq`). Nothing is cut short on the way, because
the value stands inside all containers that are open (`Heap.Deep`).
-/

namespace MeteredScript

open Relation (ReflTransGen TransGen)

/-- **Values built from data.** -/
inductive Heap.Built (h : Heap) : Value → Prop
  | none : Built h .none
  | bool (b : Bool) : Built h (.bool b)
  | int (n : Int64) : Built h (.int n)
  | str (s : String) : Built h (.str s)
  | list (id : ListId) (items : ∀ x ∈ (h.list id).toList, Built h x) : Built h (.list id)
  | tuple (items : List Value) (built : ∀ x ∈ items, Built h x) : Built h (.tuple items)
  | dict (id : DictId) (keys : ∀ e ∈ (h.dict id).values, Built h e.1)
    (values : ∀ e ∈ (h.dict id).values, Built h e.2) : Built h (.dict id)
  | set (id : SetId) (items : ∀ x ∈ (h.set id).values, Built h x) : Built h (.set id)

namespace Datum

mutual

/-- **What a value is as a tree**, in a heap. -/
def Describes (h : Heap) : Datum → Value → Prop
  | none, v => v = .none
  | bool b, v => v = .bool b
  | int n, v => v = .int n
  | str s, v => v = .str s
  | list ds, v => ∃ id, v = .list id ∧ DescribesAll h ds (h.list id).toList
  | tuple ds, v => ∃ items, v = .tuple items ∧ DescribesAll h ds items
  | dict es, v => ∃ id, v = .dict id ∧ DescribesEntries h es (h.dict id).values
  | set ds, v => ∃ id, v = .set id ∧ DescribesAll h ds (h.set id).values

/-- What several values are, in their order. -/
def DescribesAll (h : Heap) : List Datum → List Value → Prop
  | [], vs => vs = []
  | d :: ds, vs => ∃ x xs, vs = x :: xs ∧ d.Describes h x ∧ DescribesAll h ds xs

/-- What dict entries are, in their order. -/
def DescribesEntries (h : Heap) : List (Datum × Datum) → List (Value × Value) → Prop
  | [], vs => vs = []
  | (key, value) :: es, vs =>
    ∃ x y rest, vs = (x, y) :: rest ∧ key.Describes h x ∧ value.Describes h y ∧
      DescribesEntries h es rest

end

variable {h h' : Heap} {v w : Value} {d e : Datum}

theorem describesAll_iff {ds : List Datum} {vs : List Value} :
    DescribesAll h ds vs ↔ List.Forall₂ (Describes h) ds vs := by
  induction ds generalizing vs with
  | nil => rw [DescribesAll, List.forall₂_nil_left_iff]
  | cons d ds ih =>
    simp only [DescribesAll, ih, List.forall₂_cons_left_iff]
    constructor
    · rintro ⟨x, xs, rfl, first, rest⟩
      exact ⟨x, xs, first, rest, rfl⟩
    · rintro ⟨x, xs, first, rest, rfl⟩
      exact ⟨x, xs, rfl, first, rest⟩

/-- What an entry is. -/
def DescribesEntry (h : Heap) (e : Datum × Datum) (x : Value × Value) : Prop :=
  e.1.Describes h x.1 ∧ e.2.Describes h x.2

theorem describesEntries_iff {es : List (Datum × Datum)} {vs : List (Value × Value)} :
    DescribesEntries h es vs ↔ List.Forall₂ (DescribesEntry h) es vs := by
  induction es generalizing vs with
  | nil => rw [DescribesEntries, List.forall₂_nil_left_iff]
  | cons e es ih =>
    obtain ⟨key, value⟩ := e
    simp only [DescribesEntries, ih, List.forall₂_cons_left_iff]
    constructor
    · rintro ⟨x, y, rest, rfl, first, second, others⟩
      exact ⟨(x, y), rest, ⟨first, second⟩, others, rfl⟩
    · rintro ⟨x, rest, ⟨first, second⟩, others, rfl⟩
      exact ⟨x.1, x.2, rest, rfl, first, second, others⟩

/-! ## Every value that is built is a tree -/

theorem exists_forall₂ {α β : Type} {R : α → β → Prop} {bs : List β}
    (each : ∀ b ∈ bs, ∃ a, R a b) : ∃ as, List.Forall₂ R as bs := by
  induction bs with
  | nil => exact ⟨[], .nil⟩
  | cons b bs ih =>
    obtain ⟨a, first⟩ := each b List.mem_cons_self
    obtain ⟨as, rest⟩ := ih fun b member => each b (List.mem_cons_of_mem _ member)
    exact ⟨a :: as, .cons first rest⟩

/-- **A value that is built is described by a datum.** -/
theorem exists_describes (built : h.Built v) : ∃ d : Datum, d.Describes h v := by
  induction built with
  | none => exact ⟨.none, rfl⟩
  | bool b => exact ⟨.bool b, rfl⟩
  | int n => exact ⟨.int n, rfl⟩
  | str s => exact ⟨.str s, rfl⟩
  | list id _ ih =>
    obtain ⟨ds, all⟩ := exists_forall₂ ih
    exact ⟨.list ds, id, rfl, describesAll_iff.2 all⟩
  | tuple items _ ih =>
    obtain ⟨ds, all⟩ := exists_forall₂ ih
    exact ⟨.tuple ds, items, rfl, describesAll_iff.2 all⟩
  | dict id _ _ ihKeys ihValues =>
    obtain ⟨es, all⟩ := exists_forall₂ (R := DescribesEntry h) fun x member => by
      obtain ⟨key, first⟩ := ihKeys x member
      obtain ⟨value, second⟩ := ihValues x member
      exact ⟨(key, value), first, second⟩
    exact ⟨.dict es, id, rfl, describesEntries_iff.2 all⟩
  | set id _ ih =>
    obtain ⟨ds, all⟩ := exists_forall₂ ih
    exact ⟨.set ds, id, rfl, describesAll_iff.2 all⟩

end Datum

/-! ## Values that are built stand in no circle -/

namespace Heap

variable {h : Heap} {v x : Value} {opened : List Container} {depth : Nat}
  {contents : List Container → Container → Option String}

/-- Printing a value that is built goes down. -/
theorem Built.acc (built : h.Built v) : Acc h.ShownIn v := by
  induction built with
  | none | bool | int | str => exact .intro _ fun x inside => by cases inside
  | list _ _ ih | tuple _ _ ih | set _ _ ih => exact .intro _ ih
  | dict id _ _ ihKeys ihValues =>
    refine .intro _ fun x inside => ?_
    obtain ⟨e, member, half⟩ := List.mem_flatMap.1 inside
    rcases List.mem_pair.1 half with rfl | rfl
    · exact ihKeys e member
    · exact ihValues e member

theorem not_transGen_self (acc : Acc h.ShownIn v) : ¬ TransGen h.ShownIn v v := by
  have down := acc.transGen
  clear acc
  induction down with
  | intro v _ ih => exact fun circle => ih v circle circle

theorem acc_of_reached (acc : Acc h.ShownIn v) (reached : ReflTransGen h.ShownIn x v) :
    Acc h.ShownIn x := by
  induction reached with
  | refl => exact acc
  | tail _ inside ih => exact ih (acc.inv inside)

/-- **Printing a value that is built ends.** -/
theorem Built.repr?_isSome (built : h.Built v) : (h.repr? v).isSome := by
  refine Heap.repr?_isSome ?_
  rintro ⟨id, reached, loop⟩
  exact not_transGen_self (acc_of_reached built.acc reached)
    (TransGen.mono (fun _ _ => LooselyIn.shownIn) _ _ loop)

/-! ## The text of a datum -/

theorem toList_bracketed (opening closing text : String) :
    (Value.bracketed opening closing text).toList =
      opening.toList ++ text.toList ++ closing.toList := by
  rw [Value.bracketed, String.toList_append, String.toList_append]

theorem toList_commaJoin (texts : List String) :
    (Value.commaJoin texts).toList = Datum.commas (texts.map String.toList) :=
  String.toList_intercalate

theorem printAllWith_eq_some_iff {vs : List Value} {texts : List String} :
    Value.printAllWith h contents opened vs = some texts ↔
      List.Forall₂ (fun x text => x.printWith h contents opened = some text) vs texts := by
  induction vs generalizing texts with
  | nil => cases texts <;> simp [Value.printAllWith]
  | cons x xs ih =>
    rw [Value.printAllWith, List.forall₂_cons_left_iff]
    simp only [← ih, Option.bind_eq_bind, Option.bind_eq_some_iff, Option.pure_def,
      Option.some.injEq]
    grind

theorem printEntriesWith_eq_some_iff {es : List (Value × Value)} {texts : List String} :
    Value.printEntriesWith h contents opened es = some texts ↔
      List.Forall₂ (fun e text => ∃ key value, e.1.printWith h contents opened = some key ∧
        e.2.printWith h contents opened = some value ∧ text = key ++ ": " ++ value) es texts := by
  induction es generalizing texts with
  | nil => cases texts <;> simp [Value.printEntriesWith]
  | cons e es ih =>
    rw [Value.printEntriesWith, List.forall₂_cons_left_iff]
    simp only [← ih, Option.bind_eq_bind, Option.bind_eq_some_iff, Option.pure_def,
      Option.some.injEq]
    grind

theorem map_toList_eq {α β : Type} {write : α → List Char} {R : α → β → Prop}
    {P : β → String → Prop} {as : List α} {bs : List β} {texts : List String}
    (each : ∀ a ∈ as, ∀ b ∈ bs, ∀ text, R a b → P b text → text.toList = write a)
    (all : List.Forall₂ R as bs) (printed : List.Forall₂ P bs texts) :
    texts.map String.toList = as.map write := by
  induction all generalizing texts with
  | nil => cases printed; rfl
  | @cons a b as bs first _ ih =>
    cases printed with
    | @cons _ text _ texts head tail =>
      rw [List.map_cons, List.map_cons,
        each a List.mem_cons_self b List.mem_cons_self text first head,
        ih (fun a ha b hb => each a (List.mem_cons_of_mem _ ha) b (List.mem_cons_of_mem _ hb)) tail]

theorem bind_return_eq_some_iff {α β : Type} {o : Option α} {f : α → β} {b : β} :
    (do let a ← o; return f a) = some b ↔ ∃ a, o = some a ∧ f a = b := by
  cases o <;> simp

/-- A container that is not open is printed with room for its contents. -/
theorem contents_of_printWith {c : Container} {text : String} (new : c ∉ opened)
    (printed : c.value.printWith h (h.printContents? depth) opened = some text) :
    ∃ inner, h.printContents? (inner + 1) opened c = some text ∧ depth = inner + 1 := by
  have contents : h.printContents? depth opened c = some text := by
    cases c with
    | list | dict =>
      rw [Container.value, Value.printWith, if_neg (by simpa using new)] at printed
      exact printed
    | set id => exact printed
  cases depth with
  | zero => cases contents
  | succ inner => exact ⟨inner, contents, rfl⟩

variable (h) in
/-- The value stands inside all containers that are open. -/
def Deep (opened : List Container) (v : Value) : Prop :=
  ∀ c ∈ opened, TransGen h.ShownIn v c.value

theorem Deep.not_mem {c : Container} (deep : h.Deep opened c.value)
    (acc : Acc h.ShownIn c.value) : c ∉ opened :=
  fun met => not_transGen_self acc (deep c met)

theorem Deep.inner (deep : h.Deep opened v) (inside : h.ShownIn x v) : h.Deep opened x :=
  fun c member => .head inside (deep c member)

theorem Deep.enter {c : Container} (deep : h.Deep opened c.value)
    (inside : h.ShownIn x c.value) : h.Deep (c.openIn opened) x := by
  cases c with
  | list | dict => exact List.forall_mem_cons.2 ⟨.single inside, deep.inner inside⟩
  | set => exact deep.inner inside

/-- A table whose values go with the items of a list is empty if the list is. -/
theorem isEmpty_eq_of_forall₂ {α β : Type} {R : α → β → Prop} {as : List α} {t : Table β}
    (all : List.Forall₂ R as t.values) : t.isEmpty = as.isEmpty := by
  have length := all.length_eq
  rw [Table.values, List.length_map] at length
  rw [Bool.eq_iff_iff, Table.isEmpty, List.isEmpty_iff, List.isEmpty_iff,
    ← List.length_eq_zero_iff, ← List.length_eq_zero_iff, length]

/-- **A value prints as the text of the datum that describes it**, wherever it is
printed. -/
theorem toList_of_printWith {d : Datum} {text : String} (described : d.Describes h v)
    (acc : Acc h.ShownIn v) (deep : h.Deep opened v)
    (printed : v.printWith h (h.printContents? depth) opened = some text) :
    text.toList = d.chars := by
  induction d using Datum.induct generalizing v depth opened text with
  | none | int n =>
    obtain rfl := described
    obtain rfl := Option.some.inj printed
    rfl
  | bool b =>
    obtain rfl := described
    cases b <;> obtain rfl := Option.some.inj printed <;> rfl
  | str s =>
    obtain rfl := described
    obtain rfl := Option.some.inj printed
    exact String.toList_ofList
  | tuple ds ih =>
    obtain ⟨items, rfl, all⟩ := described
    rw [Value.printWith] at printed
    obtain ⟨texts, each, rfl⟩ := bind_return_eq_some_iff.1 printed
    have whole := map_toList_eq (fun d hd x hx _ described printed =>
        ih d hd described (acc.inv hx) (deep.inner hx) printed)
      (Datum.describesAll_iff.1 all) (printAllWith_eq_some_iff.1 each)
    have length : texts.length = ds.length := by simpa using congrArg List.length whole
    rw [toList_bracketed, toList_commaJoin, whole, Datum.chars, Datum.allChars_eq_map, length]
    split <;> rfl
  | list ds ih =>
    obtain ⟨id, rfl, all⟩ := described
    obtain ⟨inner, contents, rfl⟩ :=
      contents_of_printWith (c := .list id) (deep.not_mem acc) printed
    rw [printContents?] at contents
    obtain ⟨texts, each, rfl⟩ := bind_return_eq_some_iff.1 contents
    have whole := map_toList_eq (fun d hd x hx _ described printed =>
        ih d hd described (acc.inv hx) (deep.enter (c := .list id) hx) printed)
      (Datum.describesAll_iff.1 all) (printAllWith_eq_some_iff.1 each)
    rw [toList_bracketed, toList_commaJoin, whole, Datum.chars, Datum.allChars_eq_map]
    rfl
  | dict es ih =>
    obtain ⟨id, rfl, all⟩ := described
    obtain ⟨inner, contents, rfl⟩ :=
      contents_of_printWith (c := .dict id) (deep.not_mem acc) printed
    rw [printContents?] at contents
    obtain ⟨texts, each, rfl⟩ := bind_return_eq_some_iff.1 contents
    have whole : texts.map String.toList = es.map Datum.entryChars := by
      refine map_toList_eq (fun e he x hx text described printed => ?_)
        (Datum.describesEntries_iff.1 all) (printEntriesWith_eq_some_iff.1 each)
      obtain ⟨key, value, first, second, rfl⟩ := printed
      have left : h.ShownIn x.1 (.dict id) := List.mem_flatMap.2 ⟨x, hx, by simp⟩
      have right : h.ShownIn x.2 (.dict id) := List.mem_flatMap.2 ⟨x, hx, by simp⟩
      have keyText :=
        (ih e he).1 described.1 (acc.inv left) (deep.enter (c := .dict id) left) first
      have valueText :=
        (ih e he).2 described.2 (acc.inv right) (deep.enter (c := .dict id) right) second
      simp [Datum.entryChars, keyText, valueText]
    rw [toList_bracketed, toList_commaJoin, whole, Datum.chars, Datum.entriesChars_eq_map]
    rfl
  | set ds ih =>
    obtain ⟨id, rfl, all⟩ := described
    obtain ⟨inner, contents, rfl⟩ :=
      contents_of_printWith (c := .set id) (deep.not_mem acc) printed
    have all := Datum.describesAll_iff.1 all
    rw [printContents?, isEmpty_eq_of_forall₂ all] at contents
    cases ds with
    | nil =>
      obtain rfl := Option.some.inj contents
      rfl
    | cons d ds =>
      obtain ⟨texts, each, rfl⟩ := bind_return_eq_some_iff.1 contents
      have whole := map_toList_eq (fun d hd x hx _ described printed =>
          ih d hd described (acc.inv hx) (deep.enter (c := .set id) hx) printed)
        all (printAllWith_eq_some_iff.1 each)
      rw [toList_bracketed, toList_commaJoin, whole, Datum.chars, Datum.allChars_eq_map]
      rfl

/-- **The printed form of a value that is built** is the text of the datum that
describes it. -/
theorem Built.repr?_eq {d : Datum} (built : h.Built v) (described : d.Describes h v) :
    h.repr? v = some (String.ofList d.chars) := by
  obtain ⟨text, printed⟩ := Option.isSome_iff_exists.1 built.repr?_isSome
  have deep : h.Deep [] v := by simp [Deep]
  rw [printed, ← toList_of_printWith described built.acc deep printed, String.ofList_toList]

end Heap

end MeteredScript
