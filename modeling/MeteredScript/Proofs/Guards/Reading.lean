import MeteredScript.Heap.Guard
import MeteredScript.Operation.Relation
import MeteredScript.Proofs.Printing.Shown

/-!
# Reading under guards

What only reads asks for guards for reading, and these exclude nothing but guards for writing.
So a reading with guards gives what it gives without them, unless someone holds a guard for
writing of an object that it comes to (`Guarded.Reads`).

Printing is such a reading, and it comes to nothing but what it shows. Equality, order,
membership and the lookup of an item are others. Each of them is given here with the guards it
asks for, which it holds for as long as it looks at anything inside.
-/

namespace MeteredScript

open Relation (ReflTransGen)

variable {α β : Type} {h : Heap}

/-! ## What a reading is -/

/-- **A reading**: whatever guards are held, it gives a result or asks for a guard for reading of
an object of a given sort while one for writing is held. -/
def Guarded.Reads (within : Cell → Prop) (x : Guarded α) (r : Except Stop α) : Prop :=
  ∀ held, x held = r.mapError .stop ∨
    ∃ c, x held = .error (.excluded (.reading c)) ∧ .writing c ∈ held ∧ within c

/-- The result of something that may have no end. -/
def unlessEndless : Option α → Except Stop α
  | some a => .ok a
  | none => .error .endless

/-- Whether a guard is one for reading. -/
def Guard.isReading : Guard → Bool
  | .reading _ => true
  | .writing _ => false

theorem Guard.excludes_reading {c : Cell} {g : Guard} :
    (Guard.reading c).excludes g = true ↔ g = .writing c := by
  cases g with
  | reading => simp [excludes]
  | writing c' => simp [excludes, cell, eq_comm (a := c)]

namespace Guarded

variable {within : Cell → Prop} {x : Guarded α} {r : Except Stop α}

theorem reads_pure (a : α) : (pure a : Guarded α).Reads within (.ok a) := fun _ => .inl rfl

theorem reads_throw (s : Stop) : (throw (.stop s) : Guarded α).Reads within (.error s) :=
  fun _ => .inl rfl

theorem Reads.bind {f : α → Guarded β} {g : α → Except Stop β} (reads : x.Reads within r)
    (rest : ∀ a, (f a).Reads within (g a)) : (x >>= f).Reads within (r >>= g) := by
  intro held
  have run : (x >>= f) held = x held >>= fun a => f a held := rfl
  rw [run]
  obtain same | ⟨c, excluded, writing, inside⟩ := reads held
  · rw [same]
    cases r with
    | error s => exact .inl rfl
    | ok a => exact rest a held
  · exact .inr ⟨c, by rw [excluded]; rfl, writing, inside⟩

theorem Reads.mono {within' : Cell → Prop} (reads : x.Reads within r)
    (more : ∀ c, within c → within' c) : x.Reads within' r := fun held =>
  (reads held).imp_right fun ⟨c, excluded, writing, inside⟩ => ⟨c, excluded, writing, more c inside⟩

/-- A guard for reading may be held around a reading. -/
theorem Reads.holding {c : Cell} (reads : x.Reads within r) (inside : within c) :
    (holding (.reading c) x).Reads within r := by
  intro held
  rw [Guarded.holding]
  split
  · rename_i excluded
    obtain ⟨g, member, excludes⟩ := List.any_eq_true.1 excluded
    rw [Guard.excludes_reading.1 excludes] at member
    exact .inr ⟨c, rfl, member, inside⟩
  · refine (reads (.reading c :: held)).imp_right fun ⟨c', excluded, writing, inside⟩ => ?_
    exact ⟨c', excluded, by simpa using writing, inside⟩

/-- **Readers do not exclude each other.** -/
theorem Reads.of_readers {held : List Guard} (reads : x.Reads within r)
    (readers : ∀ g ∈ held, g.isReading = true) : x held = r.mapError .stop := by
  obtain same | ⟨c, -, writing, -⟩ := reads held
  · exact same
  · exact absurd (readers _ writing) (by simp [Guard.isReading])

end Guarded

/-! ## Printing -/

theorem unlessEndless_bind (o : Option α) (f : α → Option β) :
    unlessEndless (o >>= f) = unlessEndless o >>= fun a => unlessEndless (f a) := by
  cases o <;> rfl

namespace Heap

/-- The objects that printing a value comes to: the containers among what it shows, and
generators, which are asked for their names. -/
def CameTo (h : Heap) (v : Value) : Cell → Prop
  | .container c => ReflTransGen h.ShownIn c.value v
  | .generator _ => True

variable {v x : Value} {opened : List Container} {within : Cell → Prop}
  {guarded : List Container → Container → Guarded String}
  {plain : List Container → Container → Option String}

mutual

/-- Printing a value reads if printing the containers that it shows does. -/
theorem guardedPrintWith_reads (names : ∀ id, within (.generator id)) :
    ∀ v : Value,
      (∀ opened c, ReflTransGen h.ShownIn c.value v →
        (guarded opened c).Reads within (unlessEndless (plain opened c))) →
      (v.guardedPrintWith h guarded opened).Reads within
        (unlessEndless (v.printWith h plain opened))
  | .list id, contents => by
    rw [Value.guardedPrintWith, Value.printWith]
    split
    · exact Guarded.reads_pure _
    · exact contents opened (.list id) .refl
  | .dict id, contents => by
    rw [Value.guardedPrintWith, Value.printWith]
    split
    · exact Guarded.reads_pure _
    · exact contents opened (.dict id) .refl
  | .set id, contents => contents opened (.set id) .refl
  | .tuple items, contents => by
    rw [Value.guardedPrintWith, Value.printWith, unlessEndless_bind]
    exact (guardedPrintAllWith_reads names items fun opened c x member shown =>
      contents opened c (shown.tail member)).bind fun _ => Guarded.reads_pure _
  | .generator id name, _ => (Guarded.reads_pure _).holding (names id)
  | .exception _ kind (some text) carried, _ => Guarded.reads_pure _
  | .exception serial kind none carried, contents => by
    rw [Value.guardedPrintWith, Value.printWith]
    dsimp only
    split
    · exact Guarded.reads_pure _
    · rw [unlessEndless_bind]
      exact (guardedPrintWith_reads names carried fun opened c shown =>
        contents opened c (shown.tail (List.mem_singleton.2 rfl))).bind
          fun _ => Guarded.reads_pure _
  | .none, _ | .bool true, _ | .bool false, _ | .int _, _ | .str _, _ | .function .., _
  | .builtin _, _ | .method .., _ | .exceptionClass _, _ | .classObject .., _ =>
    Guarded.reads_pure _

theorem guardedPrintAllWith_reads (names : ∀ id, within (.generator id)) :
    ∀ vs : List Value,
      (∀ opened c, ∀ x ∈ vs, ReflTransGen h.ShownIn c.value x →
        (guarded opened c).Reads within (unlessEndless (plain opened c))) →
      (Value.guardedPrintAllWith h guarded opened vs).Reads within
        (unlessEndless (Value.printAllWith h plain opened vs))
  | [], _ => Guarded.reads_pure _
  | v :: vs, contents => by
    rw [Value.guardedPrintAllWith, Value.printAllWith, unlessEndless_bind]
    refine (guardedPrintWith_reads names v fun opened c => contents opened c v (by simp)).bind
      fun text => ?_
    rw [unlessEndless_bind]
    exact (guardedPrintAllWith_reads names vs fun opened c x member =>
      contents opened c x (by simp [member])).bind fun _ => Guarded.reads_pure _

end

theorem guardedPrintEntriesWith_reads (names : ∀ id, within (.generator id))
    (es : List (Value × Value))
    (contents : ∀ opened c, ∀ x ∈ es.flatMap fun e => [e.1, e.2],
      ReflTransGen h.ShownIn c.value x →
      (guarded opened c).Reads within (unlessEndless (plain opened c))) :
    (Value.guardedPrintEntriesWith h guarded opened es).Reads within
      (unlessEndless (Value.printEntriesWith h plain opened es)) := by
  induction es with
  | nil => exact Guarded.reads_pure _
  | cons e es ih =>
    obtain ⟨key, value⟩ := e
    rw [Value.guardedPrintEntriesWith, Value.printEntriesWith, unlessEndless_bind]
    refine (guardedPrintWith_reads names key fun opened c =>
      contents opened c key (by simp)).bind fun keyText => ?_
    rw [unlessEndless_bind]
    refine (guardedPrintWith_reads names value fun opened c =>
      contents opened c value (by simp)).bind fun valueText => ?_
    rw [unlessEndless_bind]
    refine (ih fun opened c x member => contents opened c x ?_).bind fun _ =>
      Guarded.reads_pure _
    simpa using .inr (.inr (by simpa using member))

/-- Printing a container comes to nothing but what it shows. -/
theorem guardedContents_reads (depth : Nat) (opened : List Container) (c : Container)
    (met : ReflTransGen h.ShownIn c.value v) :
    (h.guardedContents depth opened c).Reads (h.CameTo v)
      (unlessEndless (h.printContents? depth opened c)) := by
  induction depth generalizing opened c with
  | zero => exact Guarded.reads_throw _
  | succ depth ih =>
    have inside (opened : List Container) (c' : Container) (x : Value)
        (member : x ∈ h.shown c.value) (shown : ReflTransGen h.ShownIn c'.value x) :=
      ih opened c' ((shown.tail member).trans met)
    cases c with
    | list id =>
      rw [guardedContents, printContents?, unlessEndless_bind]
      exact ((guardedPrintAllWith_reads (fun _ => trivial) _ inside).bind
        fun _ => Guarded.reads_pure _).holding met
    | dict id =>
      rw [guardedContents, printContents?, unlessEndless_bind]
      exact ((guardedPrintEntriesWith_reads (fun _ => trivial) _ inside).bind
        fun _ => Guarded.reads_pure _).holding met
    | set id =>
      rw [guardedContents, printContents?]
      refine Guarded.Reads.holding ?_ met
      split
      · exact Guarded.reads_pure _
      · rw [unlessEndless_bind]
        exact (guardedPrintAllWith_reads (fun _ => trivial) _ inside).bind
          fun _ => Guarded.reads_pure _

/-- **Printing a value reads, and comes to nothing but what the value shows.** -/
theorem guardedRepr_reads (h : Heap) (v : Value) :
    (h.guardedRepr v).Reads (h.CameTo v) (unlessEndless (h.repr? v)) :=
  guardedPrintWith_reads (fun _ => trivial) v fun opened c => guardedContents_reads _ opened c

end Heap

end MeteredScript
