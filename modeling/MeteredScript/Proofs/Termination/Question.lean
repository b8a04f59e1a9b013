import MeteredScript.Evaluation.Builtin
import MeteredScript.Operation.Relation
import MeteredScript.Proofs.Order.Sorting

/-!
# Questions without an answer

A comparison of two values and the printing of one may have no end, for containers can
contain themselves. `Question` lists what can be asked about values in this way. All
else that is computed from values asks such questions one after the other, so it has no
end only where one of them has no answer, and what else it fails for is a fault
(`Heap.Explains`).
-/

namespace MeteredScript

/-- **What may be asked about values.** -/
inductive Question where
  /-- Whether two values are equal. -/
  | equal (x y : Value)
  /-- Which of two values comes first. -/
  | order (op : CompareOp) (x y : Value)
  /-- What the printed form of a value is. -/
  | printed (v : Value)

namespace Heap

variable {α β : Type} {h : Heap}

/-- There is an end to the search for an answer, or for the reason why there is none. -/
def Answers (h : Heap) : Question → Prop
  | .equal x y => h.equal? x y ≠ none
  | .order op x y => h.order op x y ≠ .error .endless
  | .printed v => h.repr? v ≠ none

/-- There is a question that has no answer. -/
def Unanswered (h : Heap) : Prop := ∃ q, ¬ h.Answers q

theorem unanswered_of_equal? {x y : Value} (hxy : h.equal? x y = none) : h.Unanswered :=
  ⟨.equal x y, fun hne => hne hxy⟩

theorem unanswered_of_repr? {v : Value} (hv : h.repr? v = none) : h.Unanswered :=
  ⟨.printed v, fun hne => hne hv⟩

/-- The text of a value is its own, or the printed form of something. -/
theorem unanswered_of_text? {v : Value} (hv : h.text? v = none) : h.Unanswered := by
  match v, hv with
  | .exception _ _ (some text) _, hv => exact nomatch hv
  | .exception _ _ none carried, hv =>
    simp only [text?, messageText?] at hv
    split at hv
    · cases hv
    · exact unanswered_of_repr? hv
  | .int _, hv | .bool _, hv | .none, hv | .list _, hv | .tuple _, hv | .set _, hv
  | .dict _, hv | .function _ _, hv | .builtin _, hv | .method _ _ _, hv
  | .generator _ _, hv | .exceptionClass _, hv | .classObject _ _, hv =>
    exact unanswered_of_repr? hv

theorem unanswered_of_anyEqual? {x : Value} {items : List Value}
    (hx : h.anyEqual? x items = none) : h.Unanswered := by
  induction items with
  | nil => cases hx
  | cons y ys ih =>
    rw [anyEqual?] at hx
    cases hy : h.equal? y x with
    | none => exact unanswered_of_equal? hy
    | some b =>
      cases b with
      | true => simp only [hy] at hx; cases hx
      | false => exact ih (by simpa only [hy] using hx)

/-! ## Computations that ask -/

/-- **A computation that fails does so for a fault**, or it has come to a question without an
answer and has no end. -/
def Explains (h : Heap) (r : Except Stop α) : Prop :=
  ∀ s, r = .error s → (∃ f, s = .fault f) ∨ s = .endless ∧ h.Unanswered

namespace Explains

theorem ok (a : α) : h.Explains (.ok a) := nofun

theorem fault (f : Fault) : h.Explains (.error (.fault f) : Except Stop α) :=
  fun _ fails => .inl ⟨f, (Except.error.inj fails).symm⟩

theorem endless (asked : h.Unanswered) : h.Explains (.error .endless : Except Stop α) :=
  fun _ fails => .inr ⟨(Except.error.inj fails).symm, asked⟩

/-- What has no end has come to a question without an answer. -/
theorem unanswered {r : Except Stop α} (hr : h.Explains r) (ends : r = .error .endless) :
    h.Unanswered := by
  rcases hr _ ends with ⟨f, hf⟩ | ⟨-, asked⟩
  · cases hf
  · exact asked

theorem bind {r : Except Stop α} {f : α → Except Stop β} (hr : h.Explains r)
    (hf : ∀ a, h.Explains (f a)) : h.Explains (r >>= f) := by
  match r with
  | .ok a => exact hf a
  | .error s =>
    rintro _ ⟨⟩
    exact hr s rfl

theorem map {r : Except Stop α} (f : α → β) (hr : h.Explains r) : h.Explains (f <$> r) := by
  match r with
  | .ok a => nofun
  | .error s =>
    rintro _ ⟨⟩
    exact hr s rfl

theorem answered {answer : Option Bool} (ha : answer = none → h.Unanswered) :
    h.Explains (answered answer) := by
  cases answer with
  | none => exact endless (ha rfl)
  | some b => exact ok b

/-! ### Order -/

section Order

variable {equal : Value → Value → Option Bool} {contents : ListId → ListId → Except Stop Ordering}
  {op : CompareOp}

theorem stops_orderItemsWith {xs : List Value}
    (hxs : ∀ x ∈ xs, ∀ y s, x.orderWith equal contents op y = .error s →
      (∃ f, s = .fault f) ∨ s = .endless) (ys : List Value) (s : Stop)
    (fails : Value.orderItemsWith equal contents op xs ys = .error s) :
    (∃ f, s = .fault f) ∨ s = .endless := by
  induction xs generalizing ys with
  | nil => cases ys <;> cases fails
  | cons x xs ih =>
    cases ys with
    | nil => cases fails
    | cons y ys =>
      rw [Value.orderItemsWith] at fails
      split at fails
      · exact .inr (Except.error.inj fails).symm
      · exact ih (fun x member => hxs x (List.mem_cons_of_mem _ member)) ys fails
      · exact hxs x List.mem_cons_self y s fails

theorem stops_orderWith
    (hcontents : ∀ a b s, contents a b = .error s → (∃ f, s = .fault f) ∨ s = .endless)
    (x y : Value) (s : Stop) (fails : x.orderWith equal contents op y = .error s) :
    (∃ f, s = .fault f) ∨ s = .endless := by
  induction x using Value.tupleInduction generalizing y s with
  | tuple xs ih =>
    cases y with
    | tuple ys => exact stops_orderItemsWith ih ys s fails
    | _ => exact .inl ⟨_, (Except.error.inj fails).symm⟩
  | other x notTuple =>
    unfold Value.orderWith at fails
    split at fails
    · exact absurd rfl (notTuple _)
    · exact hcontents _ _ s fails
    · cases fails
    · split at fails
      · cases fails
      · exact .inl ⟨_, (Except.error.inj fails).symm⟩

theorem stops_listOrder (op : CompareOp) (depth : Nat) (a b : ListId) (s : Stop)
    (fails : h.listOrder op depth a b = .error s) : (∃ f, s = .fault f) ∨ s = .endless := by
  induction depth generalizing a b s with
  | zero => exact .inr (Except.error.inj fails).symm
  | succ depth ih => exact stops_orderItemsWith (fun x _ => stops_orderWith ih x) _ s fails

/-- A comparison without end is such a question itself. -/
theorem order (op : CompareOp) (x y : Value) : h.Explains (h.order op x y) := by
  intro s fails
  rcases stops_orderWith (stops_listOrder op _) x y s fails with fault | rfl
  · exact .inl fault
  · exact .inr ⟨rfl, .order op x y, fun hne => hne fails⟩

end Order

/-! ### Relations -/

theorem contains (container item : Value) : h.Explains (contains h container item) := by
  unfold MeteredScript.contains
  split
  · exact answered unanswered_of_anyEqual?
  · exact answered unanswered_of_anyEqual?
  · split
    · exact ok _
    · exact fault _
  · split
    · exact ok _
    · exact fault _
  · split
    · exact ok _
    · exact fault _
  · exact fault _

theorem related (op : CompareOp) (l r : Value) : h.Explains (related h op l r) := by
  cases op with
  | eq => exact answered unanswered_of_equal?
  | ne => exact map _ (answered unanswered_of_equal?)
  | is => exact ok _
  | isNot => exact ok _
  | isIn => exact contains r l
  | notIn => exact map _ (contains r l)
  | lt => exact map _ (order _ l r)
  | le => exact map _ (order _ l r)
  | gt => exact map _ (order _ l r)
  | ge => exact map _ (order _ l r)

/-! ### Items -/

theorem sequenceItem (container index : Value) (items : List Value) (what : String) :
    h.Explains (sequenceItem container index items what) := by
  unfold MeteredScript.sequenceItem
  split
  · exact fault _
  · exact ok _

theorem missingKey (key : Value) : h.Explains (.error (missingKey h key) : Except Stop α) := by
  unfold MeteredScript.missingKey
  cases hkey : h.repr? key with
  | some printed => exact fault _
  | none => exact endless (unanswered_of_repr? hkey)

theorem dictItem (id : DictId) (key : Value) : h.Explains (dictItem h id key) := by
  unfold MeteredScript.dictItem
  split
  · exact fault _
  · split
    · exact ok _
    · exact missingKey key

theorem itemAt (container key : Value) : h.Explains (itemAt h container key) := by
  unfold MeteredScript.itemAt
  split
  · split
    · exact fault _
    · exact ok _
  · exact sequenceItem _ _ _ _
  · exact sequenceItem _ _ _ _
  · exact dictItem _ _
  · exact fault _

/-! ### Sorting -/

theorem sortBy {less : LessThan α} (hless : ∀ x y, h.Explains (less x y)) (items : List α) :
    h.Explains (sortBy less items) := by
  intro s fails
  obtain ⟨x, -, y, -, hfails⟩ := sortBy_error fails
  exact hless x y s hfails

theorem lessThan (x y : Value) : h.Explains (lessThan h x y) := map _ (order _ x y)

theorem sortValues (items : List Value) : h.Explains (sortValues h items) := by
  rw [sortValues_eq]
  exact sortBy lessThan items

theorem extremeFrom (greatest : Bool) (best : Value) (items : List Value) :
    h.Explains (extremeFrom h greatest best items) := by
  induction items generalizing best with
  | nil => exact ok best
  | cons item rest ih =>
    have hrest (better : Bool) :
        h.Explains (MeteredScript.extremeFrom h greatest (if better then item else best) rest) :=
      ih _
    cases greatest with
    | true => exact bind (lessThan best item) hrest
    | false => exact bind (lessThan item best) hrest

end Explains

end Heap

end MeteredScript
