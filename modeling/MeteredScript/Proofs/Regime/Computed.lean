import MeteredScript.Evaluation.Statement
import MeteredScript.Proofs.Order.Sorting
import MeteredScript.Proofs.Representation.Heap

/-!
# What the pure operations give

Between two looks at the machine an evaluation computes with values: it reads
an item, adds, sorts, binds arguments. None of these operations makes a class
object, so what they give holds only class objects that they were given, or
that the heap holds; and the dicts and sets that operators build are sound.

The faults that operations refuse with say what was wrong in words. They carry
no values.
-/

namespace MeteredScript

variable {S : ScopeId → Prop}

instance {α β : Type} [Plain α] [Plain β] : Plain (Except α β) where
  toHolder := inferInstance
  names_false
    | .ok b => Plain.names_false b
    | .error a => Plain.names_false a

instance : Plain Ordering := .trivial _

section Except

variable {ε α β : Type} [Holder ε] [Holder α] [Holder β] {r : Except ε α}

/-- A computation goes on with what the first part gives. -/
theorem Within.bind {f : α → Except ε β} (h : Within S r)
    (hf : ∀ a, r = .ok a → Within S a → Within S (f a)) : Within S (r >>= f) := by
  cases r with
  | ok a => exact hf a rfl h
  | error e => exact h

theorem Within.map {f : α → β} (h : Within S r) (hf : ∀ a, Within S a → Within S (f a)) :
    Within S (f <$> r) := by
  cases r with
  | ok a => exact hf a h
  | error e => exact h

end Except

/-! ## Faults -/

@[simp] theorem within_integerOverflow : Within S Fault.integerOverflow := within_faultSaying _ _

@[simp] theorem within_alreadyExecuting : Within S Fault.alreadyExecuting := within_faultSaying _ _

@[simp] theorem within_recursionLimit : Within S Fault.recursionLimit := within_faultSaying _ _

@[simp] theorem within_nothingToReraise : Within S Fault.nothingToReraise :=
  within_faultSaying _ _

@[simp] theorem within_escapedStopIteration : Within S Fault.escapedStopIteration :=
  within_faultSaying _ _

@[simp] theorem within_ignoredExit : Within S Fault.ignoredExit := within_protocolViolation _

/-! ## Integers -/

theorem within_fit (n : Int) : Within S (Integer.fit n) := by
  unfold Integer.fit
  split <;> simp

theorem within_apply (op : BinaryOp) (a b : Int64) : Within S (Integer.apply op a b) := by
  cases op with
  | floorDiv =>
    rw [Integer.apply, Integer.floorDiv]
    split
    · exact within_faultSaying _ _
    · exact (within_fit _).map fun _ _ => within_plain _
  | mod =>
    rw [Integer.apply, Integer.mod]
    split
    · exact within_faultSaying _ _
    · split <;> simp
  | pow =>
    rw [Integer.apply, Integer.pow]
    split
    · exact within_faultSaying _ _
    · exact within_fit _
  | add | sub | mul => exact within_fit _
  | bitOr | bitAnd | bitXor => simp [Integer.apply]

theorem within_negated (v : Value) : Within S (negated v) := by
  unfold negated
  split
  · exact (within_fit _).map fun n _ => within_int n
  · simp

theorem within_combineNumbers (op : BinaryOp) (l r : Value) (m n : Int64) :
    Within S (combineNumbers op l r m n) := by
  unfold combineNumbers
  split
  · split
    · exact within_bool _
    · exact (within_apply op m n).map fun n _ => within_int n
  · exact (within_apply op m n).map fun n _ => within_int n

/-! ## Operators -/

theorem within_repeatLength (h : Heap) (op : BinaryOp) (l r : Value) :
    Within S (repeatLength h op l r) := by
  have measured (length : Nat) (what : String) (count : Int64) :
      Within S (some <$> repetitionLength length what count) := by
    unfold repetitionLength
    split
    · simp
    · exact within_faultSaying _ _
  unfold repeatLength
  split
  · simp
  · split
    · exact measured _ _ _
    · exact measured _ _ _
    · simp

theorem Within.repeatList {xs : List Value} (h : Within S xs) (count : Nat) :
    Within S (repeatList count xs) := by
  refine h.of_subset fun x member => ?_
  rw [repeatList_eq_flatten, List.mem_flatten] at member
  obtain ⟨ys, copy, inside⟩ := member
  rwa [List.eq_of_mem_replicate copy] at inside

section Operators

variable {h : Heap} {l r : Value} {result : Fresh}

theorem within_repeated? (upheld : h.Upheld S) {v : Value} (hv : Within S v) {count : Int64}
    (made : v.repeated? h count = some result) : result.Sound ∧ Within S result := by
  cases v with
  | str s =>
    cases made
    exact ⟨trivial, within_str _⟩
  | list id =>
    cases made
    exact ⟨trivial, (within_array.1 (upheld.list id)).repeatList _⟩
  | tuple items =>
    cases made
    have copied := (within_list.2 (within_tuple.1 hv)).repeatList (copies count)
    exact ⟨trivial, within_tuple.2 (within_list.1 copied)⟩
  | _ => simp [Value.repeated?] at made

theorem within_product? (upheld : h.Upheld S) (hl : Within S l) (hr : Within S r)
    (made : product? h l r = some result) : result.Sound ∧ Within S result := by
  unfold product? at made
  split at made
  · exact within_repeated? upheld hl made
  · exact within_repeated? upheld hr made
  · cases made

/-- **What an operator builds** is sound. -/
theorem within_combine? {op : BinaryOp} (upheld : h.Upheld S) (hl : Within S l) (hr : Within S r)
    (made : combine? h op l r = some result) : result.Sound ∧ Within S result := by
  unfold combine? at made
  split at made
  · cases made
    exact ⟨trivial, within_str _⟩
  · rename_i a b
    cases made
    refine ⟨trivial, within_array.2 ?_⟩
    rw [Array.toList_append, within_append]
    exact ⟨upheld.list a, upheld.list b⟩
  · cases made
    rw [within_tuple] at hl hr
    refine ⟨trivial, within_tuple.2 fun x member => ?_⟩
    exact (List.mem_append.1 member).elim (hl x) (hr x)
  · exact within_product? upheld hl hr made
  · rename_i a b
    cases made
    refine ⟨(upheld.sound.dict a).merge (upheld.sound.dict b), within_table.2 fun e member => ?_⟩
    exact (Table.mem_merge member).elim (within_table.1 (upheld.dict a) e)
      (within_table.1 (upheld.dict b) e)
  · rename_i a b _
    obtain ⟨t, combined, rfl⟩ := Option.map_eq_some_iff.1 made
    refine ⟨(upheld.sound.set a).onSets? (upheld.sound.set b) combined,
      within_table.2 fun e member => ?_⟩
    exact (ItemTable.mem_onSets? combined member).elim (within_table.1 (upheld.set a) e)
      (within_table.1 (upheld.set b) e)
  · cases made

theorem within_binaryResult (op : BinaryOp) (upheld : h.Upheld S) (hl : Within S l)
    (hr : Within S r) :
    Within S (binaryResult h op l r) ∧ ∀ result, binaryResult h op l r = .ok result →
      result.Sound := by
  unfold binaryResult
  split
  · rename_i m n _ _
    have number := within_combineNumbers (S := S) op l r m n
    cases combined : combineNumbers op l r m n with
    | error f => exact ⟨by rwa [combined] at number, fun _ made => by cases made⟩
    | ok v =>
      rw [combined] at number
      refine ⟨number, fun _ made => ?_⟩
      cases made
      trivial
  · have length := within_repeatLength (S := S) h op l r
    cases measured : repeatLength h op l r with
    | error f => exact ⟨by rwa [measured] at length, fun _ made => by cases made⟩
    | ok n =>
      cases made : combine? h op l r with
      | none => exact ⟨by simp [bind, Except.bind, throw, throwThe, MonadExceptOf.throw, operandsFault],
        fun _ made => by cases made⟩
      | some result =>
        obtain ⟨sound, within⟩ := within_combine? upheld hl hr made
        refine ⟨within, fun _ made => ?_⟩
        cases made
        exact sound

end Operators

/-! ## Items -/

section Items

variable {h : Heap} {container key : Value}

theorem within_positionOf (container index : Value) (length : Nat) (what : String) :
    Within S (positionOf container index length what) := by
  unfold positionOf
  split
  · simp
  · split
    · simp
    · exact within_faultSaying _ _

/-- What an array holds at a position, or a default. -/
theorem within_getD {xs : List Value} (hxs : Within S xs) (i : Nat) :
    Within S (xs.getD i .none) := by
  rw [List.getD_eq_getElem?_getD]
  exact (hxs.getElem? i).getD within_none

theorem within_sequenceItem {items : List Value} (hitems : Within S items) (what : String) :
    Within S (sequenceItem container key items what) := by
  have position := within_positionOf (S := S) container key items.length what
  unfold sequenceItem
  split
  · simpa [*] using position
  · exact within_getD hitems _

theorem within_missingKey (h : Heap) (key : Value) : Within S (missingKey h key) := by
  unfold missingKey
  split
  · exact within_faultSaying _ _
  · exact within_endless

/-- The characters of a text are texts. -/
theorem within_characters (s : String) : Within S (characters s) := by
  refine within_list.2 fun v member => ?_
  obtain ⟨c, -, rfl⟩ := List.mem_map.1 member
  exact within_str _

/-- **Reading an item.** -/
theorem within_itemAt (upheld : h.Upheld S) (hc : Within S container) :
    Within S (itemAt h container key) := by
  cases container with
  | list id =>
    have position := within_positionOf (S := S) (.list id) key (h.list id).size "list"
    simp only [itemAt]
    split
    · simpa [*] using position
    · rename_i i _
      show Within S ((h.list id).getD i .none)
      rw [Array.getD_eq_getD_getElem?, ← Array.getElem?_toList, ← List.getD_eq_getElem?_getD]
      exact within_getD (upheld.list id) i
  | tuple items => exact within_sequenceItem (within_list.2 (within_tuple.1 hc)) _
  | str s => exact within_sequenceItem (within_characters s) _
  | dict id =>
    simp only [itemAt, dictItem]
    split
    · simp
    · split
      · rename_i found
        have entry := (upheld.dict id).find? ‹HashKey›
        rw [found, within_some] at entry
        exact entry.snd
      · exact within_missingKey h key
  | _ => simp [itemAt]

theorem within_storePlace (hk : Within S key) : Within S (storePlace h container key) := by
  cases stored : storePlace h container key with
  | ok place => exact (storePlace_keyed stored).2 hk
  | error f =>
    cases container with
    | list id =>
      have position := within_positionOf (S := S) (.list id) key (h.list id).size
        "list assignment"
      simp only [storePlace] at stored
      cases found : positionOf (.list id) key (h.list id).size "list assignment" with
      | ok i => simp [found] at stored
      | error f' =>
        rw [found] at stored position
        cases stored
        exact position
    | dict id =>
      simp only [storePlace] at stored
      split at stored
      · cases stored
      · cases stored
        simp
    | _ =>
      cases stored
      simp

theorem within_cursor {v : Value} (upheld : h.Upheld S) (hv : Within S v) :
    Within S (Cursor.ofValue h v) := by
  cases v with
  | list id => exact within_listCursor id 0
  | tuple xs => exact within_list.2 (within_tuple.1 hv)
  | str s => exact within_characters s
  | dict id =>
    refine within_list.2 fun key member => ?_
    obtain ⟨entry, stored, rfl⟩ := List.mem_map.1 member
    exact (within_list.1 (upheld.dict id).values entry stored).fst
  | set id => exact (upheld.set id).values
  | generator id name => exact within_generatorCursor id
  | _ => simp [Cursor.ofValue]

/-- What a pattern captures is the subject or in it. -/
theorem within_captures? {v : Value} (upheld : h.Upheld S) (hv : Within S v) (p : Pattern) :
    Within S (p.captures? h v) := by
  cases p with
  | wildcard => exact within_some.2 within_nil
  | capture name => simpa [Pattern.captures?] using hv
  | literals options =>
    simp only [Pattern.captures?]
    split
    · exact within_some.2 within_nil
    · exact within_optionNone
  | sequence names =>
    have items {xs : List Value} (hxs : Within S xs) :
        Within S (if xs.length = names.length then
          some ((names.zip xs).filter (·.1 ≠ "_")) else none) := by
      split
      · refine within_some.2 (within_list.2 fun e member => ?_)
        have inside := List.of_mem_zip (List.mem_of_mem_filter member)
        exact within_pair.2 ⟨within_plain e.1, within_list.1 hxs _ inside.2⟩
      · exact within_optionNone
    cases v with
    | list id => exact items (upheld.list id)
    | tuple xs => exact items (within_list.2 (within_tuple.1 hv))
    | _ => exact within_optionNone

end Items

/-! ## Calls -/

theorem within_matchArguments {parameters : List (String × Option Value)} {arguments : List Value}
    (hp : Within S parameters) (ha : Within S arguments) :
    Within S (matchArguments parameters arguments).1 := by
  induction parameters generalizing arguments with
  | nil => exact within_nil
  | cons parameter parameters ih =>
    obtain ⟨name, fallback⟩ := parameter
    rw [within_cons, within_pair] at hp
    cases arguments with
    | cons v arguments =>
      rw [within_cons] at ha
      rw [matchArguments, within_cons, within_pair]
      exact ⟨⟨within_plain name, ha.1⟩, ih hp.2 ha.2⟩
    | nil =>
      cases fallback with
      | none => exact ih hp.2 within_nil
      | some v =>
        rw [matchArguments, within_cons, within_pair]
        exact ⟨⟨within_plain name, within_some.1 hp.1.2⟩, ih hp.2 within_nil⟩

theorem within_bindArguments (name : String) {parameters : List (String × Option Value)}
    {arguments : List Value} (hp : Within S parameters) (ha : Within S arguments) :
    Within S (bindArguments name parameters arguments) := by
  have bound := within_matchArguments hp ha
  unfold bindArguments
  split
  · simp
  · split
    · rename_i found
      rwa [found] at bound
    · simp

theorem within_exceptionArguments (message : Option String) {carried : Value}
    (h : Within S carried) : Within S (exceptionArguments message carried) := by
  unfold exceptionArguments
  split
  · simp
  · split <;> simp [h]

theorem within_exceptionOf {v : Value} (h : Within S v) : Within S (exceptionOf v) := by
  cases v with
  | exception serial kind message carried => exact within_exception.1 h
  | exceptionClass kind => exact within_bare kind
  | _ => simp [exceptionOf]

/-! ## Order -/

section Order

variable {equal : Value → Value → Option Bool} {contents : ListId → ListId → Except Stop Ordering}
  {op : CompareOp}

theorem within_orderItemsWith {xs : List Value}
    (hxs : ∀ x ∈ xs, ∀ y, Within S (x.orderWith equal contents op y)) (ys : List Value) :
    Within S (Value.orderItemsWith equal contents op xs ys) := by
  induction xs generalizing ys with
  | nil => cases ys <;> simp [Value.orderItemsWith]
  | cons x xs ih =>
    cases ys with
    | nil => simp [Value.orderItemsWith]
    | cons y ys =>
      rw [Value.orderItemsWith]
      split
      · simp
      · exact ih (fun x member => hxs x (List.mem_cons_of_mem _ member)) ys
      · exact hxs x List.mem_cons_self y

/-- Values that cannot be ordered are refused by the names of their types. -/
theorem within_orderWith (hcontents : ∀ a b, Within S (contents a b)) (x y : Value) :
    Within S (x.orderWith equal contents op y) := by
  induction x using Value.tupleInduction generalizing y with
  | tuple xs ih =>
    cases y with
    | tuple ys => exact within_orderItemsWith ih ys
    | _ => simp [Value.orderWith, Value.asInt?]
  | other x notTuple =>
    unfold Value.orderWith
    split
    · exact absurd rfl (notTuple _)
    · exact hcontents _ _
    · simp
    · split <;> simp

theorem within_listOrder (h : Heap) (op : CompareOp) (depth : Nat) (a b : ListId) :
    Within S (h.listOrder op depth a b) := by
  induction depth generalizing a b with
  | zero => simp [Heap.listOrder]
  | succ depth ih => exact within_orderItemsWith (fun x _ => within_orderWith ih x) _

theorem within_order (h : Heap) (op : CompareOp) (x y : Value) : Within S (h.order op x y) :=
  within_orderWith (within_listOrder h op _) x y

theorem within_lessThan (h : Heap) (x y : Value) : Within S (lessThan h x y) :=
  (within_order h .lt x y).map fun _ _ => within_plain _

theorem within_answered (answer : Option Bool) : Within S (answered answer) := by
  cases answer <;> simp [answered]

theorem within_contains (h : Heap) (container item : Value) :
    Within S (contains h container item) := by
  unfold contains
  split
  · exact within_answered _
  · exact within_answered _
  · split <;> simp
  · split <;> simp
  · split <;> simp
  · simp

theorem within_related (h : Heap) (op : CompareOp) (l r : Value) :
    Within S (related h op l r) := by
  have plain {α : Type} [Holder α] {answer : Except Stop α} (hanswer : Within S answer)
      (f : α → Bool) : Within S (f <$> answer) := hanswer.map fun _ _ => within_plain _
  cases op with
  | eq => exact within_answered _
  | ne => exact plain (within_answered _) _
  | is | isNot => simp [related]
  | isIn => exact within_contains h r l
  | notIn => exact plain (within_contains h r l) _
  | lt | le | gt | ge => exact plain (within_order h _ l r) _

/-! ## Sorting -/

theorem within_sortValues (h : Heap) {items : List Value} (hitems : Within S items) :
    Within S (sortValues h items) := by
  rw [sortValues_eq]
  cases sorted : sortBy (lessThan h) items with
  | ok xs => exact within_ok.2 (hitems.of_subset (subset_of_sortBy sorted))
  | error s =>
    obtain ⟨x, -, y, -, fails⟩ := sortBy_error sorted
    have within := within_lessThan (S := S) h x y
    rw [fails] at within
    exact within_error.2 (within_error.1 within)

end Order

/-! ## Built-in functions -/

theorem within_extremeFrom (h : Heap) (greatest : Bool) {best : Value} {items : List Value}
    (hbest : Within S best) (hitems : Within S items) :
    Within S (extremeFrom h greatest best items) := by
  induction items generalizing best with
  | nil => exact hbest
  | cons item items ih =>
    rw [within_cons] at hitems
    have go (tested : Except Stop Bool) (h' : Within S tested) :
        Within S (tested >>= fun better =>
          extremeFrom h greatest (if better then item else best) items) := by
      refine h'.bind fun better _ _ => ?_
      cases better with
      | true => exact ih hitems.1 hitems.2
      | false => exact ih hbest hitems.2
    cases greatest <;> exact go _ (within_lessThan h _ _)

theorem within_numbered (start : Int) {items : List Value} (hitems : Within S items) :
    Within S (numbered start items) := by
  induction items generalizing start with
  | nil => exact within_nil
  | cons item items ih =>
    rw [within_cons] at hitems
    refine (within_fit start).bind fun n _ _ => ?_
    refine (ih (start + 1) hitems.2).bind fun rest _ hrest => ?_
    exact within_cons.2 ⟨by simp [hitems.1], hrest⟩

theorem within_emptyOf (target : Builtin) : (emptyOf target).Sound ∧ Within S (emptyOf target) := by
  cases target with
  | dict => exact ⟨Table.Sound.empty, within_emptyTable⟩
  | set => exact ⟨Table.Sound.empty, within_emptyTable⟩
  | _ => exact ⟨trivial, by simp [emptyOf]⟩

end MeteredScript
