import MeteredScript.Evaluation.Bounded
import MeteredScript.Evaluation.Method
import MeteredScript.Operation.Relation
import MeteredScript.Proofs.Equality.Coherence
import MeteredScript.Proofs.Iteration.Walk
import MeteredScript.Proofs.Printing.Ending
import MeteredScript.Proofs.Representation.Heap

/-!
# The protocols of containers

A container can be asked for its length, for the item at a position or under a
key, whether something is in it, and for one item after the other. Each of
these is an operation of its own, with a case for each kind of container. They
agree with one another: all of them speak of the items that iteration gives
(`ContainerProtocol`), and the methods of a dict besides speak of the values
that go with them (`DictProtocol`).

Lists, tuples and strings are read by position, and membership in the first
two is a search with `==`. Dicts and sets are asked by key. That the two kinds
of membership are one is what the invariant of tables (`Heap.Sound`) and the
coherence of keys with equality give.
-/

namespace MeteredScript

variable {ev : Evaluator} {m : Machine} {h : Heap} {v x : Value} {xs : List Value}

/-! ## Lengths and positions -/

/-- The length of a container is the number of its items. -/
theorem Value.length?_of_items (items : v.items? h = some xs) : v.length? h = some xs.length := by
  cases v with
  | str s =>
    obtain rfl := Option.some.inj items
    rw [Value.length?, characters, List.length_map, String.length_toList]
  | list id =>
    obtain rfl := Option.some.inj items
    simp [Value.length?]
  | tuple | dict | set =>
    obtain rfl := Option.some.inj items
    simp [Value.length?, Table.values, Table.size]
  | _ => cases items

/-- The containers whose items are read by position. -/
def Value.isIndexed : Value → Bool
  | str _ | list _ | tuple _ => true
  | _ => false

/-- Their items are those of iteration. -/
theorem itemAt_eq_sequenceItem (indexed : v.isIndexed = true) (items : v.items? h = some xs) :
    ∃ what, ∀ index, itemAt h v index = sequenceItem v index xs what := by
  cases v with
  | str | tuple =>
    obtain rfl := Option.some.inj items
    exact ⟨_, fun _ => rfl⟩
  | list id =>
    obtain rfl := Option.some.inj items
    refine ⟨"list", fun index => ?_⟩
    rw [itemAt, sequenceItem, List.drop_zero, Array.length_toList]
    cases positionOf (.list id) index (h.list id).size "list" with
    | error f => rfl
    | ok k => simp
  | _ => cases indexed

/-! ## Membership -/

/-- A search with `==` that ends finds an equal item if there is one. -/
theorem Heap.anyEqual?_eq_some {b : Bool} (ends : h.anyEqual? x xs = some b) :
    b = true ↔ ∃ item ∈ xs, h.Equal item x := by
  induction xs with
  | nil =>
    obtain rfl := Option.some.inj ends
    simp
  | cons y ys ih =>
    rw [Heap.anyEqual?] at ends
    rw [List.exists_mem_cons_iff, Heap.Equal]
    cases answer : h.equal? y x with
    | none => simp [answer] at ends
    | some first =>
      cases first with
      | true => simp_all
      | false =>
        simp only [answer] at ends
        simp [ih ends]

/-- **A key is in a table exactly if a value equal to it is.** -/
theorem Table.Sound.contains_iff {α : Type} {value : α → Value} {t : Table α}
    (sound : t.Sound value) {k : HashKey} (key : x.hashKey = .ok k) :
    t.contains k = true ↔ ∃ item ∈ t.values.map value, h.Equal item x := by
  rw [Table.contains_iff, Table.mem_keys_iff]
  constructor
  · rintro ⟨a, stored⟩
    refine ⟨value a, List.mem_map_of_mem (List.mem_map_of_mem stored), ?_⟩
    exact (Heap.equal_iff_hashKey (sound.keyed _ stored) key).2 rfl
  · -- An equal item has the same key, which is the one it stands under.
    rintro ⟨_, member, equal⟩
    obtain ⟨a, inside, rfl⟩ := List.mem_map.1 member
    obtain ⟨⟨l, a⟩, stored, rfl⟩ := List.mem_map.1 inside
    obtain rfl := (Heap.equal_iff_hashKey (sound.keyed _ stored) key).1 equal
    exact ⟨a, stored⟩

/-- The containers in which single items are looked for. -/
def Value.isCollection : Value → Bool
  | list _ | tuple _ | dict _ | set _ => true
  | _ => false

/-- **An item is in a container exactly if iteration gives an equal one.** -/
theorem contains_iff_exists_equal (sound : h.Sound) (collection : v.isCollection = true)
    (items : v.items? h = some xs) {b : Bool} (answer : contains h v x = .ok b) :
    b = true ↔ ∃ item ∈ xs, h.Equal item x := by
  have searched {ys : List Value} (found : answered (h.anyEqual? x ys) = .ok b) :
      b = true ↔ ∃ item ∈ ys, h.Equal item x := by
    cases ends : h.anyEqual? x ys with
    | none => simp [ends, answered] at found
    | some b' =>
      obtain rfl : b' = b := by simpa [ends, answered] using found
      exact Heap.anyEqual?_eq_some ends
  cases v with
  | list | tuple =>
    obtain rfl := Option.some.inj items
    exact searched answer
  | dict id =>
    obtain rfl := Option.some.inj items
    rw [contains] at answer
    cases key : x.hashKey with
    | error why => simp [key] at answer
    | ok k =>
      obtain rfl : (h.dict id).contains k = b := by simpa [key] using answer
      exact (sound.dict id).contains_iff key
  | set id =>
    obtain rfl := Option.some.inj items
    rw [contains] at answer
    cases key : x.hashKey with
    | error why => simp [key] at answer
    | ok k =>
      obtain rfl : (h.set id).contains k = b := by simpa [key] using answer
      simpa using (sound.set id).contains_iff (h := h) key
  | _ => cases collection

/-! ## Dicts -/

/-- **The protocol of dicts**: what the methods of a dict say, given the keys
and values of its entries. -/
structure DictProtocol (ev : Evaluator) (m : Machine) (id : DictId) (keys values : List Value) :
    Prop where
  /-- There are as many of one as of the other, and the methods list them. -/
  length : values.length = keys.length
  listsKeys : ∃ a heap,
    (callMethod ev (.dict id) "keys" []).on m = (.ok (.list a), { m with heap }) ∧
    m.heap.OneListMore heap a keys
  listsValues : ∃ a heap,
    (callMethod ev (.dict id) "values" []).on m = (.ok (.list a), { m with heap }) ∧
    m.heap.OneListMore heap a values
  listsItems : ∃ a heap,
    (callMethod ev (.dict id) "items" []).on m = (.ok (.list a), { m with heap }) ∧
    m.heap.OneListMore heap a (List.zipWith (fun k x => .tuple [k, x]) keys values)
  /-- Each key is in the dict and leads to the value at its position. -/
  found : ∀ (i : Nat) (k x : Value), keys[i]? = some k → values[i]? = some x →
    contains m.heap (.dict id) k = .ok true ∧ itemAt m.heap (.dict id) k = .ok x ∧
    (callMethod ev (.dict id) "get" [k]).on m = (.ok x, m) ∧
    ∀ fallback, (callMethod ev (.dict id) "get" [k, fallback]).on m = (.ok x, m)
  /-- Every other value that has a key is missing, which is said by a `KeyError`
  with its printed form, and `get` gives what it was told to. -/
  missing : ∀ (k : Value) (key : HashKey), k.hashKey = .ok key →
    contains m.heap (.dict id) k = .ok false →
    (¬ m.heap.GoesRound k → ∃ printed, m.heap.repr? k = some printed ∧
      itemAt m.heap (.dict id) k = .error (.fault (.missingKey printed))) ∧
    (callMethod ev (.dict id) "get" [k]).on m = (.ok .none, m) ∧
    ∀ fallback, (callMethod ev (.dict id) "get" [k, fallback]).on m = (.ok fallback, m)

section Dicts

variable {id : DictId}

theorem on_get (ev : Evaluator) (m : Machine) (id : DictId) {k : Value} {key : HashKey}
    (hashed : k.hashKey = .ok key) :
    (callMethod ev (.dict id) "get" [k]).on m =
        (.ok (((m.heap.dict id).find? key).elim .none Prod.snd), m) ∧
      ∀ fallback, (callMethod ev (.dict id) "get" [k, fallback]).on m =
        (.ok (((m.heap.dict id).find? key).elim fallback Prod.snd), m) := by
  -- One and two arguments differ in what stands in for a missing entry only.
  have asked (arguments : List Value) (count : 1 ≤ arguments.length ∧ arguments.length ≤ 2)
      (first : arguments.headD .none = k) : (callMethod ev (.dict id) "get" arguments).on m =
        (.ok (((m.heap.dict id).find? key).elim (arguments[1]?.getD .none) Prod.snd), m) := by
    have counted : (checkCount "get" arguments 1 2).on m = (.ok (), m) := by
      rw [checkCount, if_pos count, Eval.on_pure]
    have keyed : (Eval.ofTypeFault (arguments.headD .none).hashKey).on m = (.ok key, m) := by
      rw [first, hashed]
      rfl
    refine (Eval.on_bind_ok counted _).trans ((Eval.on_bind_ok keyed _).trans
      ((Eval.on_bind_ok (Eval.on_heap m) _).trans ?_))
    cases (m.heap.dict id).find? key <;> rfl
  exact ⟨asked [k] (by simp) rfl, fun fallback => asked [k, fallback] (by simp) rfl⟩

theorem dict_protocol (ev : Evaluator) (m : Machine) (sound : m.heap.Sound) (id : DictId) :
    DictProtocol ev m id ((m.heap.dict id).values.map Prod.fst)
      ((m.heap.dict id).values.map Prod.snd) where
  length := by simp
  listsKeys := Eval.exists_on_placeList m _
  listsValues := Eval.exists_on_placeList m _
  listsItems := by
    rw [List.zipWith_map, List.zipWith_self]
    exact Eval.exists_on_placeList m _
  found i k x left right := by
    obtain ⟨⟨k', x'⟩, here, rfl⟩ : ∃ e, (m.heap.dict id).values[i]? = some e ∧ e.1 = k := by
      simpa using left
    obtain rfl : x' = x := by simpa [here] using right
    obtain ⟨key, hashed, found⟩ := (sound.dict id).find?_of_hashKey (List.mem_of_getElem? here) rfl
    obtain ⟨plain, fallback⟩ := on_get ev m id hashed
    refine ⟨?_, ?_, ?_, fun d => ?_⟩
    · simp [contains, hashed, Table.contains, found]
    · simp [itemAt, dictItem, hashed, found]
    · simpa [found] using plain
    · simpa [found] using fallback d
  missing k key hashed absent := by
    have none : (m.heap.dict id).find? key = none := by
      simpa [contains, hashed, Table.contains] using absent
    obtain ⟨plain, fallback⟩ := on_get ev m id hashed
    refine ⟨fun ends => ?_, by simpa [none] using plain, fun d => by simpa [none] using fallback d⟩
    obtain ⟨printed, repr⟩ := Option.isSome_iff_exists.1 (Heap.repr?_isSome ends)
    refine ⟨printed, repr, ?_⟩
    simp [itemAt, dictItem, hashed, none, missingKey, repr]

end Dicts

/-! ## The whole -/

/-- **The protocols of a container**, given the items that iteration gives. -/
structure ContainerProtocol (ev : Evaluator) (m : Machine) (v : Value) (items : List Value) :
    Prop where
  /-- These are the items, one after the other. -/
  iterates : ∃ cursor, (Evaluator.startIteration v).on m = (.ok cursor, m) ∧
    cursor.Walks ev m items
  /-- Those of a string are its characters. -/
  text : ∀ s, v = .str s → items = s.toList.map fun c => .str (String.singleton c)
  /-- Collecting them gives the same if there is gas for each. -/
  collects : items.length < ev.rounds → m.gas + items.length ≤ m.config.gasLimit →
    ∃ gas, (ev.collect v).on m = (.ok items.toArray, { m with gas })
  /-- `len` counts them. -/
  length : ∃ n : Int64, (callBuiltin ev .len [v]).on m = (.ok (.int n), m) ∧
    (items.length < 2 ^ 63 → n.toInt = items.length)
  /-- An index is that of an item, from the start or from the end, or out of
  range. -/
  inside : v.isIndexed = true → ∀ (index : Value) (n : Int64) (k : Nat) (item : Value),
    index.asInt? = some n → items[k]? = some item →
    (n.toInt = k ∨ n.toInt = k - items.length) → itemAt m.heap v index = .ok item
  outside : v.isIndexed = true → ∀ (index : Value) (n : Int64), index.asInt? = some n →
    (n.toInt < -items.length ∨ items.length ≤ n.toInt) →
    ∃ what, itemAt m.heap v index = .error (.fault (.indexOutOfRange what))
  /-- Membership is equality to one of them. -/
  member : v.isCollection = true → ∀ x b, contains m.heap v x = .ok b →
    (b = true ↔ ∃ item ∈ items, m.heap.Equal item x)
  /-- Those of a dict are its keys. -/
  dict : ∀ id, v = .dict id → ∃ values, DictProtocol ev m id items values

/-- **The protocols of every container agree** where dicts and sets are in
order. -/
theorem container_protocols_agree {ev : Evaluator} {m : Machine} {v : Value}
    (sound : m.heap.Sound) (container : v.isContainer = true) :
    ∃ items, ContainerProtocol ev m v items := by
  obtain ⟨xs, items⟩ := v.exists_items m.heap container
  refine ⟨xs, ?_, ?_, ?_, ?_, ?_, ?_, ?_, ?_⟩
  · obtain ⟨cursor, start, ahead⟩ : ∃ cursor, Cursor.ofValue m.heap v = .ok cursor ∧
        cursor.ahead? m.heap = some xs := by
      cases start : Cursor.ofValue m.heap v with
      | error f => simp [Value.items?, start, Except.toOption] at items
      | ok cursor =>
        exact ⟨cursor, rfl, by simpa [Value.items?, start, Except.toOption] using items⟩
    refine ⟨cursor, ?_, Cursor.walks_of_ahead ahead⟩
    rw [Evaluator.startIteration, Eval.on_bind_ok (Eval.on_heap m), start, Eval.on_ofFault_ok]
  · rintro s rfl
    exact (Option.some.inj items).symm
  · intro rounds gas
    obtain ⟨r, gas', collected, -, enough⟩ := ev.on_collect_of_items items
    exact ⟨gas', by rw [collected, enough rounds gas]⟩
  · refine ⟨Int64.ofNat xs.length, ?_, fun fits => ?_⟩
    · show (checkCount "len" [v] 1 1 >>= fun _ => callLen v).on m = _
      rw [checkCount, if_pos (by simp), pure_bind, callLen, Eval.on_bind_ok (Eval.on_heap m),
        Value.length?_of_items items]
      rfl
    · exact Int64.toInt_ofNat_of_lt fits
  · intro indexed index n k item number there here
    obtain ⟨what, read⟩ := itemAt_eq_sequenceItem indexed items
    obtain ⟨bound, rfl⟩ := List.getElem?_eq_some_iff.1 there
    rw [read, sequenceItem, positionOf, number]
    simp [resolvePosition_eq_some bound here, bound]
  · intro indexed index n number out
    obtain ⟨what, read⟩ := itemAt_eq_sequenceItem indexed items
    refine ⟨what, ?_⟩
    rw [read, sequenceItem, positionOf, number]
    simp [resolvePosition_eq_none out]
  · exact fun collection x b => contains_iff_exists_equal sound collection items
  · rintro id rfl
    obtain rfl := Option.some.inj items
    exact ⟨_, dict_protocol ev m sound id⟩

/-- A string of two characters, one of which takes two bytes. -/
theorem text_protocols_agree : Heap.empty.Sound ∧ (Value.str "né").isContainer = true ∧
    ∃ items, ContainerProtocol (.bounded 1) (.initial .standard) (.str "né") items := by
  have sound : (Machine.initial .standard).heap.Sound :=
    ⟨fun _ => Table.Sound.empty, fun _ => Table.Sound.empty⟩
  exact ⟨sound, rfl, container_protocols_agree sound rfl⟩

end MeteredScript
