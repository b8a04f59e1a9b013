import MeteredScript.Proofs.Augmented.Combination
import MeteredScript.Proofs.Metering.Final

/-!
# What a sequence costs

A string, list or tuple that is built at once is charged for in one of two ways. A repetition is
charged for its whole length before it is built. Items that are taken one by one cost a unit
each, be they terms of a range or come from a set, a dict, a string or a generator.

What is copied as a whole is free: the operands of `+`, the items of a list or tuple, and the
text of a value. So gas bounds the length of some sequences and not of others, and
`sequence_is_paid_iff` says of which. What a list is extended by costs what a list or tuple of
the same items does.
-/

namespace MeteredScript

open Eval

variable {α : Type}

/-! ## Paying -/

/-- **At least an amount was paid** between two machines. -/
def Machine.Pays (m : Machine) (amount : Nat) (n : Machine) : Prop :=
  n.config = m.config ∧ min m.gas gasCeiling + amount ≤ min n.gas gasCeiling

namespace Machine

variable {m n k : Machine} {a b : Nat}

/-- Costs add up. -/
theorem Pays.trans (h : m.Pays a n) (h' : n.Pays b k) : m.Pays (a + b) k := by
  obtain ⟨hc, hg⟩ := h
  obtain ⟨hc', hg'⟩ := h'
  exact ⟨hc'.trans hc, by omega⟩

theorem Burns.pays (h : m.Burns n) : m.Pays 0 n := h

theorem Pays.of_gas (h : m.Pays a n) (hc : k.config = n.config) (hg : k.gas = n.gas) :
    m.Pays a k := by
  obtain ⟨hconfig, hgas⟩ := h
  exact ⟨hc.trans hconfig, by rwa [hg]⟩

/-- What was paid shows in the gas that was used. -/
theorem Pays.le (h : m.Pays a n) : a ≤ n.gas - m.gas := by
  obtain ⟨-, hg⟩ := h
  omega

/-- A charge under a limit that does not fail is paid to the full amount. -/
theorem paid_of_charge {x : Unit → Eval α} {v : α} (hlimit : m.config.gasLimit < gasCeiling)
    (h : (charge a >>= x).on m = (.ok v, n)) :
    ∃ paid : Machine, m.Pays a paid ∧ paid.heap = m.heap ∧ (x ()).on paid = (.ok v, n) := by
  rw [on_bind, on_charge] at h
  split at h
  · rename_i hpaid
    split at hpaid
    · cases hpaid
    · cases hpaid
      refine ⟨{ m with gas := min (m.gas + a) gasCeiling }, ⟨rfl, ?_⟩, rfl, h⟩
      dsimp only
      omega
  · cases h

end Machine

/-! ## How long a value is -/

/-- How long a value is, in the measure in which a repetition is charged for: the bytes of a
string and the items of a list or tuple. -/
def Value.size? (h : Heap) (v : Value) : Option Nat := (v.repeatable? h).map Prod.fst

/-- How long a result is that is not in the heap yet. -/
def Fresh.size? (h : Heap) : Fresh → Option Nat
  | .value v => v.size? h
  | .list items => some items.size
  | .dict _ | .set _ => none

theorem size?_place (h : Heap) (c : Fresh) : (h.place c).1.size? (h.place c).2 = c.size? h := by
  cases c with
  | list items => exact congrArg (some ·.size) (Heap.list_newList_self h items)
  | value | dict | set => rfl

/-- Putting a result into the heap is free. -/
theorem size?_of_place {c : Fresh} {m n : Machine} {v : Value}
    (h : (Eval.place c).on m = (.ok v, n)) :
    v.size? n.heap = c.size? m.heap ∧ n.gas = m.gas ∧ n.config = m.config := by
  cases h
  exact ⟨size?_place m.heap c, rfl, rfl⟩

/-! ## Items one by one -/

theorem recurses_next? (cursor : Cursor) : Recurses (fun ev => ev.next? cursor) :=
  fun h _ => h.next? cursor

section Items

variable {m n : Machine} (hlimit : m.config.gasLimit < gasCeiling)

include hlimit

/-- **Each item that is taken costs a unit**, besides what a generator uses up to give it. -/
theorem iterate_pays (k : Nat) {rounds : Nat} {cursor : Cursor} {items items' : Array Value}
    (h : ((Evaluator.bounded k).iterate
      (fun items item => do Eval.tick; return .yield (items.push item)) rounds cursor items).on m =
        (.ok items', n)) :
    ∃ taken, items'.size = items.size + taken ∧ m.Pays taken n := by
  induction rounds generalizing m cursor items with
  | zero => cases h
  | succ rounds ih =>
    have hburns := Recurses.burns (recurses_next? cursor) k m
    rw [Evaluator.iterate, on_bind] at h
    generalize ((Evaluator.bounded k).next? cursor).on m = o at h hburns
    obtain ⟨r, m₁⟩ := o
    match r, h with
    | .ok none, h =>
      cases h
      exact ⟨0, rfl, hburns.pays⟩
    | .ok (some (item, cursor)), h =>
      -- a generator may have used gas of its own, and then the unit for the item is paid
      dsimp only at h
      rw [bind_assoc] at h
      obtain ⟨m₂, hpays, -, hrest⟩ := Machine.paid_of_charge (by rwa [hburns.1]) h
      obtain ⟨taken, hsize, hrest⟩ := ih (by rwa [hpays.1, hburns.1]) hrest
      refine ⟨1 + taken, ?_, ?_⟩
      · rw [hsize, Array.size_push, Nat.add_assoc]
      · simpa using (hburns.pays.trans hpays).trans hrest

theorem progression_pays {step stop next : Int64} {items items' : Array Value}
    (h : (progression step stop next items).on m = (.ok items', n)) :
    ∃ taken, items'.size = items.size + taken ∧ m.Pays taken n := by
  fun_induction progression step stop next items generalizing m with
  | case1 next items _ ih =>
    obtain ⟨m₁, hpays, -, hrest⟩ := Machine.paid_of_charge hlimit h
    split at hrest
    · obtain ⟨taken, hsize, hrest⟩ := ih _ ‹_› (by rwa [hpays.1]) hrest
      refine ⟨1 + taken, ?_, hpays.trans hrest⟩
      rw [hsize, Array.size_push, Nat.add_assoc]
    · cases hrest
      exact ⟨1, Array.size_push _, hpays⟩
  | case2 next items =>
    cases h
    exact ⟨0, rfl, (Machine.Burns.refl _).pays⟩

omit hlimit in
/-- The items of a list or tuple are read at once. -/
theorem on_collect_of_isSequence (ev : Evaluator) {v : Value} (hv : v.isSequence = true) :
    ∃ items, (ev.collect v).on m = (.ok items, m) :=
  match v, hv with
  | .list id, _ => ⟨m.heap.list id, rfl⟩
  | .tuple items, _ => ⟨items.toArray, rfl⟩

/-- The items of everything else are paid one by one. -/
theorem collect_pays (k : Nat) {v : Value} (hv : v.isSequence = false) {items : Array Value}
    (h : ((Evaluator.bounded k).collect v).on m = (.ok items, n)) : m.Pays items.size n := by
  -- the two cases that are read at once are ruled out first
  have hstart : ((Evaluator.startIteration v >>= fun cursor => (Evaluator.bounded k).iterate
      (fun items item => do Eval.tick; return .yield (items.push item))
      (Evaluator.bounded k).rounds cursor #[]) : Eval _).on m = (.ok items, n) := by
    cases v with
    | list | tuple => cases hv
    | _ => exact h
  rw [Evaluator.startIteration, bind_assoc, on_bind_ok (on_heap m)] at hstart
  cases hcursor : Cursor.ofValue m.heap v with
  | error f =>
    rw [hcursor] at hstart
    cases hstart
  | ok cursor =>
    rw [hcursor, on_bind_ok (on_ofFault_ok m cursor)] at hstart
    obtain ⟨taken, hsize, hpays⟩ := iterate_pays hlimit k hstart
    rwa [hsize, Array.size_empty, Nat.zero_add]

/-- A value that is made of what was collected costs what collecting it did. -/
theorem collected_pays (k : Nat) {v made : Value} (hv : v.isSequence = false)
    {f : Array Value → Eval Value} {size : Nat}
    (hf : ∀ items paid, (f items).on paid = (.ok made, n) →
      items.size = size ∧ n.gas = paid.gas ∧ n.config = paid.config)
    (h : ((Evaluator.bounded k).collect v >>= f).on m = (.ok made, n)) : m.Pays size n := by
  rw [on_bind] at h
  split at h
  · rename_i items paid hitems
    obtain ⟨rfl, hgas, hconfig⟩ := hf items paid h
    exact (collect_pays hlimit k hv hitems).of_gas hconfig hgas
  · cases h

theorem rangeList_pays {start stop step : Int64} {v : Value} {size : Nat}
    (h : (rangeList start stop step).on m = (.ok v, n)) (hsize : v.size? n.heap = some size) :
    m.Pays size n := by
  rw [rangeList, Eval.require] at h
  split at h
  · rw [on_bind_ok (on_pure () m), on_bind] at h
    split at h
    · rename_i items paid hitems
      obtain ⟨taken, hlength, hpays⟩ := progression_pays hlimit hitems
      obtain ⟨hv, hgas, hconfig⟩ := size?_of_place h
      rw [hsize] at hv
      obtain rfl : size = taken := by simpa [Fresh.size?, hlength] using hv
      exact hpays.of_gas hconfig hgas
    · cases h
  · cases h

end Items

/-! ## Repetitions -/

theorem length_repeatList {β : Type} (count : Nat) (items : List β) :
    (repeatList count items).length = items.length * count := by
  rw [repeatList_eq_flatten, List.length_flatten, List.map_replicate, List.sum_replicate_nat,
    Nat.mul_comm]

theorem utf8ByteSize_repeatString (count : Nat) (s : String) :
    (repeatString count s).utf8ByteSize = s.utf8ByteSize * count := by
  have hjoin : (String.join (List.replicate count s)).utf8ByteSize = s.utf8ByteSize * count := by
    induction count with
    | zero => rfl
    | succ count ih =>
      rw [List.replicate_succ, String.join_cons, String.utf8ByteSize_append, ih, Nat.mul_succ,
        Nat.add_comm]
  unfold repeatString
  split
  · rename_i hempty
    rw [String.isEmpty_iff.1 hempty, String.utf8ByteSize_empty, Nat.zero_mul]
  · exact hjoin

theorem size_repeated_list (h : Heap) (id : ListId) (count : Nat) :
    ((h.modifyList id fun items => (repeatList count items.toList).toArray).list id).size =
      (h.list id).size * count := by
  by_cases hid : id.index < h.lists.size
  · rw [Heap.list_modifyList hid, if_pos rfl, List.size_toArray, length_repeatList,
      Array.length_toList]
  · -- what is not in the heap reads as an empty list, and stays one
    simp [Heap.list, Heap.modifyList, hid]

/-- **A repetition is as long as it says before it is built.** -/
theorem size?_of_repeated? {h : Heap} {v : Value} {count : Int64} {c : Fresh}
    (hc : v.repeated? h count = some c) :
    ∃ length what, v.repeatable? h = some (length, what) ∧
      c.size? h = some (length * copies count) := by
  cases v with
  | str s =>
    cases hc
    exact ⟨_, _, rfl, congrArg some (utf8ByteSize_repeatString _ s)⟩
  | list id =>
    cases hc
    exact ⟨_, _, rfl, congrArg some (by simp [length_repeatList])⟩
  | tuple items =>
    cases hc
    exact ⟨_, _, rfl, congrArg some (length_repeatList _ items)⟩
  | _ => cases hc

/-- Numbers are not repeated. -/
theorem repeatable?_of_asInt? {h : Heap} {v : Value} {n : Int64} (hv : v.asInt? = some n) :
    v.repeatable? h = none := by
  cases v with
  | int | bool => rfl
  | _ => cases hv

/-- What is charged for a repetition that is allowed is its length. -/
theorem eq_of_repetitionLength {n : Nat} {what : String} {count : Int64} {length : Option Nat}
    (h : some <$> repetitionLength n what count = .ok length) :
    length = some (n * copies count) := by
  unfold repetitionLength at h
  split at h
  · exact (Except.ok.inj h).symm
  · cases h

/-- **What is charged for a product is its length**, whichever side is repeated. -/
theorem repeatLength_of_product? {h : Heap} {l r : Value} {c : Fresh} {length : Option Nat}
    (hc : product? h l r = some c) (hlength : repeatLength h .mul l r = .ok length) :
    c.size? h = length := by
  unfold product? at hc
  split at hc
  · rename_i count hr _
    obtain ⟨n, what, hl, hsize⟩ := size?_of_repeated? hc
    have hcharged : some <$> repetitionLength n what count = .ok length := by
      simpa [repeatLength, hl, hr] using hlength
    rw [hsize, eq_of_repetitionLength hcharged]
  · rename_i count hr hl
    obtain ⟨n, what, hv, hsize⟩ := size?_of_repeated? hc
    have hcharged : some <$> repetitionLength n what count = .ok length := by
      simpa [repeatLength, hv, hl, hr, repeatable?_of_asInt? hl] using hlength
    rw [hsize, eq_of_repetitionLength hcharged]
  · cases hc

/-- A product of numbers is a number. -/
theorem combineNumbers_mul {l r v : Value} {a b : Int64}
    (hv : combineNumbers .mul l r a b = .ok v) : ∃ n, v = .int n := by
  have hint : .int <$> Integer.apply .mul a b = Except.ok v := by
    unfold combineNumbers at hv
    split at hv
    · exact hv
    · exact hv
  cases hn : Integer.apply .mul a b with
  | error f => rw [hn] at hint; cases hint
  | ok n =>
    rw [hn] at hint
    exact ⟨n, (Except.ok.inj hint).symm⟩

theorem size?_of_product {h : Heap} {l r : Value} {c : Fresh} {length : Option Nat}
    (hc : binaryResult h .mul l r = .ok c) (hlength : repeatLength h .mul l r = .ok length) :
    c.size? h = length := by
  unfold binaryResult at hc
  split at hc
  · -- neither of two numbers can be repeated, so there is no length to charge for
    rename_i a b ha hb
    have hnone : length = none := by
      simpa [repeatLength, repeatable?_of_asInt? ha, repeatable?_of_asInt? hb, eq_comm]
        using hlength
    cases hv : combineNumbers .mul l r a b with
    | error f => rw [hv] at hc; cases hc
    | ok v =>
      rw [hv] at hc
      cases hc
      obtain ⟨n, rfl⟩ := combineNumbers_mul hv
      exact hnone.symm
  · have hproduct : product? h l r = some c := by
      have hcombine : combine? h .mul l r = product? h l r := by simp [combine?]
      rw [hlength, hcombine] at hc
      cases hp : product? h l r with
      | none => rw [hp] at hc; cases hc
      | some c' => rw [hp] at hc; cases hc; rfl
    exact repeatLength_of_product? hproduct hlength

/-! ## Operators -/

section Operators

variable {op : BinaryOp} {l r v : Value} {m n : Machine} {size : Nat}

/-- What an operator does when everything is paid. -/
theorem binaryResult_of_ok
    (h : (do Eval.place (← ofFault (binaryResult (← Eval.heap) op l r))).on m = (.ok v, n)) :
    ∃ c, binaryResult m.heap op l r = .ok c ∧ v.size? n.heap = c.size? m.heap ∧
      n.gas = m.gas ∧ n.config = m.config := by
  rw [on_bind_ok (on_heap m)] at h
  cases hc : binaryResult m.heap op l r with
  | error f => rw [hc] at h; cases h
  | ok c =>
    rw [hc, on_bind_ok (on_ofFault_ok m c)] at h
    exact ⟨c, rfl, size?_of_place h⟩

/-- **A product is paid for before it is built.** -/
theorem product_pays (hlimit : m.config.gasLimit < gasCeiling)
    (h : (binaryValue .mul l r).on m = (.ok v, n)) (hsize : v.size? n.heap = some size) :
    m.Pays size n := by
  rw [binaryValue, chargeRepetition, bind_assoc, on_bind_ok (on_heap m)] at h
  cases hlength : repeatLength m.heap .mul l r with
  | error f => rw [hlength] at h; cases h
  | ok length =>
    rw [hlength, bind_assoc, on_bind_ok (on_ofFault_ok m length)] at h
    cases length with
    | some length =>
      obtain ⟨paid, hpays, hheap, hbuilt⟩ := Machine.paid_of_charge hlimit h
      obtain ⟨c, hc, hv, hgas, hconfig⟩ := binaryResult_of_ok hbuilt
      rw [hheap] at hc hv
      rw [hv, size?_of_product hc hlength] at hsize
      cases hsize
      exact hpays.of_gas hconfig hgas
    | none =>
      -- nothing is charged for products of numbers, which have no length
      obtain ⟨c, hc, hv, -, -⟩ := binaryResult_of_ok h
      rw [hv, size?_of_product hc hlength] at hsize
      cases hsize

/-- **All other operators are free.** -/
theorem gas_of_binaryValue (hop : op ≠ .mul) (h : (binaryValue op l r).on m = (.ok v, n)) :
    n.gas = m.gas := by
  rw [binaryValue, chargeRepetition, bind_assoc, on_bind_ok (on_heap m), repeatLength,
    if_pos hop, bind_assoc, on_bind_ok (on_ofFault_ok m none)] at h
  obtain ⟨c, -, -, hgas, -⟩ := binaryResult_of_ok h
  exact hgas

/-- **A repetition in place is paid for as a fresh one.** -/
theorem repeatInPlace_pays {id : ListId} {count : Value} (hlimit : m.config.gasLimit < gasCeiling)
    (h : (repeatInPlace id count).on m = (.ok (), n)) : m.Pays (n.heap.list id).size n := by
  unfold repeatInPlace at h
  split at h
  · cases h
  · rename_i k hk
    rw [on_bind_ok (on_heap m)] at h
    cases hlength : repeatLength m.heap .mul (.list id) count with
    | error f => rw [hlength] at h; cases h
    | ok length =>
      rw [hlength, on_bind_ok (on_ofFault_ok m length)] at h
      obtain ⟨paid, hpays, hheap, hbuilt⟩ := Machine.paid_of_charge hlimit h
      have hcharged : length = some ((m.heap.list id).size * copies k) :=
        eq_of_repetitionLength (by simpa [repeatLength, Value.repeatable?, hk] using hlength)
      cases hbuilt
      show m.Pays ((paid.heap.modifyList id _).list id).size _
      rw [size_repeated_list, hheap]
      rw [hcharged] at hpays
      exact hpays.of_gas rfl rfl

end Operators

/-! ## Ways to build a sequence -/

/-- **A way to build a sequence at once.** -/
inductive Construction where
  /-- The value of `l op r`. -/
  | operator (op : BinaryOp) (l r : Value)
  /-- The list after `list *= count`. -/
  | repetition (id : ListId) (count : Value)
  /-- The list after `list += items`. -/
  | extension (id : ListId) (items : Value)
  /-- A list or tuple of the items of a value. -/
  | list (items : Value)
  | tuple (items : Value)
  /-- The text of a value. -/
  | text (v : Value)
  | range (start stop step : Int64)

namespace Construction

/-- What evaluation does for it. -/
def run (ev : Evaluator) : Construction → Eval Value
  | operator op l r => binaryValue op l r
  | repetition id count => do
    repeatInPlace id count
    return .list id
  | extension id items => do
    combineInPlace ev .add (.list id) items
    return .list id
  | list items => convertTo ev .list items
  | tuple items => convertTo ev .tuple items
  | text v => convertTo ev .str v
  | range start stop step => rangeList start stop step

/-- **Whether there is a charge for each item.** -/
def isPaid : Construction → Bool
  | operator op _ _ => op == .mul
  | repetition .. | range .. => true
  | extension _ items | list items | tuple items => !items.isSequence
  | text _ => false

/-- **How much is built**, given where and what was built: the whole sequence, or what a list
was extended by. -/
def built? (ev : Evaluator) (m n : Machine) (v : Value) : Construction → Option Nat
  | extension _ items =>
    match (ev.collect items).on m with
    | (.ok items, _) => some items.size
    | (.error _, _) => none
  | _ => v.size? n.heap

variable {c : Construction} {m n : Machine} {v : Value} {size : Nat}

/-- An extension is the collecting of the items, and the rest of it is free. -/
theorem extension_collects {ev : Evaluator} {id : ListId} {items : Value}
    (h : ((extension id items).run ev).on m = (.ok v, n)) :
    ∃ collected paid, (ev.collect items).on m = (.ok collected, paid) ∧ n.gas = paid.gas ∧
      n.config = paid.config := by
  rw [run, combineInPlace, bind_assoc, on_bind] at h
  split at h
  · rename_i collected paid hcollected
    cases h
    exact ⟨collected, paid, hcollected, rfl, rfl⟩
  · cases h

/-- What is paid for is paid to the full length. -/
theorem pays (k : Nat) (hlimit : m.config.gasLimit < gasCeiling) (hc : c.isPaid = true)
    (h : (c.run (.bounded k)).on m = (.ok v, n))
    (hsize : c.built? (.bounded k) m n v = some size) : m.Pays size n := by
  cases c with
  | operator op l r =>
    obtain rfl : op = .mul := by simpa [isPaid] using hc
    exact product_pays hlimit h hsize
  | repetition id count =>
    rw [run, on_bind] at h
    split at h
    · rename_i hrepeated
      cases h
      cases hsize
      exact repeatInPlace_pays hlimit hrepeated
    · cases h
  | extension id items =>
    obtain ⟨collected, paid, hcollected, hgas, hconfig⟩ := extension_collects h
    rw [built?, hcollected] at hsize
    cases hsize
    exact (collect_pays hlimit k (by simpa [isPaid] using hc) hcollected).of_gas hconfig hgas
  | list items =>
    refine collected_pays hlimit k (by simpa [isPaid] using hc) (fun items paid h => ?_) h
    obtain ⟨hv, hgas, hconfig⟩ := size?_of_place h
    have hsize : v.size? n.heap = some size := hsize
    rw [hsize] at hv
    exact ⟨(Option.some.inj hv).symm, hgas, hconfig⟩
  | tuple items =>
    refine collected_pays hlimit k (by simpa [isPaid] using hc) (fun items paid h => ?_) h
    cases h
    exact ⟨Option.some.inj hsize, rfl, rfl⟩
  | text v => cases hc
  | range start stop step => exact rangeList_pays hlimit h hsize

/-- What is not paid for is free. -/
theorem free (ev : Evaluator) (hc : c.isPaid = false) (h : (c.run ev).on m = (.ok v, n)) :
    n.gas = m.gas := by
  cases c with
  | operator op l r => exact gas_of_binaryValue (by simpa [isPaid] using hc) h
  | repetition | range => cases hc
  | extension id items =>
    obtain ⟨items', hitems⟩ := on_collect_of_isSequence ev (by simpa [isPaid] using hc)
    obtain ⟨collected, paid, hcollected, hgas, -⟩ := extension_collects h
    rw [hitems] at hcollected
    cases hcollected
    exact hgas
  | list items =>
    obtain ⟨items', hitems⟩ := on_collect_of_isSequence ev (by simpa [isPaid] using hc)
    rw [run, convertTo, on_bind_ok hitems] at h
    exact (size?_of_place h).2.1
  | tuple items =>
    obtain ⟨items', hitems⟩ := on_collect_of_isSequence ev (by simpa [isPaid] using hc)
    rw [run, convertTo, on_bind_ok hitems] at h
    cases h
    rfl
  | text v =>
    rw [run, convertTo, Eval.text, bind_assoc, on_bind_ok (on_heap m)] at h
    cases htext : m.heap.text? v with
    | none => rw [htext] at h; cases h
    | some s => rw [htext] at h; cases h; rfl

end Construction

/-- **A sequence is paid item by item** if there is a charge for the way it was built, and
otherwise only if it is empty. -/
theorem sequence_is_paid_iff (c : Construction) (k : Nat) {m n : Machine} {v : Value} {size : Nat}
    (hlimit : m.config.gasLimit < gasCeiling)
    (h : (c.run (.bounded k)).on m = (.ok v, n))
    (hsize : c.built? (.bounded k) m n v = some size) :
    size ≤ n.gas - m.gas ↔ c.isPaid = true ∨ size = 0 := by
  cases hc : c.isPaid with
  | true => exact iff_of_true (Construction.pays k hlimit hc h hsize).le (.inl rfl)
  | false => simp [Construction.free _ hc h]

/-- Nothing is paid for the four bytes of two texts that are joined. -/
theorem joined_text_is_free :
    let m := Machine.initial ⟨100, 5⟩
    let joined := Construction.operator .add (.str "ab") (.str "cd")
    m.config.gasLimit < gasCeiling ∧ (joined.run (.bounded 1)).on m = (.ok (.str "abcd"), m) ∧
      joined.built? (.bounded 1) m m (.str "abcd") = some 4 ∧ ¬ 4 ≤ m.gas - m.gas := by
  intro m joined
  have hlimit : m.config.gasLimit < gasCeiling := by decide
  have hrun : (joined.run (.bounded 1)).on m = (.ok (.str "abcd"), m) := rfl
  have hsize : joined.built? (.bounded 1) m m (.str "abcd") = some 4 := rfl
  refine ⟨hlimit, hrun, hsize, fun hpaid => ?_⟩
  rcases (sequence_is_paid_iff joined 1 hlimit hrun hsize).1 hpaid with hpaid | hempty
  · cases hpaid
  · cases hempty

end MeteredScript
