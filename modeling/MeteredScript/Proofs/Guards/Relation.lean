import MeteredScript.Proofs.Guards.Reading

/-!
# Relations under guards

Equality of two containers holds a guard of each while it compares their items, and so do the
order of two lists and membership in a list. These comparisons go through the heap like printing
does: guards are held inside one another as deep as the containers are, and of one container
perhaps many times. All of them are for reading, so a comparison with guards gives what it gives
without them as long as nobody holds a guard for writing (`Heap.guardedRelated_reads`).
-/

namespace MeteredScript

variable {α : Type} {h : Heap}

/-- A reading that may come to any object. -/
abbrev Guarded.OnlyReads (x : Guarded α) (r : Except Stop α) : Prop := x.Reads (fun _ => True) r

/-- Go on with an answer, or stop. -/
def Guarded.ofStop : Except Stop α → Guarded α
  | .ok a => pure a
  | .error s => throw (.stop s)

theorem Guarded.ofStop_reads (r : Except Stop α) : (ofStop r).OnlyReads r := by
  cases r with
  | ok a => exact reads_pure a
  | error s => exact reads_throw s

theorem Guarded.OnlyReads.inside {x : Guarded α} {r : Except Stop α} (reads : x.OnlyReads r)
    (c : Container) : (Guarded.inside c x).OnlyReads r := Reads.holding reads trivial

/-! ## Equality -/

namespace Value

mutual

/-- Equality of two values, with guards, where `contents` decides on two different lists or two
different dicts. -/
def guardedEqualWith (h : Heap) (contents : ContainerPair → Guarded Bool) :
    Value → Value → Guarded Bool
  | tuple xs, tuple ys =>
    if xs.length = ys.length then guardedAllEqualWith h contents xs ys else return false
  | list a, list b => if a = b then return true else contents (.lists a b)
  | dict a, dict b => if a = b then return true else contents (.dicts a b)
  | set a, set b =>
    if a = b then return true
    else Guarded.inside (.set a) <| Guarded.inside (.set b) <|
      return (h.set a).size == (h.set b).size && (h.set a).keys.all (h.set b).contains
  | x, y =>
    match x.asInt?, y.asInt? with
    | some m, some n => return m == n
    | _, _ => return x.isSame y

/-- Equality of values at the same positions, with guards. -/
def guardedAllEqualWith (h : Heap) (contents : ContainerPair → Guarded Bool) :
    List Value → List Value → Guarded Bool
  | x :: xs, y :: ys => do
    if ← x.guardedEqualWith h contents y then guardedAllEqualWith h contents xs ys
    else return false
  | _, _ => return true

end

/-- Whether every entry has an equal value under its key in a table, with guards. -/
def guardedEntriesEqualWith (h : Heap) (contents : ContainerPair → Guarded Bool)
    (other : EntryTable) : List (HashKey × Value × Value) → Guarded Bool
  | [] => return true
  | (key, _, value) :: es => do
    match other.find? key with
    | Option.none => return false
    | some (_, otherValue) =>
      if ← value.guardedEqualWith h contents otherValue then
        guardedEntriesEqualWith h contents other es
      else return false

end Value

namespace Heap

/-- Whether two containers have equal contents, with a guard of each of them held while their
items are compared. -/
def guardedContentsEqual (h : Heap) : (depth : Nat) → ContainerPair → Guarded Bool
  | 0, _ => throw (.stop .endless)
  | depth + 1, .lists a b =>
    Guarded.inside (.list a) <| Guarded.inside (.list b) <|
      if (h.list a).size = (h.list b).size then
        Value.guardedAllEqualWith h (h.guardedContentsEqual depth) (h.list a).toList
          (h.list b).toList
      else return false
  | depth + 1, .dicts a b =>
    Guarded.inside (.dict a) <| Guarded.inside (.dict b) <|
      if (h.dict a).size = (h.dict b).size then
        Value.guardedEntriesEqualWith h (h.guardedContentsEqual depth) (h.dict b)
          (h.dict a).entries
      else return false

/-- Equality, with guards. -/
def guardedEqual (h : Heap) (x y : Value) : Guarded Bool :=
  x.guardedEqualWith h (h.guardedContentsEqual h.pairBound) y

/-- Whether some of the items equals a value, with guards. -/
def guardedAnyEqual (h : Heap) (x : Value) : List Value → Guarded Bool
  | [] => return false
  | y :: ys => do
    if ← h.guardedEqual y x then return true else h.guardedAnyEqual x ys

end Heap

section Equality

variable {guarded : ContainerPair → Guarded Bool} {plain : ContainerPair → Option Bool}

/-- A test that settles a question if it fails. -/
theorem Guarded.OnlyReads.test {x y : Guarded Bool} {o o' : Option Bool} :
    x.OnlyReads (unlessEndless o) → y.OnlyReads (unlessEndless o') →
    (do if ← x then y else return false : Guarded Bool).OnlyReads
      (unlessEndless (match o with
        | some true => o'
        | answer => answer)) := by
  intro reads rest
  have same : (unlessEndless o >>= fun b => if b then unlessEndless o' else .ok false) =
      unlessEndless (match o with
        | some true => o'
        | answer => answer) := by
    clear reads
    match o with
    | none | some true | some false => rfl
  rw [← same]
  refine reads.bind fun b => ?_
  cases b with
  | false => exact reads_pure false
  | true => exact rest

namespace Value

mutual

theorem guardedEqualWith_reads
    (contents : ∀ p, (guarded p).OnlyReads (unlessEndless (plain p))) :
    ∀ x y : Value, (x.guardedEqualWith h guarded y).OnlyReads
      (unlessEndless (x.equalWith h plain y))
  | .tuple xs, y => by
    cases y with
    | tuple ys =>
      rw [guardedEqualWith, equalWith]
      split
      · exact guardedAllEqualWith_reads contents xs ys
      · exact Guarded.reads_pure _
    | _ => exact Guarded.reads_pure _
  | .list a, y => by
    cases y with
    | list b =>
      rw [guardedEqualWith, equalWith]
      split
      · exact Guarded.reads_pure _
      · exact contents (.lists a b)
    | _ => exact Guarded.reads_pure _
  | .dict a, y => by
    cases y with
    | dict b =>
      rw [guardedEqualWith, equalWith]
      split
      · exact Guarded.reads_pure _
      · exact contents (.dicts a b)
    | _ => exact Guarded.reads_pure _
  | .set a, y => by
    cases y with
    | set b =>
      rw [guardedEqualWith, equalWith]
      split
      · rename_i same
        simpa [same, unlessEndless] using Guarded.reads_pure true
      · rename_i different
        rw [beq_eq_false_iff_ne.2 different, Bool.false_or]
        exact .inside (.inside (Guarded.reads_pure _) (.set b)) (.set a)
    | _ => exact Guarded.reads_pure _
  | .none, y | .bool _, y | .int _, y | .str _, y | .generator .., y | .function .., y
  | .builtin _, y | .method .., y | .exceptionClass _, y | .classObject .., y
  | .exception .., y => by
    cases y <;> exact Guarded.reads_pure _

theorem guardedAllEqualWith_reads
    (contents : ∀ p, (guarded p).OnlyReads (unlessEndless (plain p))) :
    ∀ xs ys : List Value, (guardedAllEqualWith h guarded xs ys).OnlyReads
      (unlessEndless (allEqualWith h plain xs ys))
  | x :: xs, y :: ys =>
    (guardedEqualWith_reads contents x y).test (guardedAllEqualWith_reads contents xs ys)
  | [], _ | _ :: _, [] => Guarded.reads_pure _

end

theorem guardedEntriesEqualWith_reads
    (contents : ∀ p, (guarded p).OnlyReads (unlessEndless (plain p))) (other : EntryTable)
    (es : List (HashKey × Value × Value)) :
    (guardedEntriesEqualWith h guarded other es).OnlyReads
      (unlessEndless (entriesEqualWith h plain other es)) := by
  induction es with
  | nil => exact Guarded.reads_pure _
  | cons e es ih =>
    obtain ⟨key, k, value⟩ := e
    rw [guardedEntriesEqualWith, entriesEqualWith]
    cases other.find? key with
    | none => exact Guarded.reads_pure _
    | some entry => exact (guardedEqualWith_reads contents value entry.2).test ih

end Value

theorem Heap.guardedContentsEqual_reads (depth : Nat) (p : ContainerPair) :
    (h.guardedContentsEqual depth p).OnlyReads (unlessEndless (h.contentsEqual? depth p)) := by
  induction depth generalizing p with
  | zero => exact Guarded.reads_throw _
  | succ depth ih =>
    cases p with
    | lists a b =>
      rw [guardedContentsEqual, contentsEqual?]
      refine Guarded.OnlyReads.inside (Guarded.OnlyReads.inside ?_ _) _
      split
      · exact Value.guardedAllEqualWith_reads ih _ _
      · exact Guarded.reads_pure _
    | dicts a b =>
      rw [guardedContentsEqual, contentsEqual?]
      refine Guarded.OnlyReads.inside (Guarded.OnlyReads.inside ?_ _) _
      split
      · exact Value.guardedEntriesEqualWith_reads ih _ _
      · exact Guarded.reads_pure _

/-- **Equality only reads.** -/
theorem Heap.guardedEqual_reads (h : Heap) (x y : Value) :
    (h.guardedEqual x y).OnlyReads (unlessEndless (h.equal? x y)) :=
  Value.guardedEqualWith_reads (guardedContentsEqual_reads _) x y

theorem Heap.guardedAnyEqual_reads (h : Heap) (x : Value) (ys : List Value) :
    (h.guardedAnyEqual x ys).OnlyReads (unlessEndless (h.anyEqual? x ys)) := by
  induction ys with
  | nil => exact Guarded.reads_pure _
  | cons y ys ih =>
    have same : (unlessEndless (h.equal? y x) >>= fun b =>
        if b then .ok true else unlessEndless (h.anyEqual? x ys)) =
        unlessEndless (h.anyEqual? x (y :: ys)) := by
      rw [anyEqual?]
      cases h.equal? y x with
      | none => rfl
      | some b => cases b <;> rfl
    rw [← same, guardedAnyEqual]
    refine (h.guardedEqual_reads y x).bind fun b => ?_
    cases b with
    | false => exact ih
    | true => exact Guarded.reads_pure true

end Equality

/-! ## Order -/

namespace Value

mutual

/-- The order of two values, with guards. -/
def guardedOrderWith (equal : Value → Value → Guarded Bool)
    (contents : ListId → ListId → Guarded Ordering) (op : CompareOp) :
    Value → Value → Guarded Ordering
  | tuple xs, tuple ys => guardedOrderItemsWith equal contents op xs ys
  | list a, list b => contents a b
  | str a, str b => return compare a b
  | x, y =>
    match x.asInt?, y.asInt? with
    | some m, some n => return compare m.toInt n.toInt
    | _, _ => throw (.stop (.fault (.typeFault (.ordering op x.typeName y.typeName))))

/-- The order of two sequences, with guards. -/
def guardedOrderItemsWith (equal : Value → Value → Guarded Bool)
    (contents : ListId → ListId → Guarded Ordering) (op : CompareOp) :
    List Value → List Value → Guarded Ordering
  | x :: xs, y :: ys => do
    if ← equal x y then guardedOrderItemsWith equal contents op xs ys
    else x.guardedOrderWith equal contents op y
  | [], [] => return .eq
  | [], _ :: _ => return .lt
  | _ :: _, [] => return .gt

end

end Value

namespace Heap

/-- The order of two lists, with a guard of each of them held while their items are
compared. -/
def guardedListOrder (h : Heap) (op : CompareOp) :
    (depth : Nat) → ListId → ListId → Guarded Ordering
  | 0, _, _ => throw (.stop .endless)
  | depth + 1, a, b =>
    Guarded.inside (.list a) <| Guarded.inside (.list b) <|
      Value.guardedOrderItemsWith h.guardedEqual (h.guardedListOrder op depth) op
        (h.list a).toList (h.list b).toList

/-- The order of two values, with guards. -/
def guardedOrder (h : Heap) (op : CompareOp) (x y : Value) : Guarded Ordering :=
  x.guardedOrderWith h.guardedEqual (h.guardedListOrder op h.pairBound) op y

end Heap

section Order

variable {equal : Value → Value → Guarded Bool} {equal? : Value → Value → Option Bool}
  {guarded : ListId → ListId → Guarded Ordering} {plain : ListId → ListId → Except Stop Ordering}
  {op : CompareOp}

namespace Value

mutual

theorem guardedOrderWith_reads
    (items : ∀ x y, (equal x y).OnlyReads (unlessEndless (equal? x y)))
    (contents : ∀ a b, (guarded a b).OnlyReads (plain a b)) :
    ∀ x y : Value, (x.guardedOrderWith equal guarded op y).OnlyReads
      (x.orderWith equal? plain op y)
  | .tuple xs, y => by
    cases y with
    | tuple ys => exact guardedOrderItemsWith_reads items contents xs ys
    | _ => exact Guarded.reads_throw _
  | .list a, y => by
    cases y with
    | list b => exact contents a b
    | _ => exact Guarded.reads_throw _
  | .bool _, y | .int _, y | .str _, y => by
    cases y <;> first | exact Guarded.reads_pure _ | exact Guarded.reads_throw _
  | .none, y | .dict _, y | .set _, y | .generator .., y | .function .., y | .builtin _, y
  | .method .., y | .exceptionClass _, y | .classObject .., y | .exception .., y => by
    cases y <;> exact Guarded.reads_throw _

theorem guardedOrderItemsWith_reads
    (items : ∀ x y, (equal x y).OnlyReads (unlessEndless (equal? x y)))
    (contents : ∀ a b, (guarded a b).OnlyReads (plain a b)) :
    ∀ xs ys : List Value, (guardedOrderItemsWith equal guarded op xs ys).OnlyReads
      (orderItemsWith equal? plain op xs ys)
  | x :: xs, y :: ys => by
    have same : (unlessEndless (equal? x y) >>= fun b =>
        if b then orderItemsWith equal? plain op xs ys else x.orderWith equal? plain op y) =
        orderItemsWith equal? plain op (x :: xs) (y :: ys) := by
      rw [orderItemsWith]
      cases equal? x y with
      | none => rfl
      | some b => cases b <;> rfl
    rw [← same, guardedOrderItemsWith]
    refine (items x y).bind fun b => ?_
    cases b with
    | false => exact guardedOrderWith_reads items contents x y
    | true => exact guardedOrderItemsWith_reads items contents xs ys
  | [], [] | [], _ :: _ | _ :: _, [] => Guarded.reads_pure _

end

end Value

theorem Heap.guardedListOrder_reads (depth : Nat) (a b : ListId) :
    (h.guardedListOrder op depth a b).OnlyReads (h.listOrder op depth a b) := by
  induction depth generalizing a b with
  | zero => exact Guarded.reads_throw _
  | succ depth ih =>
    exact ((Value.guardedOrderItemsWith_reads h.guardedEqual_reads ih _ _).inside _).inside _

/-- **Order only reads.** -/
theorem Heap.guardedOrder_reads (h : Heap) (op : CompareOp) (x y : Value) :
    (h.guardedOrder op x y).OnlyReads (h.order op x y) :=
  Value.guardedOrderWith_reads h.guardedEqual_reads (guardedListOrder_reads _) x y

end Order

/-! ## Relations -/

namespace Heap

/-- Whether an item is in a container, with a guard of the container held meanwhile. -/
def guardedContains (h : Heap) (container item : Value) : Guarded Bool :=
  match container with
  | .list id => Guarded.inside (.list id) (h.guardedAnyEqual item (h.list id).toList)
  | .tuple items => h.guardedAnyEqual item items
  | .dict id => Guarded.inside (.dict id) (Guarded.ofStop (contains h (.dict id) item))
  | .set id => Guarded.inside (.set id) (Guarded.ofStop (contains h (.set id) item))
  | container => Guarded.ofStop (contains h container item)

/-- Whether a relation holds between two values, with guards. -/
def guardedRelated (h : Heap) (op : CompareOp) (l r : Value) : Guarded Bool :=
  match op with
  | .eq => h.guardedEqual l r
  | .ne => (!·) <$> h.guardedEqual l r
  | .is => return l.isSame r
  | .isNot => return !l.isSame r
  | .isIn => h.guardedContains r l
  | .notIn => (!·) <$> h.guardedContains r l
  | .lt => (· == .lt) <$> h.guardedOrder op l r
  | .le => (· != .gt) <$> h.guardedOrder op l r
  | .gt => (· == .gt) <$> h.guardedOrder op l r
  | .ge => (· != .lt) <$> h.guardedOrder op l r

theorem answered_eq_unlessEndless (answer : Option Bool) :
    answered answer = unlessEndless answer := by
  cases answer <;> rfl

theorem guardedContains_reads (h : Heap) (container item : Value) :
    (h.guardedContains container item).OnlyReads (contains h container item) := by
  cases container with
  | list id =>
    rw [guardedContains, contains, answered_eq_unlessEndless]
    exact (h.guardedAnyEqual_reads item _).inside _
  | tuple items =>
    rw [guardedContains, contains, answered_eq_unlessEndless]
    exact h.guardedAnyEqual_reads item _
  | dict id => exact .inside (Guarded.ofStop_reads _) _
  | set id => exact .inside (Guarded.ofStop_reads _) _
  | _ =>
    unfold guardedContains
    exact Guarded.ofStop_reads _

end Heap

theorem Guarded.OnlyReads.map {β : Type} {x : Guarded α} {r : Except Stop α} (f : α → β)
    (reads : x.OnlyReads r) : (f <$> x).OnlyReads (f <$> r) := by
  rw [map_eq_pure_bind, map_eq_pure_bind]
  exact reads.bind fun a => reads_pure (f a)

/-- **Relations only read.** -/
theorem Heap.guardedRelated_reads (h : Heap) (op : CompareOp) (l r : Value) :
    (h.guardedRelated op l r).OnlyReads (related h op l r) := by
  cases op with
  | eq =>
    rw [guardedRelated, related, answered_eq_unlessEndless]
    exact h.guardedEqual_reads l r
  | ne =>
    rw [guardedRelated, related, answered_eq_unlessEndless]
    exact (h.guardedEqual_reads l r).map _
  | is | isNot => exact Guarded.reads_pure _
  | isIn => exact h.guardedContains_reads r l
  | notIn => exact (h.guardedContains_reads r l).map _
  | lt | le | gt | ge => exact (h.guardedOrder_reads _ l r).map _

end MeteredScript
