import MeteredScript.Fault.Raised
import MeteredScript.Heap.Order
import MeteredScript.Text.Search

/-!
# Relations between two values

What a link of a comparison chain tests. Membership in a generator is not
among these relations, since it runs the generator.
-/

namespace MeteredScript

/-- The answer of a test that may not end. -/
def answered (answer : Option Bool) : Except Stop Bool :=
  match answer with
  | some b => .ok b
  | none => .error .endless

/-- **Whether an item is in a container.** -/
def contains (h : Heap) (container item : Value) : Except Stop Bool :=
  match container with
  | .list id => answered (h.anyEqual? item (h.list id).toList)
  | .tuple items => answered (h.anyEqual? item items)
  | .str text =>
    match item with
    | .str part => .ok (Text.occursIn part.toList text.toList)
    | other => .error (.fault (.typeFault (.substring other.typeName)))
  | .dict id =>
    match item.hashKey with
    | .ok key => .ok ((h.dict id).contains key)
    | .error why => .error (.fault (.typeFault why))
  | .set id =>
    match item.hashKey with
    | .ok key => .ok ((h.set id).contains key)
    | .error why => .error (.fault (.typeFault why))
  | other => .error (.fault (.typeFault (.membership other.typeName)))

/-- **Whether a relation holds between two values.** -/
def related (h : Heap) (op : CompareOp) (l r : Value) : Except Stop Bool :=
  match op with
  | .eq => answered (h.equal? l r)
  | .ne => (!·) <$> answered (h.equal? l r)
  | .is => .ok (l.isSame r)
  | .isNot => .ok (!l.isSame r)
  | .isIn => contains h r l
  | .notIn => (!·) <$> contains h r l
  | .lt => (· == .lt) <$> h.order op l r
  | .le => (· != .gt) <$> h.order op l r
  | .gt => (· == .gt) <$> h.order op l r
  | .ge => (· != .lt) <$> h.order op l r

end MeteredScript
