import MeteredScript.Proofs.Guards.Calm
import MeteredScript.Proofs.Guards.Exclusion
import MeteredScript.Proofs.Guards.Operation

/-!
# Guards that clash

Started with no guards held, every operation does with guards what it does without them, so no
guard that it asks for is excluded, and it does not end the host unless code of the script that
it runs does (`GuardedEval.Uncontended`). This needs nothing of the heap: containers may be
reached from their own items and from the arguments of the operation in any way.

There is one exception, `remove` of a set. The set is held for writing while the report that the
item is missing is made, and making it prints the item. If the item shows the set the host ends
(`GuardDiscipline.aborts`).
-/

namespace MeteredScript

open Eval
open Relation (ReflTransGen)

variable {α β : Type} {ev : Evaluator}

/-! ## Starting with no guards held -/

namespace GuardedEval

theorem free_bind (x : GuardedEval α) (f : α → GuardedEval β) :
    (x >>= f).free = x.free >>= fun a => (f a).free := rfl

/-- What is done one after the other is started with no guards held each time. -/
theorem free_bind_congr {x : GuardedEval α} {y : Eval α} {f : α → GuardedEval β}
    {g : α → Eval β} (first : x.free = y) (second : ∀ a, (f a).free = g a) :
    (x >>= f).free = y >>= g := by
  rw [free_bind, first]
  exact bind_congr second

/-- What is asked of the heap is answered as it is without guards. -/
theorem free_ask {look : Heap → Guarded α} {r : Heap → Except Stop α}
    (reads : ∀ h, (look h).OnlyReads (r h)) :
    (ask look).free = (do Eval.ofStop (r (← Eval.heap))) := by
  refine bind_congr fun h => ?_
  have answer : look h [] = (r h).mapError .stop :=
    (reads h).of_readers fun _ none => nomatch none
  rw [answer]
  cases r h <;> rfl

theorem free_ask_ok {look : Heap → Guarded α} {r : Heap → α}
    (reads : ∀ h, (look h).OnlyReads (.ok (r h))) :
    (ask look).free = (do return r (← Eval.heap)) := free_ask reads

/-- What is done with an answer. -/
theorem free_ask_bind {look : Heap → Guarded α} {r : Heap → Except Stop α}
    (reads : ∀ h, (look h).OnlyReads (r h)) (f : α → GuardedEval β) :
    (ask look >>= f).free = (do
      let a ← Eval.ofStop (r (← Eval.heap))
      (f a).free) := by
  rw [free_bind, free_ask reads, bind_assoc]

theorem free_ask_ok_bind {look : Heap → Guarded α} {r : Heap → α}
    (reads : ∀ h, (look h).OnlyReads (.ok (r h))) (f : α → GuardedEval β) :
    (ask look >>= f).free = (do (f (r (← Eval.heap))).free) := free_ask_bind reads f

end GuardedEval

theorem Eval.ofStop_mapError (r : Except Fault α) :
    Eval.ofStop (r.mapError .fault) = Eval.ofFault r := by
  cases r <;> rfl

/-! ## Looking -/

/-- Whoever prints a value with no guards held prints it. -/
theorem GuardedEval.free_repr (v : Value) : (repr v).free = Eval.repr v := by
  funext m
  have allowed : m.heap.reprExcluded [] v = false :=
    Heap.reprExcluded_of_readers fun _ none => nomatch none
  change (if m.heap.reprExcluded [] v = true then _ else Eval.repr v) m = Eval.repr v m
  rw [allowed]
  rfl

theorem GuardedEval.free_text (v : Value) : (text v).free = Eval.text v := by
  cases v with
  | exception serial kind message carried =>
    cases message with
    | some message => rfl
    | none =>
      have asked (h : Heap) : h.text? (.exception serial kind none carried) =
          if carried.isNone then some "" else h.repr? carried := rfl
      cases empty : carried.isNone with
      | true =>
        simp only [text, Eval.text, asked, empty, if_true]
        rfl
      | false =>
        simp only [text, Eval.text, asked, empty, Bool.false_eq_true, if_false]
        exact free_repr carried
  | str s => rfl
  | _ => exact free_repr _

/-- Looking up an item reads, also where the key is missing. -/
theorem Heap.guardedItemAt_reads (h : Heap) (container key : Value) :
    (h.guardedItemAt container key).OnlyReads (itemAt h container key) := by
  refine Guarded.OnlyReads.insideOf ?_ container
  split
  · rename_i id hashKey hashed
    rw [itemAt, dictItem, hashed]
    dsimp only
    cases (h.dict id).find? hashKey with
    | some entry => exact Guarded.reads_pure _
    | none =>
      have report : (unlessEndless (h.repr? key) >>= fun text =>
            .error (.fault (.missingKey text))) =
          (.error (missingKey h key) : Except Stop Value) := by
        rw [missingKey]
        cases h.repr? key <;> rfl
      rw [← report]
      exact ((h.guardedRepr_reads key).mono fun _ _ => trivial).bind
        fun text => Guarded.reads_throw _
  · exact Guarded.ofStop_reads _

namespace GuardedEval

theorem free_callLen (v : Value) : (callLen v).free = MeteredScript.callLen v := by
  refine (free_ask_ok_bind (fun h => .insideOf (Guarded.reads_pure _) v) _).trans
    (bind_congr fun h => ?_)
  cases v.length? h <;> rfl

theorem free_startIteration (v : Value) :
    (startIteration v).free = Evaluator.startIteration v := by
  refine (free_ask fun h => .insideOf (Guarded.ofStop_reads _) v).trans (bind_congr fun h => ?_)
  exact Eval.ofStop_mapError _

theorem free_next? (ev : Evaluator) (cursor : Cursor) :
    (next? ev cursor).free = ev.next? cursor := by
  cases cursor with
  | list id i =>
    refine (free_ask_ok_bind (fun h => .inside (Guarded.reads_pure _) _) _).trans
      (bind_congr fun h => ?_)
    cases (h.list id)[i]? <;> rfl
  | items | generator => rfl

theorem free_collect (ev : Evaluator) (v : Value) : (collect ev v).free = ev.collect v := by
  cases v with
  | list id => exact free_ask_ok fun h => .inside (Guarded.reads_pure _) _
  | _ => rfl

/-! ## Operators and stores -/

theorem free_repeatLength (op : BinaryOp) (l r : Value) :
    (repeatLength op l r).free = (do
      Eval.ofFault (MeteredScript.repeatLength (← Eval.heap) op l r)) := by
  refine (free_ask fun h => .insideOf (.insideOf (Guarded.ofStop_reads _) r) l).trans
    (bind_congr fun h => ?_)
  exact Eval.ofStop_mapError _

theorem free_binaryValue (op : BinaryOp) (l r : Value) :
    (binaryValue op l r).free = MeteredScript.binaryValue op l r := by
  have built : (do
      Eval.place (← ask fun h =>
        Guarded.insideOf l (Guarded.insideOf r (Guarded.ofFault (binaryResult h op l r)))) :
        GuardedEval Value).free = (do
      Eval.place (← Eval.ofFault (binaryResult (← Eval.heap) op l r))) := by
    refine (free_ask_bind (fun h => .insideOf (.insideOf (Guarded.ofStop_reads _) r) l) _).trans
      (bind_congr fun h => ?_)
    rw [Eval.ofStop_mapError]
    rfl
  rw [binaryValue, free_bind, free_repeatLength, MeteredScript.binaryValue, chargeRepetition,
    ← built, bind_assoc, bind_assoc]
  refine bind_congr fun h => ?_
  rw [bind_assoc]
  refine bind_congr fun length => ?_
  cases length <;> rfl

theorem free_repeatInPlace (id : ListId) (count : Value) :
    (repeatInPlace id count).free = MeteredScript.repeatInPlace id count := by
  unfold repeatInPlace MeteredScript.repeatInPlace
  cases count.asInt? with
  | none => rfl
  | some n =>
    rw [free_bind, free_repeatLength, bind_assoc]
    rfl

theorem free_combineInPlace (ev : Evaluator) (op : BinaryOp) (target operand : Value) :
    (combineInPlace ev op target operand).free =
      MeteredScript.combineInPlace ev op target operand := by
  unfold combineInPlace
  split
  · rfl
  · exact free_repeatInPlace _ _
  · refine (free_ask_ok_bind (fun h => .inside (.inside (Guarded.reads_pure _) _) _) _).trans
      (bind_congr fun h => ?_)
    cases op.onSets? (h.set _) (h.set _) <;> rfl
  · exact free_ask_ok_bind (fun h => .inside (Guarded.reads_pure _) _) _
  · rfl

theorem free_storeItem (container key value : Value) :
    (storeItem container key value).free = MeteredScript.storeItem container key value := by
  refine (free_ask_bind (fun h => .insideOf (Guarded.ofStop_reads _) container) _).trans
    (bind_congr fun h => ?_)
  rw [Eval.ofStop_mapError]
  rfl

theorem free_callDict (ev : Evaluator) (v : Value) :
    (callDict ev v).free = MeteredScript.callDict ev v := by
  cases v with
  | dict id => exact free_ask_ok_bind (fun h => .inside (Guarded.reads_pure _) _) _
  | _ => rfl

/-! ## Methods -/

theorem free_popItem (id : ListId) (index : Option Value) :
    (popItem id index).free = MeteredScript.popItem id index := by
  refine (free_ask_ok_bind (fun h => .inside (Guarded.reads_pure _) _) _).trans
    (bind_congr fun h => ?_)
  refine (free_bind_congr rfl fun _ => free_bind_congr rfl fun n => ?_).trans rfl
  cases resolvePosition (h.list id).size n <;> rfl

theorem free_callListMethod (ev : Evaluator) (id : ListId) (name : String)
    (arguments : List Value) :
    (callListMethod ev id name arguments).free =
      MeteredScript.callListMethod ev id name arguments := by
  unfold callListMethod
  split
  · rfl
  · rfl
  · exact (free_bind_congr rfl fun _ => free_popItem id _).trans rfl
  · rfl

theorem free_addItems (id : SetId) (items : List Value) :
    (addItems id items).free = MeteredScript.addItems id items := by
  induction items with
  | nil => rfl
  | cons item rest ih =>
    exact (free_bind_congr rfl fun _ => free_bind_congr rfl fun _ => ih).trans rfl

/-- **A removal is done with the set held for writing**, and so is the printing of an item that is
missing. -/
theorem free_removeItem (id : SetId) (key : HashKey) (item : Value) :
    (removeItem id key item).free = (do
      requireMember id key item
      discardKey id key) := by
  have held : (removeItem id key item).free = (do
      let h ← Eval.heap
      (if (h.set id).contains key then liftM (discardKey id key)
        else do (Eval.fail (.missingKey (← repr item)) : Eval Unit) : GuardedEval Unit)
          [.writing (.container (.set id))]) := rfl
  rw [held, requireMember, bind_assoc]
  refine bind_congr fun h => ?_
  by_cases member : (h.set id).contains key = true
  · rw [if_pos member, if_pos member]
    rfl
  · rw [if_neg member, if_neg member, bind_assoc]
    rfl

theorem free_callSetMethod (ev : Evaluator) (id : SetId) (name : String)
    (arguments : List Value) :
    (callSetMethod ev id name arguments).free =
      MeteredScript.callSetMethod ev id name arguments := by
  unfold callSetMethod
  split
  · exact (free_bind_congr rfl fun _ => free_bind_congr (free_addItems id _) fun _ => rfl).trans rfl
  · exact (free_bind_congr rfl fun _ => free_bind_congr rfl fun _ =>
      free_bind_congr (free_addItems id _) fun _ => rfl).trans rfl
  · refine (free_bind_congr rfl fun _ => free_bind_congr rfl fun key =>
      free_bind_congr (free_removeItem id key _) fun _ => rfl).trans ?_
    simp only [bind_assoc]
    rfl
  · rfl
  · rfl

theorem free_callDictMethod (id : DictId) (name : String) (arguments : List Value) :
    (callDictMethod id name arguments).free =
      MeteredScript.callDictMethod id name arguments := by
  have entries (f : EntryTable → GuardedEval Value) :
      ((ask fun h => Guarded.inside (.dict id) (return h.dict id)) >>= f).free = (do
        (f ((← Eval.heap).dict id)).free) :=
    free_ask_ok_bind (fun h => .inside (Guarded.reads_pure _) _) f
  unfold callDictMethod
  split
  · refine (free_bind_congr rfl fun _ => free_bind_congr rfl fun key => (entries _).trans
      (bind_congr fun h => ?_)).trans rfl
    cases (h.dict id).find? key <;> rfl
  · exact (free_bind_congr rfl fun _ => entries _).trans rfl
  · exact (free_bind_congr rfl fun _ => entries _).trans rfl
  · exact (free_bind_congr rfl fun _ => entries _).trans rfl
  · rfl

/-! ## Generators -/

theorem free_resumeGenerator (ev : Evaluator) (id : GeneratorId) (resume : Resume) :
    (resumeGenerator ev id resume).free = MeteredScript.resumeGenerator ev id resume := by
  refine (free_bind_congr rfl fun state => ?_).trans rfl
  split <;> rfl

theorem free_closeGenerator (ev : Evaluator) (id : GeneratorId) :
    (closeGenerator ev id).free = MeteredScript.closeGenerator ev id := by
  refine (free_bind_congr rfl fun state => ?_).trans rfl
  cases state <;> rfl

theorem free_callGeneratorMethod (ev : Evaluator) (id : GeneratorId) (receiver : Value)
    (name : String) (arguments : List Value) :
    (callGeneratorMethod ev id receiver name arguments).free =
      MeteredScript.callGeneratorMethod ev id receiver name arguments := by
  unfold callGeneratorMethod
  split
  · exact (free_bind_congr rfl fun _ =>
      free_bind_congr (free_closeGenerator ev id) fun _ => rfl).trans rfl
  · rfl

theorem free_callMethod (ev : Evaluator) (receiver : Value) (name : String)
    (arguments : List Value) :
    (callMethod ev receiver name arguments).free =
      MeteredScript.callMethod ev receiver name arguments := by
  cases receiver with
  | list id => exact free_callListMethod ev id name arguments
  | set id => exact free_callSetMethod ev id name arguments
  | dict id => exact free_callDictMethod id name arguments
  | generator id _ => exact free_callGeneratorMethod ev id _ name arguments
  | _ => rfl

end GuardedEval

/-! ## The whole -/

/-- **An operation that asks for guards and is never excluded**, done in a machine beside the same
operation without guards. The code of the script that it runs is run by `ev`. -/
structure GuardedEval.Uncontended (ev : Evaluator) (m : Machine) (x : Evaluator → GuardedEval α)
    (y : Evaluator → Eval α) : Prop where
  /-- Started with no guards held, it does what it does without guards. -/
  same : (x ev).free.on m = (y ev).on m
  /-- It does not end the host, where it is not noticed that code of the script does. -/
  calm : ((y ev.quiet).on m).2.aborted = m.aborted

/-- What holds in every machine holds in each. -/
theorem GuardedEval.Uncontended.of {m : Machine} {x : Evaluator → GuardedEval α}
    {y : Evaluator → Eval α} (same : (x ev).free = y ev) (calm : (y ev.quiet).Calm) :
    Uncontended ev m x y where
  same := by rw [same]
  calm := calm m

/-- **A removal that ends the host**: the item is missing, and it is excluded from being printed
while the set is held for writing. -/
def Heap.ExcludesRemoval (h : Heap) (id : SetId) (arguments : List Value) : Prop :=
  ∃ item key, arguments = [item] ∧ item.hashKey = .ok key ∧ (h.set id).contains key = false ∧
    h.reprExcluded [.writing (.container (.set id))] item = true

/-- Printing under guards ends the host if it is excluded. -/
theorem Eval.aborted_reprHolding (held : List Guard) (v : Value) (m : Machine) :
    ((reprHolding held v).on m).2.aborted = (m.heap.reprExcluded held v || m.aborted) := by
  have printed (n : Machine) : ((Eval.repr v).on n).2.aborted = n.aborted := Leaves.repr v n
  rw [reprHolding, on_bind_ok (on_heap m)]
  cases excluded : m.heap.reprExcluded held v with
  | true => exact printed { m with aborted := true }
  | false => exact printed m

/-- What goes on with a text and does not end the host. -/
theorem Eval.aborted_reprHolding_bind (held : List Guard) (v : Value) {f : String → Eval α}
    (calm : ∀ text, (f text).Calm) (m : Machine) :
    ((reprHolding held v >>= f).on m).2.aborted = (m.heap.reprExcluded held v || m.aborted) := by
  rw [← aborted_reprHolding, on_bind]
  generalize (reprHolding held v).on m = o
  obtain ⟨s | text, n⟩ := o
  · rfl
  · exact calm text n

/-- **When a removal ends the host.** -/
theorem aborted_of_removal (ev : Evaluator) (id : SetId) (arguments : List Value) {m : Machine}
    (running : m.aborted = false) :
    ((callMethod ev (.set id) "remove" arguments).on m).2.aborted = true ↔
      m.heap.ExcludesRemoval id arguments := by
  match arguments with
  | [] => simp [Heap.ExcludesRemoval, callMethod, callSetMethod, checkCount, on_bind, running]
  | _ :: _ :: _ =>
    simp [Heap.ExcludesRemoval, callMethod, callSetMethod, checkCount, on_bind, running]
  | [item] =>
    have counted : (callMethod ev (.set id) "remove" [item]).on m = (do
        let key ← Eval.ofTypeFault item.hashKey
        requireMember id key item
        discardKey id key
        return Value.none : Eval Value).on m := rfl
    rw [counted]
    cases hashed : item.hashKey with
    | error why =>
      change m.aborted = true ↔ _
      simp [Heap.ExcludesRemoval, running, hashed]
    | ok key =>
      have only : m.heap.ExcludesRemoval id [item] ↔ (m.heap.set id).contains key = false ∧
          m.heap.reprExcluded [.writing (.container (.set id))] item = true := by
        simp [Heap.ExcludesRemoval, hashed]
      have found : (Eval.ofTypeFault (.ok key) : Eval HashKey).on m = (.ok key, m) := rfl
      rw [only, on_bind_ok found, requireMember, bind_assoc, on_bind_ok (on_heap m)]
      cases member : (m.heap.set id).contains key with
      | true =>
        change m.aborted = true ↔ _
        simp [running]
      | false =>
        have refused (text : String) : Calm (do
            (Eval.fail (.missingKey text) : Eval Unit)
            discardKey id key
            return Value.none) :=
          (Leaves.fail _).bind fun _ => (lawful_calming.modifyHeap _).calm.bind fun _ => .pure _
        rw [if_neg Bool.false_ne_true, bind_assoc, aborted_reprHolding_bind _ _ refused, running,
          Bool.or_false]
        simp

/-- **How guards are dealt with** in a machine, whatever its heap holds, where `ev` runs the code
of the script. -/
structure GuardDiscipline (ev : Evaluator) (m : Machine) : Prop where
  /-- Printing, also of an exception's text. -/
  printing (v : Value) :
    GuardedEval.Uncontended ev m (fun _ => GuardedEval.repr v) (fun _ => Eval.repr v)
  text (v : Value) :
    GuardedEval.Uncontended ev m (fun _ => GuardedEval.text v) (fun _ => Eval.text v)
  /-- Equality, identity, membership and order. -/
  relation (op : CompareOp) (l r : Value) :
    GuardedEval.Uncontended ev m (fun _ => GuardedEval.related op l r)
      (fun _ => do Eval.ofStop (related (← Eval.heap) op l r))
  truth (v : Value) :
    GuardedEval.Uncontended ev m (fun _ => GuardedEval.isTruthy v) (fun _ => Eval.isTruthy v)
  pattern (p : Pattern) (subject : Value) :
    GuardedEval.Uncontended ev m (fun _ => GuardedEval.captures? p subject)
      (fun _ => do return p.captures? (← Eval.heap) subject)
  /-- Reading an item, and storing to one. -/
  item (container key : Value) :
    GuardedEval.Uncontended ev m (fun _ => GuardedEval.item container key)
      (fun _ => do Eval.ofStop (itemAt (← Eval.heap) container key))
  store (container key value : Value) :
    GuardedEval.Uncontended ev m (fun _ => GuardedEval.storeItem container key value)
      (fun _ => storeItem container key value)
  /-- Iteration: its start, its steps, and all of it at once. -/
  start (v : Value) :
    GuardedEval.Uncontended ev m (fun _ => GuardedEval.startIteration v)
      (fun _ => Evaluator.startIteration v)
  next (cursor : Cursor) :
    GuardedEval.Uncontended ev m (GuardedEval.next? · cursor) (·.next? cursor)
  items (v : Value) : GuardedEval.Uncontended ev m (GuardedEval.collect · v) (·.collect v)
  /-- Operators that build something, and those that change a container in place. -/
  operator (op : BinaryOp) (l r : Value) :
    GuardedEval.Uncontended ev m (fun _ => GuardedEval.binaryValue op l r)
      (fun _ => binaryValue op l r)
  combination (op : BinaryOp) (target operand : Value) :
    GuardedEval.Uncontended ev m (GuardedEval.combineInPlace · op target operand)
      (combineInPlace · op target operand)
  /-- The built-in functions that look into containers themselves. The others are made of what is
  said here of all values. -/
  length (v : Value) :
    GuardedEval.Uncontended ev m (fun _ => GuardedEval.callLen v) (fun _ => callLen v)
  dict (v : Value) : GuardedEval.Uncontended ev m (GuardedEval.callDict · v) (callDict · v)
  builtin (b : Builtin) (arguments : List Value) :
    ((callBuiltin ev.quiet b arguments).on m).2.aborted = m.aborted
  /-- Generators, when they are resumed and when they are closed. -/
  resumption (id : GeneratorId) (r : Resume) :
    GuardedEval.Uncontended ev m (GuardedEval.resumeGenerator · id r) (resumeGenerator · id r)
  closing (id : GeneratorId) :
    GuardedEval.Uncontended ev m (GuardedEval.closeGenerator · id) (closeGenerator · id)
  /-- All methods but one. -/
  method (receiver : Value) (name : String) (arguments : List Value) :
    (name = "remove" → ∀ id, receiver ≠ .set id) →
    GuardedEval.Uncontended ev m (GuardedEval.callMethod · receiver name arguments)
      (callMethod · receiver name arguments)
  /-- A removal does with the guards it asks for what it does with that of the set alone. -/
  removal (id : SetId) (arguments : List Value) :
    (GuardedEval.callMethod ev (.set id) "remove" arguments).free.on m =
      (callMethod ev (.set id) "remove" arguments).on m
  /-- It ends the host if the report that the item is missing is excluded. -/
  aborts (id : SetId) (arguments : List Value) : m.aborted = false →
    (((callMethod ev (.set id) "remove" arguments).on m).2.aborted = true ↔
      m.heap.ExcludesRemoval id arguments)
  /-- That is so only if the missing item shows the set, and then through an exception object. -/
  shows (id : SetId) (arguments : List Value) : m.heap.ExcludesRemoval id arguments →
    ∃ item, arguments = [item] ∧ ReflTransGen m.heap.ShownIn (.set id) item ∧
      ∃ serial kind carried,
        ReflTransGen m.heap.ShownIn (.exception serial kind none carried) item
  /-- And it is so if the missing item shows the set, as long as it can be printed at all. -/
  excludes (id : SetId) (item : Value) (key : HashKey) : item.hashKey = .ok key →
    (m.heap.set id).contains key = false → ReflTransGen m.heap.ShownIn (.set id) item →
    (m.heap.repr? item).isSome → m.heap.ExcludesRemoval id [item]

/-- **Guards clash nowhere** but in the removal of a missing item that shows the set. -/
theorem guards_clash_in_removals_only (ev : Evaluator) (m : Machine) : GuardDiscipline ev m where
  printing v := .of (GuardedEval.free_repr v) (Leaves.repr v)
  text v := .of (GuardedEval.free_text v) (lawful_calming.text v).calm
  relation op l r :=
    .of (GuardedEval.free_ask fun h => h.guardedRelated_reads op l r)
      (Leaves.heap.bind fun _ => .ofStop _)
  truth v :=
    .of (GuardedEval.free_ask_ok fun _ => .insideOf (Guarded.reads_pure _) v)
      (Leaves.heap.bind fun _ => .pure _)
  pattern p subject :=
    .of (GuardedEval.free_ask_ok fun _ => .insideOf (Guarded.reads_pure _) subject)
      (Leaves.heap.bind fun _ => .pure _)
  item container key :=
    .of (GuardedEval.free_ask fun h => h.guardedItemAt_reads container key)
      (Leaves.heap.bind fun _ => .ofStop _)
  store container key value :=
    .of (GuardedEval.free_storeItem container key value)
      (lawful_calming.storeItem container key value).calm
  start v := .of (GuardedEval.free_startIteration v) (Leaves.heap.bind fun _ => .ofFault _)
  next cursor := .of (GuardedEval.free_next? ev cursor) (ev.calm_quiet.binds.next? cursor).calm
  items v := .of (GuardedEval.free_collect ev v) (ev.calm_quiet.binds.collect v).calm
  operator op l r :=
    .of (GuardedEval.free_binaryValue op l r) (lawful_calming.binaryValue op l r).calm
  combination op target operand :=
    .of (GuardedEval.free_combineInPlace ev op target operand)
      (ev.calm_quiet.binds.combineInPlace op target operand).calm
  length v := .of (GuardedEval.free_callLen v) (lawful_calming.callLen v).calm
  dict v := .of (GuardedEval.free_callDict ev v) (ev.calm_quiet.binds.callDict v).calm
  builtin b arguments := (ev.calm_quiet.binds.callBuiltin b arguments).calm m
  resumption id r :=
    .of (GuardedEval.free_resumeGenerator ev id r) (ev.calm_quiet.binds.resumeGenerator id r).calm
  closing id :=
    .of (GuardedEval.free_closeGenerator ev id) (ev.calm_quiet.binds.closeGenerator id).calm
  method receiver name arguments other :=
    .of (GuardedEval.free_callMethod ev receiver name arguments)
      (ev.calm_quiet.binds.callMethod (fun same id => (absurd · (other same id))) arguments).calm
  removal id arguments := by rw [GuardedEval.free_callMethod ev (.set id) "remove" arguments]
  aborts id arguments running := aborted_of_removal ev id arguments running
  shows id arguments := by
    rintro ⟨item, key, rfl, hashed, -, excluded⟩
    have shown := Heap.shown_of_reprExcluded excluded
    exact ⟨item, rfl, shown, Heap.shows_through_exception hashed shown⟩
  excludes id item key hashed missing shown ends :=
    ⟨item, key, rfl, hashed, missing, (Heap.reprExcluded_iff ends).2 shown⟩

/-- A set is printed in the report that an exception object which carries it is missing. -/
example :
    let h : Heap := ⟨#[], #[], #[.empty]⟩
    h.reprExcluded [.writing (.container (.set ⟨0⟩))]
      (.exception ⟨0⟩ .stopIteration none (.set ⟨0⟩)) = true := by
  decide

end MeteredScript
