import MeteredScript.Evaluation.Statement
import MeteredScript.Proofs.Augmented.Combination

/-!
# The course of an augmented assignment

`target op= operand` works in stages: it works out the place that the target
means, reads the place, evaluates the operand, combines and stores. Each stage
is a relation between the machine it starts on and its outcome (`Resolves`,
`Loads`, `Fetched`, `Stores`), and `Augments` lists the ways in which the whole
can end, one for each stage that may fail and two that reach the store.

Where the value that was read combines in place, the store comes after the
change, so a store that fails leaves the changed object behind: the machine is
that of the combination (`Augments.combined` with `Stores.failed`). In all cases
before, the machine is the one that the last evaluation left, but for the gas
that a repetition was charged.
-/

namespace MeteredScript

open Eval

variable {ev : Evaluator} {scope : ScopeId} {target operand : Expr} {op : BinaryOp}
  {slot : Slot} {current r v : Value} {m m₁ m₂ : Machine}

/-! ## Stages -/

/-- **Working out the place that a target means**: the object first and then
the key, each evaluated once and the key only if there is an object. -/
inductive Resolves (ev : Evaluator) (scope : ScopeId) (m : Machine) :
    Expr → Except Stop Slot × Machine → Prop
  | name (id : String) : Resolves ev scope m (.name id) (.ok (.name id), m)
  | attribute {object : Expr} {v : Value} {m₁ : Machine}
    (evaluated : (ev.eval object scope).on m = (.ok v, m₁)) (name : String) :
    Resolves ev scope m (.attribute object name) (.ok (.attribute v name), m₁)
  | noObject {object : Expr} {s : Stop} {m₁ : Machine}
    (stopped : (ev.eval object scope).on m = (.error s, m₁)) (name : String) :
    Resolves ev scope m (.attribute object name) (.error s, m₁)
  | item {object index : Expr} {container key : Value} {m₁ m₂ : Machine}
    (evaluated : (ev.eval object scope).on m = (.ok container, m₁))
    (indexed : (ev.eval index scope).on m₁ = (.ok key, m₂)) :
    Resolves ev scope m (.subscript object index) (.ok (.item container key), m₂)
  | noContainer {object : Expr} {s : Stop} {m₁ : Machine}
    (stopped : (ev.eval object scope).on m = (.error s, m₁)) (index : Expr) :
    Resolves ev scope m (.subscript object index) (.error s, m₁)
  | noKey {object index : Expr} {container : Value} {s : Stop} {m₁ m₂ : Machine}
    (evaluated : (ev.eval object scope).on m = (.ok container, m₁))
    (stopped : (ev.eval index scope).on m₁ = (.error s, m₂)) :
    Resolves ev scope m (.subscript object index) (.error s, m₂)
  | noPlace {target : Expr} (noName : ∀ id, target ≠ .name id)
    (noAttribute : ∀ object name, target ≠ .attribute object name)
    (noItem : ∀ object index, target ≠ .subscript object index) :
    Resolves ev scope m target (.error (.fault (.typeFault .notAugmentable)), m)

theorem resolveSlot_resolves (ev : Evaluator) (scope : ScopeId) (target : Expr) (m : Machine) :
    Resolves ev scope m target ((resolveSlot ev scope target).on m) := by
  unfold resolveSlot
  split
  · exact .name _
  · rename_i object name
    generalize evaluated : (ev.eval object scope).on m = outcome
    obtain ⟨s | v, m₁⟩ := outcome
    · rw [on_bind_error evaluated]
      exact .noObject evaluated name
    · rw [on_bind_ok evaluated]
      exact .attribute evaluated name
  · rename_i object index
    generalize evaluated : (ev.eval object scope).on m = outcome
    obtain ⟨s | container, m₁⟩ := outcome
    · rw [on_bind_error evaluated]
      exact .noContainer evaluated index
    · rw [on_bind_ok evaluated]
      generalize indexed : (ev.eval index scope).on m₁ = outcome
      obtain ⟨s | key, m₂⟩ := outcome
      · rw [on_bind_error indexed]
        exact .noKey evaluated indexed
      · rw [on_bind_ok indexed]
        exact .item evaluated indexed
  · exact .noPlace ‹_› ‹_› ‹_›

/-- **Reading a place** runs no code of the script. What is read is there
already, unless it is a method, which is a new object. -/
inductive Loads (scope : ScopeId) (slot : Slot) (m : Machine) :
    Except Stop Value × Machine → Prop
  | found {current : Value} {nextSerial : Nat}
    (read : (loadSlot scope slot).on m = (.ok current, { m with nextSerial })) :
    Loads scope slot m (.ok current, { m with nextSerial })
  | failed {s : Stop} (stopped : (loadSlot scope slot).on m = (.error s, m)) :
    Loads scope slot m (.error s, m)

theorem Eval.on_lookup (scope : ScopeId) (name : String) (m : Machine) :
    ∃ outcome, (lookup scope name).on m = (outcome, m) := by
  have found : (find? scope name).on m = (.ok (m.scopes.find? scope name), m) := rfl
  rw [lookup, on_bind_ok found]
  cases m.scopes.find? scope name with
  | some v => exact ⟨.ok v, rfl⟩
  | none =>
    dsimp only
    split
    · exact ⟨_, rfl⟩
    · split <;> exact ⟨_, rfl⟩

theorem Eval.on_boundMethod (receiver : Value) (name : String) (m : Machine) :
    (∃ v nextSerial, (boundMethod receiver name).on m = (.ok v, { m with nextSerial })) ∨
      ∃ s, (boundMethod receiver name).on m = (.error s, m) := by
  rw [boundMethod]
  split
  · exact .inl ⟨_, _, rfl⟩
  · exact .inr ⟨_, rfl⟩

theorem Eval.on_getAttribute (object : Value) (name : String) (m : Machine) :
    (∃ v nextSerial, (getAttribute object name).on m = (.ok v, { m with nextSerial })) ∨
      ∃ s, (getAttribute object name).on m = (.error s, m) := by
  unfold getAttribute
  split
  · split
    · exact .inl ⟨_, m.nextSerial, rfl⟩
    · rename_i className inner _
      have found : (own? inner name).on m = (.ok (m.scopes.findLocal? inner name), m) := rfl
      rw [classAttribute, on_bind_ok found]
      cases m.scopes.findLocal? inner name with
      | some v => exact .inl ⟨v, m.nextSerial, rfl⟩
      | none => exact .inr ⟨_, rfl⟩
  · split
    · exact .inl ⟨_, m.nextSerial, rfl⟩
    · split
      · exact .inl ⟨_, m.nextSerial, rfl⟩
      · exact on_boundMethod _ name m
  · split
    · exact .inl ⟨_, m.nextSerial, rfl⟩
    · exact on_boundMethod _ _ m

theorem loadSlot_loads (scope : ScopeId) (slot : Slot) (m : Machine) :
    Loads scope slot m ((loadSlot scope slot).on m) := by
  have unchanged {outcome : Except Stop Value} (read : (loadSlot scope slot).on m = (outcome, m)) :
      Loads scope slot m ((loadSlot scope slot).on m) := by
    rw [read]
    cases outcome with
    | ok current =>
      have read : (loadSlot scope slot).on m =
          (.ok current, { m with nextSerial := m.nextSerial }) := read
      exact .found read
    | error s => exact .failed read
  match slot with
  | .name id => exact unchanged (on_lookup scope id m).choose_spec
  | .attribute object name =>
    obtain ⟨v, nextSerial, read⟩ | ⟨s, stopped⟩ := on_getAttribute object name m
    · have read : (loadSlot scope (.attribute object name)).on m = _ := read
      rw [read]
      exact .found read
    · exact unchanged stopped
  | .item container key =>
    have read : (loadSlot scope (.item container key)).on m = (itemAt m.heap container key, m) := by
      rw [loadSlot, on_bind_ok (on_heap m), on_ofStop]
    exact unchanged read

/-- **The first three stages**: the place is worked out, its current value is
read, and then the operand is evaluated. -/
inductive Fetched (ev : Evaluator) (scope : ScopeId) (target operand : Expr) (m : Machine)
    (slot : Slot) (current r : Value) : Machine → Prop
  | intro {nextSerial : Nat} {m₁ m₂ : Machine}
    (resolved : Resolves ev scope m target (.ok slot, m₁))
    (loaded : (loadSlot scope slot).on m₁ = (.ok current, { m₁ with nextSerial }))
    (evaluated : (ev.eval operand scope).on { m₁ with nextSerial } = (.ok r, m₂)) :
    Fetched ev scope target operand m slot current r m₂

/-- **Storing to a place** is all or nothing: a store that fails has changed
nothing. -/
inductive Stores (scope : ScopeId) (v : Value) (slot : Slot) (m : Machine) :
    Except Stop Unit × Machine → Prop
  | done {n : Machine} (stored : (storeSlot scope v slot).on m = (.ok (), n)) :
    Stores scope v slot m (.ok (), n)
  | failed {s : Stop} (stopped : (storeSlot scope v slot).on m = (.error s, m)) :
    Stores scope v slot m (.error s, m)

theorem storeSlot_stores (scope : ScopeId) (v : Value) (slot : Slot) (m : Machine) :
    Stores scope v slot m ((storeSlot scope v slot).on m) := by
  match slot with
  | .name id => exact .done rfl
  | .attribute object name =>
    cases object with
    | classObject className inner => exact .done rfl
    | _ => exact .failed rfl
  | .item container key =>
    generalize placed : storePlace m.heap container key = found
    cases found with
    | ok place =>
      have stored : (storeSlot scope v (.item container key)).on m =
          (.ok (), { m with heap := m.heap.store place v }) := by
        rw [storeSlot, storeItem, on_bind_ok (on_heap m), placed,
          on_bind_ok (on_ofFault_ok m place)]
        rfl
      rw [stored]
      exact .done stored
    | error f =>
      have stopped : (storeSlot scope v (.item container key)).on m = (.error (.fault f), m) := by
        rw [storeSlot, storeItem, on_bind_ok (on_heap m), placed,
          on_bind_error (on_ofFault_error m f)]
      rw [stopped]
      exact .failed stopped

/-! ## The whole course -/

/-- **The ways in which an augmented assignment ends.** -/
inductive Augments (ev : Evaluator) (scope : ScopeId) (target : Expr) (op : BinaryOp)
    (operand : Expr) (m : Machine) : Except Stop Unit × Machine → Prop
  /-- The target means no place. -/
  | unresolved {s : Stop} {m₁ : Machine} (stopped : Resolves ev scope m target (.error s, m₁)) :
    Augments ev scope target op operand m (.error s, m₁)
  /-- There is nothing in the place. -/
  | unloaded {slot : Slot} {s : Stop} {m₁ : Machine}
    (resolved : Resolves ev scope m target (.ok slot, m₁))
    (stopped : (loadSlot scope slot).on m₁ = (.error s, m₁)) :
    Augments ev scope target op operand m (.error s, m₁)
  /-- The operand has no value. -/
  | noOperand {slot : Slot} {current : Value} {nextSerial : Nat} {s : Stop} {m₁ m₂ : Machine}
    (resolved : Resolves ev scope m target (.ok slot, m₁))
    (loaded : (loadSlot scope slot).on m₁ = (.ok current, { m₁ with nextSerial }))
    (stopped : (ev.eval operand scope).on { m₁ with nextSerial } = (.error s, m₂)) :
    Augments ev scope target op operand m (.error s, m₂)
  /-- The operand cannot be drained to its end. -/
  | undrained {slot : Slot} {current r : Value} {s : Stop} {m₁ m₂ : Machine}
    (fetched : Fetched ev scope target operand m slot current r m₁)
    (inPlace : current.combinesInPlace op = true)
    (stopped : (drainOperand ev op current r).on m₁ = (.error s, m₂)) :
    Augments ev scope target op operand m (.error s, m₂)
  /-- The two do not combine in place. The container stays as it was. -/
  | uncombined {slot : Slot} {current r : Value} {items : Array Value} {gas : Nat} {s : Stop}
    {m₁ m₂ : Machine} (fetched : Fetched ev scope target operand m slot current r m₁)
    (inPlace : current.combinesInPlace op = true)
    (drained : (drainOperand ev op current r).on m₁ = (.ok items, m₂))
    (refused : (combineInPlace ev op current r).on m₁ = (.error s, { m₂ with gas })) :
    Augments ev scope target op operand m (.error s, { m₂ with gas })
  /-- The container is changed and then stored, itself, where it was read. -/
  | combined {slot : Slot} {current r : Value} {items : Array Value} {c : Fresh} {gas : Nat}
    {m₁ m₂ : Machine} {outcome : Except Stop Unit × Machine}
    (fetched : Fetched ev scope target operand m slot current r m₁)
    (inPlace : current.combinesInPlace op = true)
    (drained : (drainOperand ev op current r).on m₁ = (.ok items, m₂))
    (result : combined? m₂.heap op current r items = some c)
    (changed : m₂.heap.Refilled current c (m₂.heap.refill current c))
    (stored : Stores scope current slot { m₂ with gas, heap := m₂.heap.refill current c }
      outcome) :
    Augments ev scope target op operand m outcome
  /-- The two have no result. -/
  | uncomputed {slot : Slot} {current r : Value} {gas : Nat} {s : Stop} {m₁ : Machine}
    (fetched : Fetched ev scope target operand m slot current r m₁)
    (rebinds : current.combinesInPlace op = false)
    (refused : (augmentedValue op current r).on m₁ = (.error s, { m₁ with gas })) :
    Augments ev scope target op operand m (.error s, { m₁ with gas })
  /-- A fresh value is stored. -/
  | computed {slot : Slot} {current r : Value} {c : Fresh} {gas : Nat} {m₁ : Machine}
    {outcome : Except Stop Unit × Machine}
    (fetched : Fetched ev scope target operand m slot current r m₁)
    (rebinds : current.combinesInPlace op = false)
    (result : binaryResult m₁.heap op current r = .ok c)
    (stored : Stores scope (m₁.heap.place c).1 slot
      { m₁ with gas, heap := (m₁.heap.place c).2 } outcome) :
    Augments ev scope target op operand m outcome

/-- **The last two stages**, from the machine that the first three leave. -/
theorem combineAndStore_augments {m₁ : Machine}
    (fetched : Fetched ev scope target operand m slot current r m₁) :
    Augments ev scope target op operand m
      ((if current.combinesInPlace op then do
        combineInPlace ev op current r
        storeSlot scope current slot
      else do
        storeSlot scope (← augmentedValue op current r) slot : Eval Unit).on m₁) := by
  cases inPlace : current.combinesInPlace op with
  | true =>
    rw [if_pos rfl]
    generalize drained : (drainOperand ev op current r).on m₁ = outcome
    obtain ⟨s | items, m₂⟩ := outcome
    · rw [on_bind_error (combineInPlace_of_drain_error drained)]
      exact .undrained fetched inPlace drained
    · have course := combineInPlace_combines drained
      generalize combination : (combineInPlace ev op current r).on m₁ = outcome at course
      rw [on_bind, combination]
      cases course with
      | refused s gas => exact .uncombined fetched inPlace drained combination
      | combined result gas =>
        exact .combined fetched inPlace drained result
          (Heap.refilled_refill (fits_combined result)) (storeSlot_stores scope current slot _)
  | false =>
    rw [if_neg Bool.false_ne_true]
    have course := augmentedValue_computes op current r m₁
    generalize computation : (augmentedValue op current r).on m₁ = outcome at course
    rw [on_bind, computation]
    cases course with
    | refused s gas => exact .uncomputed fetched inPlace computation
    | computed result gas =>
      exact .computed fetched inPlace result (storeSlot_stores scope _ slot _)

theorem augmentTarget_augments (ev : Evaluator) (scope : ScopeId) (target : Expr) (op : BinaryOp)
    (operand : Expr) (m : Machine) :
    Augments ev scope target op operand m ((augmentTarget ev scope target op operand).on m) := by
  rw [augmentTarget, on_bind]
  have resolved := resolveSlot_resolves ev scope target m
  generalize (resolveSlot ev scope target).on m = outcome at resolved
  obtain ⟨s | slot, m₁⟩ := outcome
  · exact .unresolved resolved
  dsimp only
  rw [on_bind]
  have loaded := loadSlot_loads scope slot m₁
  generalize (loadSlot scope slot).on m₁ = outcome at loaded
  cases loaded with
  | failed stopped => exact .unloaded resolved stopped
  | found loaded =>
    rename_i current nextSerial
    dsimp only
    generalize evaluated : (ev.eval operand scope).on { m₁ with nextSerial } = outcome
    obtain ⟨s | r, m₂⟩ := outcome
    · rw [on_bind_error evaluated]
      exact .noOperand resolved loaded evaluated
    · rw [on_bind_ok evaluated]
      exact combineAndStore_augments (.intro resolved loaded evaluated)

/-- **Augmented assignment commits in order.** -/
theorem augmented_assignment_commits_in_order (ev : Evaluator) (scope : ScopeId) (span : Span)
    (target : Expr) (op : BinaryOp) (operand : Expr) (m : Machine) :
    ∃ gas, (execStmt ev ⟨span, .augmented target op operand⟩ scope).on m =
        (.error .gasExhausted, { m with gas }) ∨
      Augments ev scope target op operand { m with gas }
        ((execStmt ev ⟨span, .augmented target op operand⟩ scope).on m) := by
  refine ⟨min (m.gas + 1) gasCeiling, ?_⟩
  rw [execStmt, tick, on_bind, on_charge]
  split
  · rename_i paid
    obtain ⟨-, rfl⟩ := Prod.mk.inj paid
    exact .inr (augmentTarget_augments ev scope target op operand _)
  · rename_i paid
    obtain ⟨stopped, rfl⟩ := Prod.mk.inj paid
    refine .inl ?_
    split at stopped <;> cases stopped
    rfl

end MeteredScript
