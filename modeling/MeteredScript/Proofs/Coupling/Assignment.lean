import MeteredScript.Evaluation.Matching
import MeteredScript.Proofs.Coupling.Method

/-!
# Two assignments

Plain and augmented assignment, unpacking, and the captures of patterns.
-/

namespace MeteredScript

/-- The name that an evaluated place is looked up by, if it is. -/
def Slot.names : Slot → List String
  | .name id => [id]
  | .attribute _ attributeName => [attributeName]
  | .item .. => []

/-- A pattern captures only names that occur in it. -/
theorem Pattern.names_of_captures? {heap : Heap} {p : Pattern} {subject : Value}
    {captures : List (String × Value)} (h : p.captures? heap subject = some captures) :
    ∀ name ∈ captures.map Prod.fst, name ∈ p.names := by
  cases p with
  | wildcard =>
    cases h
    simp
  | capture name =>
    cases h
    simp [Pattern.names]
  | literals options =>
    rw [Pattern.captures?] at h
    split at h
    · cases h
      simp
    · cases h
  | sequence names =>
    simp only [Pattern.captures?, Option.bind_eq_bind, Option.bind_eq_some_iff] at h
    obtain ⟨items, -, h⟩ := h
    split at h
    · cases h
      intro name hname
      simp only [List.mem_map, List.mem_filter, Prod.exists] at hname
      obtain ⟨_, v, ⟨hmem, -⟩, rfl⟩ := hname
      exact (List.of_mem_zip hmem).1
    · cases h

namespace Coupling

variable {c : Coupling}

namespace Lawful

variable (hc : c.Lawful)

include hc

theorem storeItem (container key value : Value) :
    c.Sim (storeItem container key value) (storeItem container key value) :=
  Sim.bind hc.heap fun _ => Sim.bind (Sim.ofFault _) fun _ => hc.modifyHeap _

theorem chargeRepetition (op : BinaryOp) (l r : Value) :
    c.Sim (chargeRepetition op l r) (chargeRepetition op l r) := by
  refine Sim.bind hc.heap fun heap => Sim.bind (Sim.ofFault _) fun length => ?_
  cases length with
  | some length => exact hc.charge length
  | none => exact Sim.pure ()

theorem binaryValue (op : BinaryOp) (l r : Value) :
    c.Sim (binaryValue op l r) (binaryValue op l r) := by
  refine Sim.bind (hc.chargeRepetition op l r) fun _ => Sim.bind hc.heap fun heap => ?_
  exact Sim.bind (Sim.ofFault _) fun result => hc.place result

theorem repeatInPlace (id : ListId) (count : Value) :
    c.Sim (repeatInPlace id count) (repeatInPlace id count) := by
  unfold MeteredScript.repeatInPlace
  cases count.asInt? with
  | none => exact Sim.fail _
  | some n =>
    refine Sim.bind hc.heap fun heap => Sim.bind (Sim.ofFault _) fun length => ?_
    exact Sim.bind (hc.charge _) fun _ => hc.modifyHeap _

theorem augmentedValue (op : BinaryOp) (l r : Value) :
    c.Sim (augmentedValue op l r) (augmentedValue op l r) := by
  refine SimOf.attempt_bindOf (hc.binaryValue op l r) (fun result _ => ?_) Unwinds.throw
    fun _ _ => trivial
  match result with
  | .ok v => exact Sim.ofStop _
  | .error (.fault (.typeFault _)) => exact Sim.fail _
  | .error (.fault (.unresolvedName _)) | .error (.fault (.exhausted _))
  | .error (.fault (.protocolViolation _)) | .error (.fault (.raised _))
  | .error (.returns _) | .error .breaks | .error .continues | .error .gasExhausted
  | .error .endless => exact Sim.ofStop _

theorem bindCaptures {s : ScopeId} {captures : List (String × Value)}
    (hn : c.Shows (captures.map Prod.fst)) :
    c.Sim (bindCaptures s captures) (bindCaptures s captures) := by
  induction captures with
  | nil => exact Sim.pure ()
  | cons capture rest ih =>
    rw [List.map_cons, shows_cons] at hn
    exact Sim.bind (hc.define _ hn.1) fun _ => ih hn.2

/-! ## Places -/

theorem loadSlot {s : ScopeId} {slot : Slot} (hn : c.Shows slot.names) :
    c.Sim (loadSlot s slot) (loadSlot s slot) := by
  match slot with
  | .name id => exact hc.lookup (shows_cons.1 hn).1
  | .attribute object name => exact hc.getAttribute object (shows_cons.1 hn).1
  | .item container key => exact Sim.bind hc.heap fun heap => Sim.ofStop _

theorem storeSlot {s : ScopeId} (value : Value) {slot : Slot}
    (hn : c.Shows slot.names) : c.Sim (storeSlot s value slot) (storeSlot s value slot) := by
  match slot with
  | .name id => exact hc.define value (shows_cons.1 hn).1
  | .attribute object name => exact hc.setAttribute object value (shows_cons.1 hn).1
  | .item container key => exact hc.storeItem container key value

end Lawful

namespace Couples

variable {ev ev' : Evaluator}

section Parts

variable (h : c.Couples ev ev')

include h

theorem execOptional {s : ScopeId} {block : Option Block}
    (hb : c.Shows (optionalBlockNames block)) :
    c.Sim (ev.execOptional s block) (ev'.execOptional s block) := by
  cases block with
  | none => exact Sim.pure ()
  | some block => exact h.execBlock hb

theorem evalAll {s : ScopeId} {es : List Expr}
    (hn : c.Shows (exprsNames es)) : c.Sim (ev.evalAll s es) (ev'.evalAll s es) := by
  induction es with
  | nil => exact Sim.pure []
  | cons e es ih =>
    rw [exprsNames, shows_append] at hn
    exact Sim.bind (h.eval hn.1) fun v => Sim.bind (ih hn.2) fun vs => Sim.pure (v :: vs)

theorem holds {s : ScopeId} {condition : Expr}
    (hn : c.Shows condition.names) : c.Sim (ev.holds s condition) (ev'.holds s condition) :=
  Sim.bind (h.eval hn) fun v => h.isTruthy v

theorem allHold {s : ScopeId} {conditions : List Expr}
    (hn : c.Shows (exprsNames conditions)) :
    c.Sim (ev.allHold s conditions) (ev'.allHold s conditions) := by
  induction conditions with
  | nil => exact Sim.pure true
  | cons condition rest ih =>
    rw [exprsNames, shows_append] at hn
    exact Sim.bind (h.holds hn.1) fun b => Sim.ite (ih hn.2) (Sim.pure false)

theorem unpackItems (value : Value) (targets : Nat) :
    c.Sim (unpackItems ev value targets) (unpackItems ev' value targets) := by
  refine Sim.bind (h.collect value) fun items => ?_
  exact Sim.bind (Sim.require _ _) fun _ => Sim.bind (Sim.require _ _) fun _ => Sim.pure _

end Parts

/-! ## Targets -/

mutual

/-- **Two assignments to a target do the same.** -/
theorem assignTarget (h : c.Couples ev ev') {s : ScopeId} :
    ∀ (target : Expr) (value : Value), c.Shows target.names →
      c.Sim (assignTarget ev s target value) (assignTarget ev' s target value)
  | .name id, value, hn => h.define value (shows_cons.1 hn).1
  | .tuple targets, value, hn | .list targets, value, hn =>
    Sim.bind (h.unpackItems value targets.length) fun values =>
      assignEach h targets values hn
  | .attribute object name, value, hn => by
    rw [Expr.names, shows_cons] at hn
    exact Sim.bind (h.eval hn.2) fun o => h.setAttribute o value hn.1
  | .subscript object index, value, hn => by
    rw [Expr.names, shows_append] at hn
    refine Sim.bind (h.eval hn.1) fun container => ?_
    exact Sim.bind (h.eval hn.2) fun key => h.storeItem container key value
  | .int _, _, _ | .str _, _, _ | .bool _, _, _ | .none, _, _ | .format _, _, _ | .set _, _, _
  | .dict _, _, _ | .call _ _, _, _ | .binary _ _ _, _, _ | .logical _ _ _, _, _
  | .unary _ _, _, _ | .compare _ _, _, _ | .conditional _ _ _, _, _ | .lambda _ _, _, _
  | .comprehension _ _, _, _ | .yield _, _, _ => Sim.fail _

theorem assignEach (h : c.Couples ev ev') {s : ScopeId} :
    ∀ (targets : List Expr) (values : List Value), c.Shows (exprsNames targets) →
      c.Sim (assignEach ev s targets values) (assignEach ev' s targets values)
  | target :: targets, value :: values, hn => by
    rw [exprsNames, shows_append] at hn
    refine Sim.bind (assignTarget h target value hn.1) fun _ => ?_
    exact assignEach h targets values hn.2
  | [], _, _ => Sim.pure ()
  | _ :: _, [], _ => Sim.pure ()

end

variable (h : c.Couples ev ev')

include h

theorem assignAll {s : ScopeId} (value : Value) {targets : List Expr}
    (hn : c.Shows (exprsNames targets)) :
    c.Sim (assignAll ev s value targets) (assignAll ev' s value targets) := by
  induction targets with
  | nil => exact Sim.pure ()
  | cons target targets ih =>
    rw [exprsNames, shows_append] at hn
    exact Sim.bind (h.assignTarget target value hn.1) fun _ => ih hn.2

/-! ## Augmented assignment -/

theorem resolveSlot {s : ScopeId} {target : Expr} (hn : c.Shows target.names) :
    c.SimOf (fun slot => c.Shows slot.names) (resolveSlot ev s target)
      (resolveSlot ev' s target) := by
  have ht (hl : c.Lenient) (slot : Slot) : c.Shows slot.names := hl.shows slot.names
  match target with
  | .name id => exact SimOf.pure hn ht
  | .attribute object name =>
    rw [Expr.names, shows_cons] at hn
    refine SimOf.bindOf (h.eval hn.2) (fun o _ => SimOf.pure ?_ ht) ht
    exact shows_cons.2 ⟨hn.1, shows_nil c⟩
  | .subscript object index =>
    rw [Expr.names, shows_append] at hn
    refine SimOf.bindOf (h.eval hn.1) (fun container _ => ?_) ht
    exact SimOf.bindOf (h.eval hn.2) (fun key _ => SimOf.pure (shows_nil c) ht) ht
  | .int _ | .str _ | .bool _ | .none | .format _ | .list _ | .tuple _ | .set _ | .dict _
  | .call _ _ | .binary _ _ _ | .logical _ _ _ | .unary _ _ | .compare _ _
  | .conditional _ _ _ | .lambda _ _ | .comprehension _ _ | .yield _ => exact SimOf.throw _ ht

theorem combineInPlace (op : BinaryOp) (target operand : Value) :
    c.Sim (combineInPlace ev op target operand) (combineInPlace ev' op target operand) := by
  unfold MeteredScript.combineInPlace
  split
  · exact Sim.bind (h.collect _) fun items => h.modifyHeap _
  · exact h.repeatInPlace _ _
  · refine Sim.bind h.heap fun heap => ?_
    split
    · exact h.modifyHeap _
    · exact Sim.fail _
  · exact Sim.bind h.heap fun heap => h.modifyHeap _
  · exact Sim.fail _

/-- **Two augmented assignments do the same.** -/
theorem augmentTarget {s : ScopeId} {target : Expr} (op : BinaryOp)
    {operand : Expr} (ht : c.Shows target.names) (ho : c.Shows operand.names) :
    c.Sim (augmentTarget ev s target op operand) (augmentTarget ev' s target op operand) := by
  refine SimOf.bind (h.resolveSlot ht) fun slot hslot => ?_
  refine Sim.bind (h.loadSlot hslot) fun current => Sim.bind (h.eval ho) fun r => ?_
  refine Sim.ite ?_ ?_
  · exact Sim.bind (h.combineInPlace op current r) fun _ => h.storeSlot current hslot
  · exact Sim.bind (h.augmentedValue op current r) fun v => h.storeSlot v hslot

/-! ## Pattern matching -/

theorem guardHolds {s : ScopeId} {guard : Option Expr}
    (hn : c.Shows (optionalNames guard)) :
    c.Sim (guardHolds ev s guard) (guardHolds ev' s guard) := by
  cases guard with
  | none => exact Sim.pure true
  | some guard => exact h.holds hn

/-- **Two runs select the same case**, one whose body is written there. -/
theorem selectCase {s : ScopeId} (subject : Value) {cases : List Case}
    (hn : c.Shows (casesNames cases)) :
    c.SimOf (fun body => c.Shows (optionalBlockNames body)) (selectCase ev s subject cases)
      (selectCase ev' s subject cases) := by
  have ht (hl : c.Lenient) (body : Option Block) := hl.shows (optionalBlockNames body)
  induction cases with
  | nil => exact SimOf.pure (shows_nil c) ht
  | cons case rest ih =>
    obtain ⟨pattern, guard, body⟩ := case
    simp only [casesNames, shows_append] at hn
    obtain ⟨⟨⟨hpattern, hguard⟩, hbody⟩, hrest⟩ := hn
    refine SimOf.bindOf h.heap (fun heap _ => ?_) ht
    cases hc : pattern.captures? heap subject with
    | none => simpa only [hc] using ih hrest
    | some captures =>
      have hcaptures : c.Shows (captures.map Prod.fst) := fun name hname =>
        hpattern name (Pattern.names_of_captures? hc name hname)
      refine SimOf.bindOf (h.bindCaptures hcaptures) (fun _ _ => ?_) ht
      refine SimOf.bindOf (h.guardHolds hguard) (fun holds _ => ?_) ht
      cases holds with
      | true => exact SimOf.pure hbody ht
      | false => exact ih hrest

end Couples

end Coupling

end MeteredScript
