import MeteredScript.Evaluation.Matching
import MeteredScript.Proofs.Regime.Method

/-!
# Assignments under a regime

A target is the one place where code names what it writes to: a name of the
scope it runs in, an attribute of an object that an expression gave it, or an
item of a container.
-/

namespace MeteredScript

mutual

/-- **The expressions whose values an assignment to a target sets attributes
of.** -/
def Expr.attributeObjects : Expr → List Expr
  | .attribute object _ => [object]
  | .tuple targets | .list targets => exprsAttributeObjects targets
  | _ => []

/-- The same of several targets. -/
def exprsAttributeObjects : List Expr → List Expr
  | [] => []
  | target :: targets => target.attributeObjects ++ exprsAttributeObjects targets

end

/-- What an evaluated place that is an attribute is an attribute of is such a
value. -/
def Slot.Given (P : Value → Prop) : Slot → Prop
  | .attribute object _ => P object
  | .name _ | .item .. => True

namespace Regime

variable {R : Regime} {Objects : Expr → Prop} {g : R.Stage} {w : R.World}

/-! ## Items and operators -/

theorem Keeps.storeItem (container : Value) {key value : Value} (hk : Within (R.named w) key)
    (hv : Within (R.named w) value) :
    R.Keeps g w (storeItem container key value) (storeItem container key value) := by
  refine .bind_heap fun w₁ heap hw₁ _ => .bind_ofFault (within_storePlace (hk.grow hw₁)) ?_
  intro place found hplace
  refine .modifyHeap fun w₂ h hw₂ upheld => ?_
  exact upheld.store (storePlace_keyed found).1 (hplace.grow hw₂)
    (hv.grow (R.grows_trans hw₁ hw₂))

theorem Keeps.chargeRepetition (op : BinaryOp) (l r : Value) :
    R.Keeps g w (chargeRepetition op l r) (chargeRepetition op l r) := by
  refine .bind_heap fun _ heap _ _ => .bind_ofFault (within_repeatLength heap op l r) ?_
  intro length _ _
  cases length with
  | some length => exact .charge length
  | none => exact .pure (within_plain ())

theorem Keeps.binaryValue (op : BinaryOp) {l r : Value} (hl : Within (R.named w) l)
    (hr : Within (R.named w) r) : R.Keeps g w (binaryValue op l r) (binaryValue op l r) := by
  refine (Keeps.chargeRepetition op l r).bind fun w₁ _ hw₁ _ => .bind_heap fun w₂ heap hw₂ up => ?_
  have later := R.grows_trans hw₁ hw₂
  obtain ⟨within, sound⟩ := within_binaryResult op up (hl.grow later) (hr.grow later)
  exact .bind_ofFault within fun result made hresult => .place (sound result made) hresult

theorem Keeps.repeatInPlace (id : ListId) (count : Value) :
    R.Keeps g w (repeatInPlace id count) (repeatInPlace id count) := by
  unfold MeteredScript.repeatInPlace
  cases count.asInt? with
  | none => exact .fail (within_typeFault _)
  | some n =>
    refine .bind_heap fun _ heap _ _ => .bind_ofFault (within_repeatLength heap _ _ _) ?_
    intro length _ _
    refine (Keeps.charge _).bind fun _ _ _ _ => .modifyHeap fun _ _ _ upheld => ?_
    exact upheld.modifyList (within_toArray.2 ((within_array.1 (upheld.list id)).repeatList _))

theorem Keeps.augmentedValue (op : BinaryOp) {l r : Value} (hl : Within (R.named w) l)
    (hr : Within (R.named w) r) :
    R.Keeps g w (augmentedValue op l r) (augmentedValue op l r) := by
  refine (Keeps.binaryValue op hl hr).attempt.bind fun _ result _ hresult => ?_
  match result, hresult with
  | .error (.fault (.typeFault _)), _ => exact .fail (within_typeFault _)
  | .ok _, h | .error (.fault (.unresolvedName _)), h | .error (.fault (.exhausted _)), h
  | .error (.fault (.protocolViolation _)), h | .error (.fault (.raised _)), h
  | .error (.returns _), h | .error .breaks, h | .error .continues, h
  | .error .gasExhausted, h | .error .endless, h => exact .ofStop h

/-! ## Names and attributes -/

theorem Keeps.bindCaptures {s : ScopeId} (writes : R.writes g s)
    {captures : List (String × Value)} (hc : Within (R.named w) captures) :
    R.Keeps g w (bindCaptures s captures) (bindCaptures s captures) := by
  induction captures generalizing w with
  | nil => exact .pure (within_plain ())
  | cons capture rest ih =>
    rw [within_cons] at hc
    exact (Keeps.define writes hc.1.snd).bind fun _ _ hw _ => ih (hc.2.grow hw)

theorem Keeps.loadSlot {s : ScopeId} (runs : R.runs g s) {slot : Slot} (hslot : Within (R.named w) slot) :
    R.Keeps g w (loadSlot s slot) (loadSlot s slot) := by
  match slot, hslot with
  | .name id, _ => exact .lookup runs id
  | .attribute object name, ho => exact .getAttribute ho name
  | .item container key, hslot =>
    refine .bind_heap fun _ heap hw upheld => .ofStop ?_
    exact within_itemAt upheld ((within_slotItem.1 hslot).1.grow hw)

theorem Keeps.storeSlot {s : ScopeId} (writes : R.writes g s) {value : Value} {slot : Slot}
    (hv : Within (R.named w) value) (hslot : Within (R.named w) slot) (given : slot.Given R.gives) :
    R.Keeps g w (storeSlot s value slot) (storeSlot s value slot) := by
  match slot, hslot, given with
  | .name id, _, _ => exact .define writes hv
  | .attribute object name, ho, given => exact .setAttribute given ho hv
  | .item container key, hslot, _ => exact .storeItem container (within_slotItem.1 hslot).2 hv

namespace Keeping

variable {ev ev' : Evaluator} (h : R.Keeping Objects ev ev')

include h

theorem unpackItems {value : Value} (hv : Within (R.named w) value) (targets : Nat) :
    R.Keeps g w (unpackItems ev value targets) (unpackItems ev' value targets) := by
  refine (h.collect hv).bind fun _ items _ hi => ?_
  refine (Keeps.require (within_faultSaying _ _)).bind fun _ _ hw _ => ?_
  refine (Keeps.require (within_faultSaying _ _)).bind fun _ _ hw' _ => ?_
  exact .pure (within_array.1 (hi.grow (R.grows_trans hw hw')))

end Keeping

/-! ## Targets -/

mutual

/-- **An assignment writes to where its code may write.** -/
theorem Keeping.assignTarget {ev ev' : Evaluator} (h : R.Keeping Objects ev ev') {w : R.World}
    {s : ScopeId} (runs : R.runs g s) (writes : R.writes g s) :
    ∀ (target : Expr) {value : Value}, (∀ o ∈ target.attributeObjects, Objects o) →
      Within (R.named w) value →
      R.Keeps g w (assignTarget ev s target value) (assignTarget ev' s target value)
  | .name _, _, _, hv => .define writes hv
  | .tuple targets, _, ht, hv | .list targets, _, ht, hv =>
    (h.unpackItems hv targets.length).bind fun _ _ _ hvs => h.assignEach runs writes targets ht hvs
  | .attribute object _, _, ht, hv =>
    (h.eval runs).bind_gives (h.gives s (ht object List.mem_cons_self)) fun _ _ hw ho given =>
      .setAttribute given ho (hv.grow hw)
  | .subscript _ _, _, _, hv =>
    (h.eval runs).bind fun _ container hw _ => (h.eval runs).bind fun _ _ hw' hk =>
      .storeItem container hk (hv.grow (R.grows_trans hw hw'))
  | .int _, _, _, _ | .str _, _, _, _ | .bool _, _, _, _ | .none, _, _, _ | .format _, _, _, _
  | .set _, _, _, _ | .dict _, _, _, _ | .call _ _, _, _, _ | .binary _ _ _, _, _, _
  | .logical _ _ _, _, _, _ | .unary _ _, _, _, _ | .compare _ _, _, _, _
  | .conditional _ _ _, _, _, _ | .lambda _ _, _, _, _ | .comprehension _ _, _, _, _
  | .yield _, _, _, _ => .fail (within_typeFault _)

theorem Keeping.assignEach {ev ev' : Evaluator} (h : R.Keeping Objects ev ev') {w : R.World}
    {s : ScopeId} (runs : R.runs g s) (writes : R.writes g s) :
    ∀ (targets : List Expr) {values : List Value},
      (∀ o ∈ exprsAttributeObjects targets, Objects o) → Within (R.named w) values →
      R.Keeps g w (assignEach ev s targets values) (assignEach ev' s targets values)
  | target :: targets, _ :: _, ht, hvs =>
    (h.assignTarget runs writes target (fun o ho => ht o (List.mem_append_left _ ho))
      (within_cons.1 hvs).1).bind fun _ _ hw _ =>
      h.assignEach runs writes targets (fun o ho => ht o (List.mem_append_right _ ho))
        ((within_cons.1 hvs).2.grow hw)
  | [], _, _, _ => .pure (within_plain ())
  | _ :: _, [], _, _ => .pure (within_plain ())

end

namespace Keeping

variable {ev ev' : Evaluator} (h : R.Keeping Objects ev ev') {s : ScopeId}

include h

theorem assignAll (runs : R.runs g s) (writes : R.writes g s) {value : Value}
    (hv : Within (R.named w) value) {targets : List Expr}
    (ht : ∀ o ∈ exprsAttributeObjects targets, Objects o) :
    R.Keeps g w (assignAll ev s value targets) (assignAll ev' s value targets) := by
  induction targets generalizing w with
  | nil => exact .pure (within_plain ())
  | cons target targets ih =>
    rw [exprsAttributeObjects, List.forall_mem_append] at ht
    exact (h.assignTarget runs writes target ht.1 hv).bind fun _ _ hw _ => ih (hv.grow hw) ht.2

/-! ## Augmented assignment -/

theorem resolveSlot (runs : R.runs g s) (target : Expr) :
    R.Keeps g w (resolveSlot ev s target) (resolveSlot ev' s target) := by
  match target with
  | .name id => exact .pure (within_slotName id)
  | .attribute object name =>
    exact (h.eval runs).bind fun _ _ _ ho => .pure (within_slotAttribute.2 ho)
  | .subscript object index =>
    refine (h.eval runs).bind fun _ container _ hc => (h.eval runs).bind fun _ key hw hk => ?_
    exact .pure (within_slotItem.2 ⟨hc.grow hw, hk⟩)
  | .int _ | .str _ | .bool _ | .none | .format _ | .list _ | .tuple _ | .set _ | .dict _
  | .call _ _ | .binary _ _ _ | .logical _ _ _ | .unary _ _ | .compare _ _
  | .conditional _ _ _ | .lambda _ _ | .comprehension _ _ | .yield _ =>
    exact .fail (within_typeFault _)

/-- The object of the place was the value of an expression. -/
theorem gives_resolveSlot {target : Expr} (ht : ∀ o ∈ target.attributeObjects, Objects o) :
    Eval.Gives (Slot.Given R.gives) (MeteredScript.resolveSlot ev s target) := by
  match target with
  | .name id => exact .pure trivial
  | .attribute object name =>
    intro m slot n resolved
    rw [MeteredScript.resolveSlot, Eval.on_bind] at resolved
    split at resolved
    · rename_i given
      cases resolved
      exact h.gives s (ht object List.mem_cons_self) m _ _ given
    · cases resolved
  | .subscript object index => exact .bind fun _ => .bind fun _ => .pure trivial
  | .int _ | .str _ | .bool _ | .none | .format _ | .list _ | .tuple _ | .set _ | .dict _
  | .call _ _ | .binary _ _ _ | .logical _ _ _ | .unary _ _ | .compare _ _
  | .conditional _ _ _ | .lambda _ _ | .comprehension _ _ | .yield _ => exact .throw _

theorem combineInPlace (op : BinaryOp) (target : Value) {operand : Value}
    (ho : Within (R.named w) operand) :
    R.Keeps g w (combineInPlace ev op target operand) (combineInPlace ev' op target operand) := by
  unfold MeteredScript.combineInPlace
  split
  · rename_i id
    exact (h.collect ho).bind fun _ items _ hi => .appendItems id hi
  · exact .repeatInPlace _ _
  · rename_i id other
    refine .bind_heap fun w₁ heap _ upheld => ?_
    split
    · rename_i items combined
      have sound := (upheld.sound.set id).onSets? (upheld.sound.set other) combined
      have within : Within (R.named w₁) items := within_table.2 fun e member =>
        (ItemTable.mem_onSets? combined member).elim (within_table.1 (upheld.set id) e)
          (within_table.1 (upheld.set other) e)
      exact .modifyHeap fun _ _ hw upheld => upheld.modifySet sound (within.grow hw)
    · exact .fail (within_typeFault _)
  · rename_i id other
    refine .bind_heap fun w₁ heap _ read => .modifyHeap fun w₂ h hw upheld => ?_
    have old := within_table.1 (upheld.dict id)
    have new := within_table.1 ((read.dict other).grow hw)
    refine upheld.modifyDict ((upheld.sound.dict id).update (read.sound.dict other)) ?_
    refine within_table.2 fun e member => within_pair.2 ?_
    exact EntryTable.mem_update (p := Within (R.named w₂)) (upheld.sound.dict id)
      (read.sound.dict other) (fun e stored => within_pair.1 (old e stored))
      (fun e stored => within_pair.1 (new e stored)) e member
  · exact .fail (within_typeFault _)

/-- **So does an augmented one.** -/
theorem augmentTarget (runs : R.runs g s) (writes : R.writes g s) {target : Expr}
    (ht : ∀ o ∈ target.attributeObjects, Objects o) (op : BinaryOp) (operand : Expr) :
    R.Keeps g w (augmentTarget ev s target op operand) (augmentTarget ev' s target op operand) := by
  refine (h.resolveSlot runs target).bind_gives (h.gives_resolveSlot ht) ?_
  intro w₁ slot _ hslot given
  refine (Keeps.loadSlot runs hslot).bind fun w₂ current hw₂ hc => (h.eval runs).bind ?_
  intro w₃ r hw₃ hr
  have resolved := hslot.grow (R.grows_trans hw₂ hw₃)
  have stored := hc.grow hw₃
  refine .ite ?_ ?_
  · refine (h.combineInPlace op current hr).bind fun _ _ hw _ => ?_
    exact .storeSlot writes (stored.grow hw) (resolved.grow hw) given
  · refine (Keeps.augmentedValue op stored hr).bind fun _ v hw hv => ?_
    exact .storeSlot writes hv (resolved.grow hw) given

/-! ## Pattern matching -/

theorem guardHolds (runs : R.runs g s) (guard : Option Expr) :
    R.Keeps g w (guardHolds ev s guard) (guardHolds ev' s guard) := by
  cases guard with
  | none => exact .pure (within_plain true)
  | some guard => exact h.holds runs guard

/-- What a pattern captures is bound where its code runs. -/
theorem selectCase (runs : R.runs g s) (writes : R.writes g s) {subject : Value}
    (hs : Within (R.named w) subject) (cases : List Case) :
    R.Keeps g w (selectCase ev s subject cases) (selectCase ev' s subject cases) := by
  induction cases generalizing w with
  | nil => exact .pure (within_plain none)
  | cons case rest ih =>
    obtain ⟨pattern, guard, body⟩ := case
    refine .bind_heap fun w₁ heap hw₁ upheld => ?_
    have captured := within_captures? upheld (hs.grow hw₁) pattern
    dsimp only
    generalize pattern.captures? heap subject = captures? at captured
    cases captures? with
    | none => exact ih (hs.grow hw₁)
    | some captures =>
      refine (Keeps.bindCaptures writes (within_some.1 captured)).bind fun w₂ _ hw₂ _ => ?_
      refine (h.guardHolds runs guard).bind fun w₃ holds hw₃ _ => ?_
      have later := R.grows_trans hw₁ (R.grows_trans hw₂ hw₃)
      exact .ite (.pure (within_plain (some body))) (ih (hs.grow later))

end Keeping

end Regime

end MeteredScript
