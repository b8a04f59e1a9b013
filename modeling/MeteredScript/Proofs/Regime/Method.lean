import MeteredScript.Evaluation.Call
import MeteredScript.Proofs.Regime.Builtin

/-!
# Calls under a regime

Methods of built-in types, functions of a script, and calls of any value. A
method of a container is one more way to write to it. A function runs in a
scope of its own: what it writes to is that scope, whatever scope the call
stands in.
-/

namespace MeteredScript

namespace Regime

variable {R : Regime} {Objects : Expr → Prop} {g : R.Stage} {w : R.World}

/-! ## Lists -/

theorem Keeps.appendItems (id : ListId) {items : Array Value} (hi : Within (R.named w) items) :
    R.Keeps g w (appendItems id items) (appendItems id items) := by
  refine .modifyHeap fun w₁ h hw upheld => upheld.modifyList (within_array.2 ?_)
  rw [Array.toList_append, within_append]
  exact ⟨upheld.list id, hi.grow hw⟩

theorem Keeps.appendItem (id : ListId) {item : Value} (hi : Within (R.named w) item) :
    R.Keeps g w (appendItem id item) (appendItem id item) :=
  .modifyHeap fun _ _ hw upheld =>
    upheld.modifyList (within_push.2 ⟨upheld.list id, hi.grow hw⟩)

theorem Keeps.popItem (id : ListId) (index : Option Value) :
    R.Keeps g w (popItem id index) (popItem id index) := by
  have position {w : R.World} : R.Keeps g w (popIndex index) (popIndex index) := by
    cases index with
    | none => exact .pure (within_plain (-1 : Int))
    | some v => exact (Keeps.integerArgument _ v).map _ fun _ _ _ _ => within_plain _
  refine .bind_heap fun _ heap _ _ => (Keeps.require (within_faultSaying _ _)).bind fun _ _ _ _ => ?_
  refine position.bind fun _ n _ _ => ?_
  cases resolvePosition (heap.list id).size n with
  | none => exact .fail (within_faultSaying _ _)
  | some i =>
    refine .bind_heap fun w₁ heap _ upheld => ?_
    have item : Within (R.named w₁) ((heap.list id).getD i .none) := by
      rw [Array.getD_eq_getD_getElem?, ← Array.getElem?_toList]
      exact ((within_array.1 (upheld.list id)).getElem? i).getD within_none
    have shorter : R.Keeps g w₁
        (Eval.modifyHeap (·.modifyList id (·.eraseIdxIfInBounds i)))
        (Eval.modifyHeap (·.modifyList id (·.eraseIdxIfInBounds i))) := by
      refine .modifyHeap fun w₂ h _ upheld => upheld.modifyList (within_array.2 ?_)
      refine (within_array.1 (upheld.list id)).of_subset fun x member => ?_
      rw [Array.toList_eraseIdxIfInBounds] at member
      exact List.mem_of_mem_eraseIdx member
    exact shorter.bind fun _ _ hw _ => .pure (item.grow hw)

/-! ## Sets and dicts -/

theorem Keeps.addItems (id : SetId) {items : List Value} (hi : Within (R.named w) items) :
    R.Keeps g w (addItems id items) (addItems id items) := by
  induction items generalizing w with
  | nil => exact .pure (within_plain ())
  | cons item rest ih =>
    rw [within_cons] at hi
    refine .bind_ofTypeFault fun key hashed => ?_
    have added : R.Keeps g w (Eval.modifyHeap (·.modifySet id (·.insertNew key item)))
        (Eval.modifyHeap (·.modifySet id (·.insertNew key item))) := by
      refine .modifyHeap fun w₁ h hw upheld =>
        upheld.modifySet ((upheld.sound.set id).insertNew hashed) (within_table.2 fun e member => ?_)
      obtain old | rfl := Table.mem_insertNew member
      · exact within_table.1 (upheld.set id) e old
      · exact hi.1.grow hw
    exact added.bind fun _ _ hw _ => ih (hi.2.grow hw)

theorem Keeps.requireMember (id : SetId) (key : HashKey) (item : Value) :
    R.Keeps g w (requireMember id key item) (requireMember id key item) := by
  refine .bind_heap fun _ heap _ _ => .ite (.pure (within_plain ())) ?_
  exact (Keeps.reprHolding _ item).bind fun _ _ _ _ => .fail (within_faultSaying _ _)

theorem Keeps.discardKey (id : SetId) (key : HashKey) :
    R.Keeps g w (discardKey id key) (discardKey id key) :=
  .modifyHeap fun _ _ _ upheld => upheld.modifySet (upheld.sound.set id).erase
    (within_table.2 fun e member => within_table.1 (upheld.set id) e (Table.mem_erase member))

theorem Keeps.callDictMethod (id : DictId) (name : String) {arguments : List Value}
    (ha : Within (R.named w) arguments) :
    R.Keeps g w (callDictMethod id name arguments) (callDictMethod id name arguments) := by
  have items {heap : Heap} {w : R.World} (upheld : heap.Upheld (R.named w))
      (f : Value × Value → Value) (hf : ∀ e, Within (R.named w) e → Within (R.named w) (f e)) :
      R.Keeps g w (Eval.place (.list ((heap.dict id).values.map f).toArray))
        (Eval.place (.list ((heap.dict id).values.map f).toArray)) := by
    refine .placeList (within_toArray.2 (within_list.2 fun v member => ?_))
    obtain ⟨e, stored, rfl⟩ := List.mem_map.1 member
    exact hf e (within_list.1 (upheld.dict id).values e stored)
  unfold MeteredScript.callDictMethod
  split
  · refine (Keeps.checkCount _ _ _ _).bind fun _ _ hw _ => .bind_ofTypeFault fun key _ => ?_
    refine .bind_heap fun w₁ heap hw' upheld => ?_
    have found := (upheld.dict id).find? key
    generalize (heap.dict id).find? key = entry at found
    cases entry with
    | none =>
      have fallback := ha.grow (R.grows_trans hw hw')
      exact .pure ((fallback.getElem? 1).getD within_none)
    | some entry => exact .pure (within_some.1 found).snd
  · exact (Keeps.checkCount _ _ _ _).bind fun _ _ _ _ => .bind_heap fun _ _ _ upheld =>
      items upheld _ fun _ he => he.fst
  · exact (Keeps.checkCount _ _ _ _).bind fun _ _ _ _ => .bind_heap fun _ _ _ upheld =>
      items upheld _ fun _ he => he.snd
  · exact (Keeps.checkCount _ _ _ _).bind fun _ _ _ _ => .bind_heap fun _ _ _ upheld =>
      items upheld _ fun _ he => by simp [he.fst, he.snd]
  · exact .fail (within_faultSaying _ _)

/-! ## Names of a call -/

theorem Keeps.defineAll {s : ScopeId} (writes : R.writes g s) {bound : List (String × Value)}
    (hb : Within (R.named w) bound) :
    R.Keeps g w (defineAll s bound) (defineAll s bound) := by
  induction bound generalizing w with
  | nil => exact .pure (within_plain ())
  | cons entry rest ih =>
    rw [within_cons] at hb
    exact (Keeps.define writes hb.1.snd).bind fun _ _ hw _ => ih (hb.2.grow hw)

theorem Keeps.makeException (kind : ExceptionKind) {arguments : List Value}
    (ha : Within (R.named w) arguments) :
    R.Keeps g w (makeException kind arguments) (makeException kind arguments) := by
  unfold MeteredScript.makeException
  split
  · exact .pure (within_bare kind)
  · exact .pure (within_stopIteration.2 (within_cons.1 ha).1)
  · exact (Keeps.text _).bind fun _ _ _ _ => .pure (within_saying _ _)
  · exact (Keeps.repr _).bind fun _ _ _ _ => .pure (within_saying _ _)

namespace Keeping

variable {ev ev' : Evaluator} (h : R.Keeping Objects ev ev')

include h

/-! ## Methods -/

theorem callListMethod (id : ListId) (name : String) {arguments : List Value}
    (ha : Within (R.named w) arguments) :
    R.Keeps g w (callListMethod ev id name arguments) (callListMethod ev' id name arguments) := by
  have first : Within (R.named w) (arguments.headD .none) := ha.headD within_none
  unfold MeteredScript.callListMethod
  split
  · refine (Keeps.checkCount _ _ _ _).bind fun _ _ hw _ => ?_
    exact (Keeps.appendItem id (first.grow hw)).bind fun _ _ _ _ => .pure within_none
  · refine (Keeps.checkCount _ _ _ _).bind fun _ _ hw _ => (h.collect (first.grow hw)).bind ?_
    intro _ items _ hi
    exact (Keeps.appendItems id hi).bind fun _ _ _ _ => .pure within_none
  · exact (Keeps.checkCount _ _ _ _).bind fun _ _ _ _ => .popItem id _
  · exact .fail (within_faultSaying _ _)

theorem callSetMethod (id : SetId) (name : String) {arguments : List Value}
    (ha : Within (R.named w) arguments) :
    R.Keeps g w (callSetMethod ev id name arguments) (callSetMethod ev' id name arguments) := by
  have first : Within (R.named w) (arguments.headD .none) := ha.headD within_none
  unfold MeteredScript.callSetMethod
  split
  · refine (Keeps.checkCount _ _ _ _).bind fun _ _ hw _ => ?_
    exact (Keeps.addItems id (within_cons.2 ⟨first.grow hw, within_nil⟩)).bind fun _ _ _ _ =>
      .pure within_none
  · refine (Keeps.checkCount _ _ _ _).bind fun _ _ hw _ => (h.collect (first.grow hw)).bind ?_
    intro _ items _ hi
    exact (Keeps.addItems id (within_array.1 hi)).bind fun _ _ _ _ => .pure within_none
  · refine (Keeps.checkCount _ _ _ _).bind fun _ _ _ _ => .bind_ofTypeFault fun key _ => ?_
    refine (Keeps.requireMember id key _).bind fun _ _ _ _ => ?_
    exact (Keeps.discardKey id key).bind fun _ _ _ _ => .pure within_none
  · refine (Keeps.checkCount _ _ _ _).bind fun _ _ _ _ => .bind_ofTypeFault fun key _ => ?_
    exact (Keeps.discardKey id key).bind fun _ _ _ _ => .pure within_none
  · exact .fail (within_faultSaying _ _)

theorem callStringMethod (s : String) (name : String) {arguments : List Value}
    (ha : Within (R.named w) arguments) :
    R.Keeps g w (callStringMethod ev s name arguments)
      (callStringMethod ev' s name arguments) := by
  have first : Within (R.named w) (arguments.headD .none) := ha.headD within_none
  unfold MeteredScript.callStringMethod
  split
  · refine (Keeps.checkCount _ _ _ _).bind fun _ _ _ _ => ?_
    split
    · exact .pure (within_int _)
    · exact .fail (within_typeFault _)
  · refine (Keeps.checkCount _ _ _ _).bind fun _ _ hw _ => (h.collect (first.grow hw)).bind ?_
    exact fun _ _ _ _ => .bind_ofTypeFault fun _ _ => .pure (within_str _)
  · exact (Keeps.checkCount _ _ _ _).bind fun _ _ _ _ => .pure (within_str _)
  · exact .fail (within_faultSaying _ _)

theorem callGeneratorMethod (id : GeneratorId) (receiver : Value) (name : String)
    {arguments : List Value} (ha : Within (R.named w) arguments) :
    R.Keeps g w (callGeneratorMethod ev id receiver name arguments)
      (callGeneratorMethod ev' id receiver name arguments) := by
  have first : Within (R.named w) (arguments.headD .none) := ha.headD within_none
  unfold MeteredScript.callGeneratorMethod
  split
  · exact (Keeps.checkCount _ _ _ _).bind fun _ _ hw _ =>
      h.resume id (within_send.2 (first.grow hw))
  · refine (Keeps.checkCount _ _ _ _).bind fun _ _ hw _ => .bind_ofTypeFault fun e made => ?_
    have thrown := within_exceptionOf (first.grow hw)
    rw [made, within_ok] at thrown
    exact h.resume id (within_throw.2 thrown)
  · exact (Keeps.checkCount _ _ _ _).bind fun _ _ _ _ =>
      (h.close id).bind fun _ _ _ _ => .pure within_none
  · exact .fail (within_faultSaying _ _)

theorem callMethod (receiver : Value) (name : String) {arguments : List Value}
    (ha : Within (R.named w) arguments) :
    R.Keeps g w (callMethod ev receiver name arguments)
      (callMethod ev' receiver name arguments) := by
  unfold MeteredScript.callMethod
  split
  · exact h.callListMethod _ name ha
  · exact h.callSetMethod _ name ha
  · exact .callDictMethod _ name ha
  · exact h.callStringMethod _ name ha
  · exact h.callGeneratorMethod _ _ name ha
  · exact .fail (within_faultSaying _ _)

/-! ## Functions -/

theorem callBody {s : ScopeId} (runs : R.runs g s) (writes : R.writes g s) (body : FunctionBody) :
    R.Keeps g w (callBody ev body s) (callBody ev' body s) := by
  have run : R.Keeps g w (runBody ev body s) (runBody ev' body s) := by
    cases body with
    | block block =>
      exact (h.execBlock runs writes block).bind fun _ _ _ _ => .pure within_none
    | expr e => exact h.eval runs
  refine run.inFrame.bind fun _ result _ hr => ?_
  match result, hr with
  | .error (.returns v), hv => exact .pure hv
  | .ok _, hr | .error (.fault _), hr | .error .breaks, hr | .error .continues, hr
  | .error .gasExhausted, hr | .error .endless, hr => exact .ofStop hr

/-- A call that runs the body of a function. -/
theorem callInScope (closure : ScopeId) {bound : List (String × Value)}
    (hb : Within (R.named w) bound) (body : FunctionBody) :
    R.Keeps g w
      (do
        let scope ← Eval.newScope .function (some closure)
        MeteredScript.defineAll scope bound
        MeteredScript.callBody ev body scope)
      (do
        let scope ← Eval.newScope .function (some closure)
        MeteredScript.defineAll scope bound
        MeteredScript.callBody ev' body scope) :=
  .inScope fun _ _ runs writes => (Keeps.defineAll writes hb).bind fun _ _ _ _ =>
    h.callBody runs writes body

/-- **A call of a function keeps a regime**: it writes to its own scope. -/
theorem callFunction (id : FunctionId) (name : String) {arguments : List Value}
    (ha : Within (R.named w) arguments) :
    R.Keeps g w (callFunction ev id name arguments) (callFunction ev' id name arguments) := by
  refine (Keeps.function id).bind fun w₁ f hw hf => .bind_ofTypeFault fun bound made => ?_
  obtain ⟨parameters, body, closure, isGenerator⟩ := f
  have hbound := within_bindArguments name (within_functionRecord.1 hf) (ha.grow hw)
  rw [made, within_ok] at hbound
  match isGenerator, body with
  | true, .block body =>
    refine .bind_newGenerator fun w₂ generator hw writes => ?_
    exact (Keeps.defineAll writes (hbound.grow hw)).bind fun _ _ _ _ =>
      .pure (within_generator _ _)
  | true, .expr _ | false, .block _ | false, .expr _ => exact h.callInScope closure hbound _

/-- **A call keeps a regime**, whatever is called. -/
theorem callValue (callee : Value) {arguments : List Value}
    (ha : Within (R.named w) arguments) :
    R.Keeps g w (callValue ev callee arguments) (callValue ev' callee arguments) := by
  unfold MeteredScript.callValue
  split
  · exact h.callFunction _ _ ha
  · exact h.callBuiltin _ ha
  · exact h.callMethod _ _ ha
  · exact (Keeps.makeException _ ha).bind fun _ _ _ he => .newException he
  · exact .fail (within_typeFault _)

end Keeping

end Regime

end MeteredScript
