import MeteredScript.Proofs.Regime.Iteration

/-!
# Built-in functions under a regime

What built-in functions give holds class objects that their arguments held, or
that the heap did, and the containers that they make are sound. There is one
exception: `type` makes a class object for the occasion, with a new scope as
its namespace.
-/

namespace MeteredScript

namespace Regime

variable {R : Regime} {Objects : Expr → Prop} {g : R.Stage} {w : R.World}

/-! ## Arguments -/

theorem Keeps.checkCount (function : String) (arguments : List Value) (least most : Nat) :
    R.Keeps g w (checkCount function arguments least most)
      (checkCount function arguments least most) :=
  .ite (.pure (within_plain ())) (.fail (within_typeFault _))

theorem Keeps.integerArgument (function : String) (v : Value) :
    R.Keeps g w (integerArgument function v) (integerArgument function v) := by
  unfold MeteredScript.integerArgument
  cases v.asInt? with
  | some n => exact .pure (within_plain n)
  | none => exact .fail (within_typeFault _)

/-! ## Attributes -/

theorem Keeps.boundMethod {receiver : Value} (hr : Within (R.named w) receiver) (name : String) :
    R.Keeps g w (Eval.boundMethod receiver name) (Eval.boundMethod receiver name) :=
  .ite (Keeps.newSerial.bind fun _ _ hw _ => .pure (within_method.2 (hr.grow hw)))
    (.fail (within_faultSaying _ _))

theorem Keeps.classAttribute (className : String) {s : ScopeId} (named : R.named w s)
    (name : String) :
    R.Keeps g w (Eval.classAttribute className s name) (Eval.classAttribute className s name) := by
  refine (Keeps.own? named name).bind fun w₁ v _ hv => ?_
  cases v with
  | some v => exact .pure (within_some.1 hv)
  | none => exact .fail (within_faultSaying _ _)

theorem Keeps.getAttribute {object : Value} (ho : Within (R.named w) object) (name : String) :
    R.Keeps g w (Eval.getAttribute object name) (Eval.getAttribute object name) := by
  unfold Eval.getAttribute
  split
  · exact .ite (.pure (within_str _)) (.classAttribute _ (within_classObject.1 ho) _)
  · rename_i message carried
    have arguments := within_exceptionArguments message (within_exception.1 ho)
    exact .ite (.pure (within_exception.1 ho))
      (.ite (.pure (within_tuple.2 (within_list.1 arguments))) (.boundMethod ho _))
  · split
    · exact .pure (within_str _)
    · exact .boundMethod ho _

/-! ## New containers -/

/-- A list of values that fit. -/
theorem Keeps.placeList {items : Array Value} (hi : Within (R.named w) items) :
    R.Keeps g w (Eval.place (.list items)) (Eval.place (.list items)) :=
  .place trivial hi

theorem Keeps.placeSet {items : Array Value} (hi : Within (R.named w) items) :
    R.Keeps g w (placeSet items) (placeSet items) := by
  refine .bind_ofTypeFault fun table made => ?_
  obtain ⟨sound, from_⟩ := ItemTable.sound_ofItems made
  exact .place sound (within_table.2 fun e member => within_list.1 hi _ (from_ e member))

theorem Keeps.placeDict {entries : List (Value × Value)} (he : Within (R.named w) entries) :
    R.Keeps g w (placeDict entries) (placeDict entries) := by
  refine .bind_ofTypeFault fun table made => ?_
  obtain ⟨sound, from_⟩ := EntryTable.sound_ofEntries made
  have given (e : Value × Value) (member : e ∈ entries) := within_list.1 he e member
  refine .place sound (within_table.2 fun e member => ?_)
  obtain ⟨key, value⟩ := from_ e member
  obtain ⟨k, hk, key⟩ := List.mem_map.1 key
  obtain ⟨v, hv, value⟩ := List.mem_map.1 value
  exact within_pair.2 ⟨key ▸ (given k hk).fst, value ▸ (given v hv).snd⟩

/-! ## Functions of values alone -/

theorem Keeps.progression (step stop next : Int64) {items : Array Value}
    (hi : Within (R.named w) items) :
    R.Keeps g w (progression step stop next items) (progression step stop next items) := by
  fun_induction MeteredScript.progression step stop next items generalizing w with
  | case1 next items _ ih =>
    refine Keeps.tick.bind fun _ _ hw _ => ?_
    have pushed := within_push.2 ⟨hi.grow hw, within_int next⟩
    split
    · exact ih _ ‹_› pushed
    · exact .pure pushed
  | case2 next items => exact .pure hi

theorem Keeps.rangeList (start stop step : Int64) :
    R.Keeps g w (rangeList start stop step) (rangeList start stop step) := by
  refine (Keeps.require (within_faultSaying _ _)).bind fun _ _ _ _ => ?_
  exact (Keeps.progression _ _ _ within_emptyArray).bind fun _ _ _ hi => .placeList hi

theorem Keeps.callRange {arguments : List Value} (ha : Within (R.named w) arguments) :
    R.Keeps g w (callRange arguments) (callRange arguments) := by
  refine (Keeps.checkCount _ _ _ _).bind fun _ _ hw _ => ?_
  refine (Keeps.mapM (fun _ v _ _ => .integerArgument _ v) (ha.grow hw)).bind fun _ bounds _ _ => ?_
  match bounds with
  | [] | [_] | [_, _] | [_, _, _] | _ :: _ :: _ :: _ :: _ => exact .rangeList _ _ _

theorem Keeps.callLen (v : Value) : R.Keeps g w (callLen v) (callLen v) := by
  refine .bind_heap fun _ heap _ _ => ?_
  cases v.length? heap with
  | some n => exact .pure (within_int _)
  | none => exact .fail (within_typeFault _)

theorem Keeps.callInt (v : Value) : R.Keeps g w (callInt v) (callInt v) := by
  unfold MeteredScript.callInt
  split
  · exact .pure (within_int _)
  · exact .pure (within_int _)
  · dsimp only
    split
    · exact .pure (within_int _)
    · exact .fail (within_faultSaying _ _)
  · exact .fail (within_typeFault _)

theorem Keeps.callPrint {arguments : List Value} (ha : Within (R.named w) arguments) :
    R.Keeps g w (callPrint arguments) (callPrint arguments) := by
  refine (Keeps.mapM (fun _ v _ _ => .text v) ha).bind fun _ texts _ _ => ?_
  exact (Keeps.print _).bind fun _ _ _ _ => .pure within_none

theorem Keeps.sumFrom {total : Value} {items : List Value} (ht : Within (R.named w) total)
    (hi : Within (R.named w) items) :
    R.Keeps g w (sumFrom total items) (sumFrom total items) := by
  induction items generalizing w total with
  | nil => exact .pure ht
  | cons item rest ih =>
    rw [within_cons] at hi
    refine .bind_heap fun w₁ heap hw₁ upheld => ?_
    obtain ⟨within, sound⟩ := within_binaryResult .add upheld (ht.grow hw₁) (hi.1.grow hw₁)
    refine .bind_ofFault within fun result made hresult => ?_
    refine (Keeps.place (sound result made) hresult).bind fun w₂ sum hw₂ hsum => ?_
    exact ih hsum (hi.2.grow (R.grows_trans hw₁ hw₂))

theorem Keeps.callType (v : Value) : R.Keeps g w (callType v) (callType v) := by
  unfold MeteredScript.callType
  split
  · exact .pure (within_builtin _)
  · exact .pure (within_exceptionClass _)
  · exact .bind_newNamespace fun _ _ _ named => .pure (within_classObject.2 named)

/-! ## Functions that go through an iterable -/

namespace Keeping

variable {ev ev' : Evaluator} (h : R.Keeping Objects ev ev')

include h

theorem pairOf {item : Value} (hi : Within (R.named w) item) :
    R.Keeps g w (pairOf ev item) (pairOf ev' item) := by
  refine (h.collect hi).bind fun w₁ items _ hitems => ?_
  rw [within_array] at hitems
  match items.toList, hitems with
  | [key, value], hitems =>
    simp only [within_cons] at hitems
    exact .pure (within_pair.2 ⟨hitems.1, hitems.2.1⟩)
  | [], _ | [_], _ | _ :: _ :: _ :: _, _ => exact .fail (within_faultSaying _ _)

theorem callDict {v : Value} (hv : Within (R.named w) v) :
    R.Keeps g w (callDict ev v) (callDict ev' v) := by
  unfold MeteredScript.callDict
  split
  · exact .bind_heap fun _ _ _ upheld => .placeDict (upheld.dict _).values
  · refine (h.collect hv).bind fun _ items _ hitems => ?_
    exact (Keeps.mapM (fun _ _ _ hi => h.pairOf hi) hitems).bind fun _ _ _ he => .placeDict he

theorem extremeItems (function : String) {arguments : List Value}
    (ha : Within (R.named w) arguments) :
    R.Keeps g w (extremeItems ev function arguments) (extremeItems ev' function arguments) := by
  match arguments, ha with
  | [], _ => exact .fail (within_typeFault _)
  | [iterable], ha => exact (h.collect (within_cons.1 ha).1).map _ fun _ _ _ hitems => hitems
  | _ :: _ :: _, ha => exact .pure ha

theorem callExtreme (function : String) (greatest : Bool) {arguments : List Value}
    (ha : Within (R.named w) arguments) :
    R.Keeps g w (callExtreme ev function greatest arguments)
      (callExtreme ev' function greatest arguments) := by
  refine (h.extremeItems function ha).bind fun _ items _ hitems => ?_
  cases items with
  | nil => exact .fail (within_faultSaying _ _)
  | cons first rest =>
    rw [within_cons] at hitems
    refine .bind_heap fun _ heap hw _ => .ofStop ?_
    exact within_extremeFrom heap greatest (hitems.1.grow hw) (hitems.2.grow hw)

theorem callSorted {v : Value} (hv : Within (R.named w) v) :
    R.Keeps g w (callSorted ev v) (callSorted ev' v) := by
  refine (h.collect hv).bind fun _ items _ hitems => .bind_heap fun _ heap hw _ => ?_
  have sorted := within_sortValues heap ((within_array.1 hitems).grow hw)
  exact (Keeps.ofStop sorted).bind fun _ _ _ hsorted => .placeList (within_toArray.2 hsorted)

theorem callEnumerate {v : Value} (hv : Within (R.named w) v) (start : Option Value) :
    R.Keeps g w (callEnumerate ev v start) (callEnumerate ev' v start) := by
  have first : R.Keeps g w (firstPosition start) (firstPosition start) := by
    cases start with
    | none => exact .pure (within_plain 0)
    | some n => exact .integerArgument _ n
  refine first.bind fun _ start hw _ => (h.collect (hv.grow hw)).bind fun _ items _ hitems => ?_
  refine .bind_ofFault (within_numbered start.toInt (within_array.1 hitems)) fun _ _ hnumbered => ?_
  exact .placeList (within_toArray.2 hnumbered)

theorem convertTo (target : Builtin) {v : Value} (hv : Within (R.named w) v) :
    R.Keeps g w (convertTo ev target v) (convertTo ev' target v) := by
  cases target with
  | list => exact (h.collect hv).bind fun _ _ _ hitems => .placeList hitems
  | tuple =>
    refine (h.collect hv).bind fun _ _ _ hitems => .pure ?_
    exact within_tuple.2 (within_list.1 (within_array.1 hitems))
  | set => exact (h.collect hv).bind fun _ _ _ hitems => .placeSet hitems
  | dict => exact h.callDict hv
  | str => exact (Keeps.text v).bind fun _ _ _ _ => .pure (within_str _)
  | int => exact .callInt v
  | bool => exact (Keeps.isTruthy v).bind fun _ _ _ _ => .pure (within_bool _)
  | _ => exact .pure within_none

theorem callConversion (target : Builtin) {arguments : List Value}
    (ha : Within (R.named w) arguments) :
    R.Keeps g w (callConversion ev target arguments) (callConversion ev' target arguments) := by
  refine (Keeps.checkCount _ _ _ _).bind fun _ _ hw _ => ?_
  have given := (ha.grow hw).head?
  generalize arguments.head? = argument at given
  cases argument with
  | none =>
    obtain ⟨sound, within⟩ := within_emptyOf target
    exact .place sound within
  | some v => exact h.convertTo target (within_some.1 given)

theorem callNext (v : Value) {fallback : Option Value} (hf : Within (R.named w) fallback) :
    R.Keeps g w (callNext ev v fallback) (callNext ev' v fallback) := by
  unfold MeteredScript.callNext
  split
  · cases fallback with
    | none => exact h.resume _ (within_send.2 within_none)
    | some fallback =>
      refine (h.nextYielded? _).bind fun _ v hw hv => .pure ?_
      exact hv.getD ((within_some.1 hf).grow hw)
  · exact .fail (within_typeFault _)

/-- **A built-in function keeps a regime.** -/
theorem callBuiltin (b : Builtin) {arguments : List Value} (ha : Within (R.named w) arguments) :
    R.Keeps g w (callBuiltin ev b arguments) (callBuiltin ev' b arguments) := by
  have count (least most : Nat) := Keeps.checkCount (g := g) (w := w) b.name arguments least most
  have first : Within (R.named w) (arguments.headD .none) := ha.headD within_none
  cases b with
  | print => exact .callPrint ha
  | range => exact .callRange ha
  | min => exact h.callExtreme _ false ha
  | max => exact h.callExtreme _ true ha
  | list | tuple | set | dict | str | int | bool => exact h.callConversion _ ha
  | len => exact (count 1 1).bind fun _ _ _ _ => .callLen _
  | repr =>
    exact (count 1 1).bind fun _ _ _ _ => (Keeps.repr _).bind fun _ _ _ _ => .pure (within_str _)
  | sorted => exact (count 1 1).bind fun _ _ hw _ => h.callSorted (first.grow hw)
  | type => exact (count 1 1).bind fun _ _ _ _ => .callType _
  | sum =>
    refine (count 1 2).bind fun _ _ hw _ => (h.collect (first.grow hw)).bind fun _ items hw' hi => ?_
    have total : Within (R.named w) (arguments[1]?.getD (.int 0)) :=
      (ha.getElem? 1).getD (within_int 0)
    exact .sumFrom (total.grow (R.grows_trans hw hw')) (within_array.1 hi)
  | enumerate => exact (count 1 2).bind fun _ _ hw _ => h.callEnumerate (first.grow hw) _
  | next => exact (count 1 2).bind fun _ _ hw _ => h.callNext _ ((ha.getElem? 1).grow hw)

end Keeping

end Regime

end MeteredScript
