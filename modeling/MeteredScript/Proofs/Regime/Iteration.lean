import MeteredScript.Proofs.Regime.Primitive

/-!
# Loops and blocks under a regime

Going through the items of a value, and through the statements of a block. An
item is one that the heap held, or that a generator gave, at the time it was
taken, so it fits the world of its turn.
-/

namespace MeteredScript

namespace Regime

variable {R : Regime} {Objects : Expr → Prop} {g : R.Stage} {w : R.World}

theorem Keeps.startIteration {v : Value} (hv : Within (R.named w) v) :
    R.Keeps g w (Evaluator.startIteration v) (Evaluator.startIteration v) :=
  .bind_heap fun _ _ hw upheld => .ofFault (within_cursor upheld (hv.grow hw))

namespace Keeping

variable {ev ev' : Evaluator} (h : R.Keeping Objects ev ev')

include h

theorem nextYielded? (id : GeneratorId) :
    R.Keeps g w (ev.nextYielded? id) (ev'.nextYielded? id) := by
  refine (h.resume id (within_send.2 within_none)).attempt.bind fun w₁ result _ hr => ?_
  match result, hr with
  | .ok v, hv => exact .pure (within_some.2 hv)
  | .error (.fault (.exhausted _)), _ => exact .pure within_optionNone
  | .error (.fault (.unresolvedName _)), hs | .error (.fault (.typeFault _)), hs
  | .error (.fault (.protocolViolation _)), hs | .error (.fault (.raised _)), hs
  | .error (.returns _), hs | .error .breaks, hs | .error .continues, hs
  | .error .gasExhausted, hs | .error .endless, hs => exact .throw hs

theorem next? {cursor : Cursor} (hc : Within (R.named w) cursor) :
    R.Keeps g w (ev.next? cursor) (ev'.next? cursor) := by
  match cursor, hc with
  | .list id i, _ =>
    refine .bind_heap fun w₁ heap _ upheld => ?_
    have item := (within_array.1 (upheld.list id)).getElem? i
    rw [Array.getElem?_toList] at item
    generalize (heap.list id)[i]? = read at item
    cases read with
    | some v => exact .pure (within_some.2 (within_pair.2 ⟨within_some.1 item, by simp⟩))
    | none => exact .pure within_optionNone
  | .items [], _ => exact .pure within_optionNone
  | .items (v :: rest), hc =>
    obtain ⟨hv, hrest⟩ := within_cons.1 (within_items.1 hc)
    exact .pure (within_some.2 (within_pair.2 ⟨hv, within_items.2 hrest⟩))
  | .generator id, _ =>
    refine (h.nextYielded? id).bind fun w₁ v _ hv => ?_
    cases v with
    | some v => exact .pure (within_some.2 (within_pair.2 ⟨within_some.1 hv, by simp⟩))
    | none => exact .pure within_optionNone

/-- **A loop keeps what its turns keep.** -/
theorem iterate {σ : Type} [Holder σ] {turn turn' : σ → Value → Eval (ForInStep σ)}
    (ht : ∀ w' state item, R.Grows w w' → Within (R.named w') state → Within (R.named w') item →
      R.Keeps g w' (turn state item) (turn' state item)) (n : Nat) {cursor : Cursor} {state : σ}
    (hc : Within (R.named w) cursor) (hs : Within (R.named w) state) :
    R.Keeps g w (ev.iterate turn n cursor state) (ev'.iterate turn' n cursor state) := by
  induction n generalizing w cursor state with
  | zero => exact .throw within_endless
  | succ n ih =>
    refine (h.next? hc).bind fun w₁ next hw₁ hnext => ?_
    match next, hnext with
    | none, _ => exact .pure (hs.grow hw₁)
    | some (item, cursor), hnext =>
      obtain ⟨hitem, hcursor⟩ := within_pair.1 (within_some.1 hnext)
      refine (ht w₁ state item hw₁ (hs.grow hw₁) hitem).bind fun w₂ step hw₂ hstep => ?_
      match step, hstep with
      | .yield state, hstate =>
        have later := R.grows_trans hw₁ hw₂
        refine ih (fun w' state item hw' => ht w' state item (R.grows_trans later hw'))
          (hcursor.grow hw₂) hstate
      | .done state, hstate => exact .pure hstate

theorem collect {v : Value} (hv : Within (R.named w) v) :
    R.Keeps g w (ev.collect v) (ev'.collect v) := by
  match v, hv with
  | .list id, _ => exact .bind_heap fun _ _ _ upheld => .pure (upheld.list id)
  | .tuple items, hv => exact .pure (within_toArray.2 (within_list.2 (within_tuple.1 hv)))
  | .none, hv | .bool _, hv | .int _, hv | .str _, hv | .dict _, hv | .set _, hv
  | .function .., hv | .generator .., hv | .builtin _, hv | .method .., hv
  | .classObject .., hv | .exceptionClass _, hv | .exception .., hv =>
    refine (Keeps.startIteration hv).bind fun w₁ cursor _ hc => ?_
    rw [h.rounds]
    refine h.iterate (fun w' items item _ hitems hitem => ?_) _ hc within_emptyArray
    refine Keeps.tick.bind fun w'' _ hw'' _ => .pure ?_
    exact within_yield.2 (within_push.2 ⟨hitems.grow hw'', hitem.grow hw''⟩)

/-! ## Blocks -/

variable {s : ScopeId}

theorem execBlock (runs : R.runs g s) (writes : R.writes g s) (block : Block) :
    R.Keeps g w (ev.execBlock s block) (ev'.execBlock s block) := by
  induction block generalizing w with
  | nil => exact .pure (within_plain ())
  | cons st rest ih => exact (h.exec runs writes).bind fun _ _ _ _ => ih

theorem execOptional (runs : R.runs g s) (writes : R.writes g s) (block : Option Block) :
    R.Keeps g w (ev.execOptional s block) (ev'.execOptional s block) := by
  cases block with
  | none => exact .pure (within_plain ())
  | some block => exact h.execBlock runs writes block

omit h in
/-- **Expressions that do the same**, one after the other. -/
theorem evalAll_map {f : Expr → Expr} {es : List Expr}
    (hf : ∀ e ∈ es, R.Keeps g w (ev.eval e s) (ev'.eval (f e) s)) :
    R.Keeps g w (ev.evalAll s es) (ev'.evalAll s (es.map f)) := by
  induction es generalizing w with
  | nil => exact .pure within_nil
  | cons e es ih =>
    rw [List.forall_mem_cons] at hf
    refine hf.1.bind fun w₁ v hw₁ hv => ?_
    refine (ih fun e member => (hf.2 e member).grow hw₁).bind fun w₂ vs hw₂ hvs => ?_
    exact .pure (within_cons.2 ⟨hv.grow hw₂, hvs⟩)

omit h in
theorem holds_of_eval {condition condition' : Expr}
    (hc : R.Keeps g w (ev.eval condition s) (ev'.eval condition' s)) :
    R.Keeps g w (ev.holds s condition) (ev'.holds s condition') :=
  hc.bind fun _ v _ _ => .isTruthy v

theorem holds (runs : R.runs g s) (condition : Expr) :
    R.Keeps g w (ev.holds s condition) (ev'.holds s condition) :=
  holds_of_eval (h.eval runs)

theorem allHold (runs : R.runs g s) (conditions : List Expr) :
    R.Keeps g w (ev.allHold s conditions) (ev'.allHold s conditions) := by
  induction conditions generalizing w with
  | nil => exact .pure (within_plain true)
  | cons condition rest ih =>
    exact (h.holds runs condition).bind fun _ _ _ _ => .ite ih (.pure (within_plain false))

end Keeping

end Regime

end MeteredScript
