import MeteredScript.Proofs.Lifecycle.Transition
import MeteredScript.Proofs.Regime.Basic

/-!
# The primitives under a regime

What each primitive does to the scopes and to the values that a machine holds,
and so under which conditions it keeps a regime. A value may be written
anywhere if it fits the world. Where it may be written to is what the regime
says.

`Regime.Keeping` says that two evaluators do the same and keep a regime, at
every stage and in every world. The remaining modules of this theory show that
whatever is built on such evaluators does so too.
-/

namespace MeteredScript

/-! ## Scopes -/

namespace ScopeTree

variable (t : ScopeTree) (id id' : ScopeId)

@[simp] theorem size_define (name : String) (v : Value) :
    (t.define id name v).scopes.size = t.scopes.size := by
  simp [define]

@[simp] theorem size_setGenerator (s : GeneratorState) :
    (t.setGenerator id s).scopes.size = t.scopes.size := by
  simp [setGenerator]

@[simp] theorem size_addScope (kind : ScopeKind) (parent : Option ScopeId)
    (state : Option GeneratorState) :
    (t.addScope kind parent state).2.scopes.size = t.scopes.size + 1 := by
  simp [addScope]

theorem bindings_define_of_ne (h : id' ≠ id) (name : String) (v : Value) :
    (t.define id name v).bindings id' = t.bindings id' := by
  have hne : id.index ≠ id'.index := fun heq => h (by cases id; cases id'; simp_all)
  simp only [bindings, scope?, define, Array.getElem?_modify, if_neg hne]

@[simp] theorem bindings_setGenerator (s : GeneratorState) :
    (t.setGenerator id s).bindings id' = t.bindings id' := by
  simp only [bindings, scope?, setGenerator, Array.getElem?_modify]
  by_cases same : id.index = id'.index
  · rw [if_pos same]
    cases t.scopes[id'.index]? <;> rfl
  · rw [if_neg same]

/-- A new scope has no bindings, like a pointer that leads to no scope. -/
@[simp] theorem bindings_addScope (kind : ScopeKind) (parent : Option ScopeId)
    (state : Option GeneratorState) :
    (t.addScope kind parent state).2.bindings id = t.bindings id := by
  simp only [bindings, scope?, addScope, Array.getElem?_push]
  by_cases new : id.index = t.scopes.size
  · rw [if_pos new, Array.getElem?_eq_none (Nat.le_of_eq new.symm)]
  · rw [if_neg new]

/-- What is found in a scope that was written to was written or was there. -/
theorem findLocal?_define {name name' : String} {v x : Value}
    (h : (t.define id name v).findLocal? id' name' = some x) :
    x = v ∨ t.findLocal? id' name' = some x := by
  by_cases same : id' = id
  · subst same
    by_cases inside : id'.index < t.scopes.size
    · rw [findLocal?, bindings_define inside, if_pos rfl, Bindings.find?_insert] at h
      split at h
      · exact .inl (Option.some.inj h).symm
      · exact .inr h
    · have outside : t.scopes[id'.index]? = none := Array.getElem?_eq_none (Nat.not_lt.1 inside)
      simp [findLocal?, bindings, scope?, define, Array.getElem?_modify, outside] at h
  · rw [findLocal?, t.bindings_define_of_ne id id' same] at h
    exact .inr h

/-- Where a generator is that may have been brought there. -/
theorem generator?_setGenerator {s s' : GeneratorState}
    (h : (t.setGenerator id s).generator? id' = some s') :
    s' = s ∨ t.generator? id' = some s' := by
  by_cases same : id' = id
  · subst same
    cases old : t.generator? id' with
    | some s₀ =>
      rw [t.generator?_setGenerator_self id' old] at h
      exact .inl (Option.some.inj h).symm
    | none =>
      simp only [generator?, scope?, setGenerator, Array.getElem?_modify, if_true] at h
      cases scope : t.scopes[id'.index]? with
      | none => simp [scope] at h
      | some x =>
        rw [scope] at h
        exact .inl (Option.some.inj h).symm
  · rw [t.generator?_setGenerator_of_ne id id' same] at h
    exact .inr h

end ScopeTree

section Scopes

variable {S : ScopeId → Prop} {tree : ScopeTree}

theorem Within.define (h : Within S tree) (s : ScopeId) (name : String) {v : Value}
    (hv : Within S v) : Within S (tree.define s name v) := by
  obtain ⟨values, states⟩ := within_scopes.1 h
  refine within_scopes.2 ⟨fun id name' x found => ?_, fun id state found => ?_⟩
  · obtain rfl | old := tree.findLocal?_define s id found
    · exact hv
    · exact values id name' x old
  · rw [tree.generator?_define] at found
    exact states id state found

theorem Within.addScope (h : Within S tree) (kind : ScopeKind) (parent : Option ScopeId)
    {state : Option GeneratorState} (hs : Within S state) :
    Within S (tree.addScope kind parent state).2 := by
  obtain ⟨values, states⟩ := within_scopes.1 h
  refine within_scopes.2 ⟨fun id name x found => ?_, fun id state' found => ?_⟩
  · rw [ScopeTree.findLocal?, ScopeTree.bindings_addScope] at found
    exact values id name x found
  · by_cases new : id.index = tree.scopes.size
    · obtain rfl : id = (tree.addScope kind parent state).1 := by
        cases id
        exact congrArg ScopeId.mk new
      rw [tree.generator?_addScope_self] at found
      rw [found, within_some] at hs
      exact hs
    · rw [tree.generator?_addScope_of_ne id kind parent state new] at found
      exact states id state' found

theorem Within.setGenerator (h : Within S tree) (s : ScopeId) {state : GeneratorState}
    (hs : Within S state) : Within S (tree.setGenerator s state) := by
  obtain ⟨values, states⟩ := within_scopes.1 h
  refine within_scopes.2 ⟨fun id name x found => ?_, fun id state' found => ?_⟩
  · rw [ScopeTree.findLocal?, ScopeTree.bindings_setGenerator] at found
    exact values id name x found
  · obtain rfl | old := tree.generator?_setGenerator s id found
    · exact hs
    · exact states id state' old

end Scopes

namespace Regime

variable {R : Regime} {α β : Type} [Holder α] [Holder β] {g : R.Stage} {w : R.World}

/-- New scopes at a later stage or in a later world. -/
theorem Inv.withScopes {g' : R.Stage} {w' : R.World} {m : Machine} (inv : R.Inv g w m)
    (hw : R.Grows w w') {tree : ScopeTree} (within : Within (R.named w') tree)
    (holds : R.Holds g' w' tree) : R.Inv g' w' { m with scopes := tree } where
  upheld := {
    heap := ⟨inv.upheld.heap.sound, inv.upheld.heap.within.grow hw⟩
    function := fun id => (inv.upheld.function id).grow hw
    scopes := within
    handling := inv.upheld.handling.grow hw }
  holds := holds

/-- The same machine at another stage or in a later world. -/
theorem Inv.move {g' : R.Stage} {w' : R.World} {m : Machine} (inv : R.Inv g w m)
    (hw : R.Grows w w') (holds : R.Holds g' w' m.scopes) : R.Inv g' w' m :=
  inv.withScopes hw (inv.upheld.scopes.grow hw) holds

/-! ## Counters, objects and texts -/

theorem Keeps.charge (amount : Nat) : R.Keeps g w (Eval.charge amount) (Eval.charge amount) := by
  refine .of_on (fun _ m _ _ => ?_) fun w₁ m _ inv => ?_
  · rw [Eval.on_charge, Eval.on_charge]
    rfl
  · rw [Eval.on_charge]
    refine .here (inv.congr rfl rfl rfl rfl) ?_
    split <;> simp

theorem Keeps.tick : R.Keeps g w Eval.tick Eval.tick := .charge 1

/-- **Writing to containers.** -/
theorem Keeps.modifyHeap {f : Heap → Heap}
    (hf : ∀ w₁ h, R.Grows w w₁ → h.Upheld (R.named w₁) → (f h).Upheld (R.named w₁)) :
    R.Keeps g w (Eval.modifyHeap f) (Eval.modifyHeap f) := by
  refine .of_on (fun _ _ _ _ => rfl) fun w₁ m hw₁ inv =>
    .here ⟨?_, inv.holds⟩ (within_plain ())
  exact ⟨hf w₁ m.heap hw₁ inv.upheld.heap, inv.upheld.function, inv.upheld.scopes,
    inv.upheld.handling⟩

theorem Keeps.place {r : Fresh} (sound : r.Sound) (within : Within (R.named w) r) :
    R.Keeps g w (Eval.place r) (Eval.place r) := by
  refine .of_on (fun _ _ _ _ => rfl) fun w₁ m hw₁ inv => ?_
  obtain ⟨hv, heap⟩ := inv.upheld.heap.place sound (within.grow hw₁)
  refine .here (m := { m with heap := (m.heap.place r).2 }) ⟨?_, inv.holds⟩ hv
  exact ⟨heap, inv.upheld.function, inv.upheld.scopes, inv.upheld.handling⟩

theorem Keeps.newSerial : R.Keeps g w Eval.newSerial Eval.newSerial :=
  .of_on (fun _ _ _ _ => rfl) fun _ m _ inv => .here (inv.congr rfl rfl rfl rfl)
    (within_ok.2 (within_plain (⟨m.nextSerial⟩ : Serial)))

theorem Keeps.print (line : String) : R.Keeps g w (Eval.print line) (Eval.print line) :=
  .of_on (fun _ _ _ _ => rfl) fun _ _ _ inv =>
    .here (inv.congr rfl rfl rfl rfl) (within_plain ())

theorem Keeps.abort : R.Keeps g w Eval.abort Eval.abort :=
  .of_on (fun _ _ _ _ => rfl) fun _ _ _ inv =>
    .here (inv.congr rfl rfl rfl rfl) (within_plain ())

theorem Keeps.newFunction (name : String) {f : Function} (hf : Within (R.named w) f) :
    R.Keeps g w (Eval.newFunction name f) (Eval.newFunction name f) := by
  refine .of_on (fun _ _ _ _ => rfl) fun w₁ m hw₁ inv => .here ⟨⟨inv.upheld.heap, fun id => ?_,
    inv.upheld.scopes, inv.upheld.handling⟩, inv.holds⟩ (within_function _ _)
  obtain old | new := getD_push m.functions f id.index default
  · exact (congrArg (Within _) old).mpr (inv.upheld.function id)
  · exact (congrArg (Within _) new).mpr (hf.grow hw₁)

theorem Keeps.newException {e : Exception} (he : Within (R.named w) e) :
    R.Keeps g w (Eval.newException e) (Eval.newException e) :=
  Keeps.newSerial.bind fun _ _ hw₁ _ => .pure (within_toValue.2 (he.grow hw₁))

theorem Keeps.isTruthy (v : Value) : R.Keeps g w (Eval.isTruthy v) (Eval.isTruthy v) :=
  .bind_heap fun _ _ _ _ => .pure (within_plain _)

theorem Keeps.repr (v : Value) : R.Keeps g w (Eval.repr v) (Eval.repr v) :=
  .bind_heap fun _ _ _ _ => .ofAnswer (within_plain _)

theorem Keeps.reprHolding (held : List Guard) (v : Value) :
    R.Keeps g w (Eval.reprHolding held v) (Eval.reprHolding held v) := by
  refine .bind_heap fun _ _ _ _ => .ite ?_ (Keeps.repr v)
  exact Keeps.abort.bind fun _ _ _ _ => Keeps.repr v

theorem Keeps.text (v : Value) : R.Keeps g w (Eval.text v) (Eval.text v) :=
  .bind_heap fun _ _ _ _ => .ofAnswer (within_plain _)

/-! ## Names -/

theorem on_define_cover {s : ScopeId} (name : String) (v : Value) {m : Machine}
    (seen : R.writes g s ∨ R.named w s) (holds : R.Holds g w m.scopes) :
    (Eval.define s name v).on (R.cover m) =
      (.ok (), R.cover { m with scopes := m.scopes.define s name v }) :=
  congrArg (fun scopes => (Except.ok (), { m with scopes })) (R.veil_define name v seen holds)

/-- **Binding a name** where code may write. -/
theorem Keeps.define {s : ScopeId} {name : String} {v : Value} (writes : R.writes g s)
    (hv : Within (R.named w) v) : R.Keeps g w (Eval.define s name v) (Eval.define s name v) :=
  .of_on (fun _ _ _ inv => on_define_cover name v (.inl writes) inv.holds)
    fun w₁ _ hw₁ inv => .here
      (inv.withScopes (R.grows_refl w₁) (inv.upheld.scopes.define s name (hv.grow hw₁))
        (R.define name v writes inv.holds)) (within_plain ())

/-- **Setting an attribute** of a class that code can get hold of. -/
theorem Keeps.setAttribute {object v : Value} {name : String} (gives : R.gives object)
    (hobject : Within (R.named w) object) (hv : Within (R.named w) v) :
    R.Keeps g w (Eval.setAttribute object name v) (Eval.setAttribute object name v) := by
  match object with
  | .classObject className s =>
    have named {w₁ : R.World} (hw₁ : R.Grows w w₁) : R.named w₁ s :=
      R.named_mono hw₁ (within_classObject.1 hobject)
    refine .of_on (fun w₁ m hw₁ inv => on_define_cover name v (.inr (named hw₁)) inv.holds)
      fun w₁ m hw₁ inv => .here
        (inv.withScopes (R.grows_refl w₁) (inv.upheld.scopes.define s name (hv.grow hw₁)) ?_)
        (within_plain ())
    exact R.setAttribute name v (named hw₁) gives inv.holds
  | .none | .bool _ | .int _ | .str _ | .list _ | .tuple _ | .dict _ | .set _ | .generator ..
  | .function .. | .builtin _ | .method .. | .exceptionClass _ | .exception .. =>
    exact .fail (within_faultSaying _ _)

/-- **Reading the namespace** of a class. -/
theorem Keeps.own? {s : ScopeId} (named : R.named w s) (name : String) :
    R.Keeps g w (Eval.own? s name) (Eval.own? s name) := by
  refine .of_on (fun w₁ m hw₁ inv => ?_) fun _ _ _ inv =>
    .here inv (inv.upheld.scopes.findLocal? s name)
  have seen := R.veil_findLocal? name (R.named_mono hw₁ named) inv.holds
  exact congrArg (fun found => (Except.ok found, R.cover m)) seen

theorem Keeps.find? {s : ScopeId} (runs : R.runs g s) (name : String) :
    R.Keeps g w (Eval.find? s name) (Eval.find? s name) :=
  .of_on (fun _ m _ inv =>
      congrArg (fun found => (Except.ok found, R.cover m)) (R.veil_find? name runs inv.holds))
    fun _ _ _ inv => .here inv (inv.upheld.scopes.findName? s name)

/-- A name that is not found may be that of something built in. -/
theorem Keeps.lookup_of_find? {s : ScopeId} {name : String}
    (h : R.Keeps g w (Eval.find? s name) (Eval.find? s name)) :
    R.Keeps g w (Eval.lookup s name) (Eval.lookup s name) := by
  refine h.bind fun w₁ found _ hfound => ?_
  cases found with
  | some v => exact .pure (within_some.1 hfound)
  | none =>
    cases hb : Builtin.ofName? name with
    | some b => simpa only [hb] using Keeps.pure (within_builtin b)
    | none =>
      cases hk : ExceptionKind.ofName? name with
      | some kind => simpa only [hb, hk] using Keeps.pure (within_exceptionClass kind)
      | none => simpa only [hb, hk] using Keeps.fail (within_unresolvedName name)

theorem Keeps.lookup {s : ScopeId} (runs : R.runs g s) (name : String) :
    R.Keeps g w (Eval.lookup s name) (Eval.lookup s name) :=
  .lookup_of_find? (.find? runs name)

theorem Keeps.function (id : FunctionId) :
    R.Keeps g w (Eval.function id) (Eval.function id) :=
  .of_on (fun _ _ _ _ => rfl) fun _ _ _ inv => .here inv (inv.upheld.function id)

/-! ## Handlers and depth -/

theorem Keeps.handled? : R.Keeps g w Eval.handled? Eval.handled? :=
  .of_on (fun _ _ _ _ => rfl) fun _ _ _ inv => .here inv inv.upheld.handling.head?

theorem Keeps.pushHandling {f : Fault} (hf : Within (R.named w) f) :
    R.Keeps g w (Eval.pushHandling f) (Eval.pushHandling f) :=
  .of_on (fun _ _ _ _ => rfl) fun _ _ hw₁ inv => .here
    (inv.handle (within_cons.2 ⟨hf.grow hw₁, inv.upheld.handling⟩)) (within_plain ())

theorem Keeps.popHandling : R.Keeps g w Eval.popHandling Eval.popHandling :=
  .of_on (fun _ _ _ _ => rfl) fun _ _ _ inv => .here
    (inv.handle (inv.upheld.handling.of_subset fun _ => List.mem_of_mem_tail)) (within_plain ())

theorem Keeps.whileHandling {f : Fault} {x y : Eval α} (hf : Within (R.named w) f)
    (h : R.Keeps g w x y) : R.Keeps g w (Eval.whileHandling f x) (Eval.whileHandling f y) :=
  (Keeps.pushHandling hf).bind fun _ _ hw₁ _ =>
    (h.grow hw₁).attempt.bind fun _ _ _ hr =>
      Keeps.popHandling.bind fun _ _ hw₃ _ => .ofStop (hr.grow hw₃)

theorem Keeps.withHandled {faults : List Fault} {x y : Eval α}
    (hf : Within (R.named w) faults) (h : R.Keeps g w x y) :
    R.Keeps g w (Eval.withHandled faults x) (Eval.withHandled faults y) := by
  intro w₁ m hw₁ inv
  rw [Eval.on_withHandled, Eval.on_withHandled]
  have handled := within_append.2 ⟨hf.grow hw₁, inv.upheld.handling⟩
  refine (h w₁ _ hw₁ (inv.handle handled)).leaving (fun r _ => by simp) (fun _ => rfl) fun r n after => ?_
  obtain ⟨w', hw', inv', hr⟩ := after
  exact ⟨w', hw', inv'.handle (inv'.upheld.handling.of_subset (List.drop_subset _ _)), hr⟩

theorem Keeps.inFrame {x y : Eval α} (h : R.Keeps g w x y) :
    R.Keeps g w (Eval.inFrame x) (Eval.inFrame y) := by
  intro w₁ m hw₁ inv
  rcases Nat.lt_or_ge m.depth m.config.maxCallDepth with room | none_left
  · have room' : (R.cover m).depth < (R.cover m).config.maxCallDepth := room
    rw [Eval.on_inFrame_of_lt room, Eval.on_inFrame_of_lt room']
    have deeper : R.Inv g w₁ { m with depth := m.depth + 1 } := inv.congr rfl rfl rfl rfl
    refine (h w₁ _ hw₁ deeper).leaving (fun r _ => by simp) (fun _ => rfl) fun r n after => ?_
    obtain ⟨w', hw', inv', hr⟩ := after
    exact ⟨w', hw', inv'.congr rfl rfl rfl rfl, hr⟩
  · have none_left' : (R.cover m).config.maxCallDepth ≤ (R.cover m).depth := none_left
    rw [Eval.on_inFrame_of_le none_left, Eval.on_inFrame_of_le none_left']
    exact .error (.here inv (by simp))

/-! ## New scopes -/

theorem on_newScope_cover (kind : ScopeKind) (parent : Option ScopeId) {m : Machine}
    (holds : R.Holds g w m.scopes) :
    (Eval.newScope kind parent).on (R.cover m) = (.ok (m.scopes.addScope kind parent none).1,
      R.cover { m with scopes := (m.scopes.addScope kind parent none).2 }) :=
  congrArg (fun made : ScopeId × ScopeTree => (Except.ok made.1, { m with scopes := made.2 }))
    (R.veil_addScope kind parent none holds)

theorem on_newGenerator_cover (kind : ScopeKind) (parent : ScopeId) (body : Block) {m : Machine}
    (holds : R.Holds g w m.scopes) :
    (Eval.newGenerator kind parent body).on (R.cover m) =
      (.ok ⟨(m.scopes.addScope kind (some parent) (some (.notStarted body))).1⟩, R.cover
        { m with scopes := (m.scopes.addScope kind (some parent) (some (.notStarted body))).2 }) :=
  congrArg (fun made : ScopeId × ScopeTree =>
      (Except.ok (GeneratorId.mk made.1), { m with scopes := made.2 }))
    (R.veil_addScope kind (some parent) (some (.notStarted body)) holds)

/-- **Running code in a new scope.** -/
theorem Keeps.inScope {kind : ScopeKind} {parent : Option ScopeId} {x y : ScopeId → Eval α}
    (h : ∀ g' s, R.runs g' s → R.writes g' s → R.Keeps g' w (x s) (y s)) :
    R.Keeps g w (Eval.newScope kind parent >>= x) (Eval.newScope kind parent >>= y) := by
  intro w₁ m hw₁ inv
  obtain ⟨g', runs, writes, holds, back⟩ := R.enter kind parent inv.holds
  have entered := inv.withScopes (R.grows_refl w₁)
    (inv.upheld.scopes.addScope kind parent within_optionNone) holds
  have made : (Eval.newScope kind parent).on m =
    (.ok (m.scopes.addScope kind parent none).1,
      { m with scopes := (m.scopes.addScope kind parent none).2 }) := rfl
  rw [Eval.on_bind_ok made, Eval.on_bind_ok (on_newScope_cover kind parent inv.holds)]
  refine (h g' _ runs writes w₁ _ hw₁ entered).mono fun r n after => ?_
  obtain ⟨w', hw', inv', hr⟩ := after
  exact ⟨w', hw', inv'.move (R.grows_refl w') (back w' n.scopes hw' inv'.holds).1, hr⟩

/-- **Running the body of a class** in a new scope, to which a class object may
then lead. -/
theorem Keeps.openClass {kind : ScopeKind} {parent : Option ScopeId} {x y : ScopeId → Eval α}
    {f f' : ScopeId → α → Eval β}
    (h : ∀ g' s, R.runs g' s → R.writes g' s → R.Keeps g' w (x s) (y s))
    (hf : ∀ w' s a, R.Grows w w' → R.named w' s → Within (R.named w') a →
      R.Keeps g w' (f s a) (f' s a)) :
    R.Keeps g w (Eval.newScope kind parent >>= fun s => x s >>= f s)
      (Eval.newScope kind parent >>= fun s => y s >>= f' s) := by
  intro w₁ m hw₁ inv
  obtain ⟨g', runs, writes, holds, back⟩ := R.enter kind parent inv.holds
  have entered := inv.withScopes (R.grows_refl w₁)
    (inv.upheld.scopes.addScope kind parent within_optionNone) holds
  have made : (Eval.newScope kind parent).on m =
    (.ok (m.scopes.addScope kind parent none).1,
      { m with scopes := (m.scopes.addScope kind parent none).2 }) := rfl
  rw [Eval.on_bind_ok made, Eval.on_bind_ok (on_newScope_cover kind parent inv.holds)]
  refine (h g' _ runs writes w₁ _ hw₁ entered).bind (fun a n after => ?_) fun s n after => ?_
  · obtain ⟨w', hw', inv', ha⟩ := after
    obtain ⟨-, w'', hw'', named, holds'⟩ := back w' n.scopes hw' inv'.holds
    have later := R.grows_trans hw' hw''
    have rest := hf w'' _ a (R.grows_trans hw₁ later) named (ha.grow hw'') w'' n
      (R.grows_refl w'') (inv'.move hw'' holds')
    exact rest.mono fun r n after => after.later later
  · obtain ⟨w', hw', inv', hs⟩ := after
    exact ⟨w', hw', inv'.move (R.grows_refl w') (back w' n.scopes hw' inv'.holds).1, hs⟩

/-- **Making a scope** that a class object may lead to from the start. -/
theorem Keeps.bind_newNamespace {kind : ScopeKind} {parent : Option ScopeId}
    {f f' : ScopeId → Eval β}
    (hf : ∀ w' s, R.Grows w w' → R.named w' s → R.Keeps g w' (f s) (f' s)) :
    R.Keeps g w (Eval.newScope kind parent >>= f) (Eval.newScope kind parent >>= f') := by
  have opened : R.Keeps g w
      (Eval.newScope kind parent >>= fun s => (Pure.pure () : Eval Unit) >>= fun _ => f s)
      (Eval.newScope kind parent >>= fun s => (Pure.pure () : Eval Unit) >>= fun _ => f' s) :=
    .openClass (fun _ _ _ _ => .pure (within_plain ())) fun w' s _ hw hs _ => hf w' s hw hs
  simpa only [pure_bind] using opened

/-- **Making a generator**, whose scope may be written to. -/
theorem Keeps.bind_newGenerator {kind : ScopeKind} {parent : ScopeId} {body : Block}
    {f f' : GeneratorId → Eval β}
    (hf : ∀ w' id, R.Grows w w' → R.writes g id.scope → R.Keeps g w' (f id) (f' id)) :
    R.Keeps g w (Eval.newGenerator kind parent body >>= f)
      (Eval.newGenerator kind parent body >>= f') := by
  intro w₁ m hw₁ inv
  obtain ⟨writes, holds⟩ := R.make kind parent body inv.holds
  have made : (Eval.newGenerator kind parent body).on m =
    (.ok ⟨(m.scopes.addScope kind (some parent) (some (.notStarted body))).1⟩,
      { m with scopes := (m.scopes.addScope kind (some parent) (some (.notStarted body))).2 }) :=
    rfl
  rw [Eval.on_bind_ok made, Eval.on_bind_ok (on_newGenerator_cover kind parent body inv.holds)]
  refine hf w₁ _ hw₁ writes w₁ _ (R.grows_refl w₁) (inv.withScopes (R.grows_refl w₁) ?_ holds)
  exact inv.upheld.scopes.addScope kind (some parent) (within_some.2 (within_notStarted body))

theorem Keeps.newGeneratorExpression (scope : ScopeId) (body : Block) {outer : Value}
    (houter : Within (R.named w) outer) :
    R.Keeps g w (newGeneratorExpression scope body outer)
      (newGeneratorExpression scope body outer) := by
  intro w₁ m hw₁ inv
  rw [on_newGeneratorExpression, on_newGeneratorExpression]
  have items := within_cursor inv.upheld.heap (houter.grow hw₁)
  have read : Cursor.ofValue (R.cover m).heap outer = Cursor.ofValue m.heap outer := rfl
  rw [read]
  generalize Cursor.ofValue m.heap outer = started at items
  cases started with
  | error f =>
    obtain ⟨g', -, -, holds, back⟩ := R.enter .comprehension (some scope) inv.holds
    refine alike_of_eq (congrArg (fun made : ScopeId × ScopeTree =>
        (Except.error (Stop.fault f), { m with scopes := made.2 }))
      (R.veil_addScope .comprehension (some scope) none inv.holds)) ?_
    exact .here (r := .error (.fault f)) (inv.withScopes (R.grows_refl w₁)
      (inv.upheld.scopes.addScope .comprehension (some scope) within_optionNone)
      (back w₁ _ (R.grows_refl w₁) holds).1) items
  | ok cursor =>
    obtain ⟨writes, holds⟩ := R.make .comprehension scope body inv.holds
    let give (made : ScopeId × ScopeTree) : Except Stop Value × Machine :=
      (.ok (.generator ⟨made.1⟩ generatorExpressionName),
        { m with scopes := made.2.define made.1 outerIterable outer })
    have made := congrArg give
      (R.veil_addScope .comprehension (some scope) (some (.notStarted body)) inv.holds)
    have bound := R.veil_define outerIterable outer (.inl writes) holds
    refine alike_of_eq (made.trans ?_) ?_
    · exact congrArg (fun scopes => (Except.ok (Value.generator ⟨_⟩ _), { m with scopes })) bound
    · refine .here (inv.withScopes (R.grows_refl w₁) ?_ (R.define _ _ writes holds))
        (within_generator _ _)
      exact (inv.upheld.scopes.addScope .comprehension (some scope)
        (within_some.2 (within_notStarted body))).define _ _ (houter.grow hw₁)

end Regime

/-! ## Evaluators -/

/-- **Two evaluators do the same and keep a regime.** The attributes of an
object may be set if the object is the value of one of some expressions. -/
structure Regime.Keeping (R : Regime) (Objects : Expr → Prop) (ev ev' : Evaluator) : Prop where
  eval {g : R.Stage} {w : R.World} {e : Expr} {s : ScopeId} : R.runs g s →
    R.Keeps g w (ev.eval e s) (ev'.eval e s)
  gives {e : Expr} (s : ScopeId) : Objects e → Eval.Gives R.gives (ev.eval e s)
  exec {g : R.Stage} {w : R.World} {st : Stmt} {s : ScopeId} : R.runs g s → R.writes g s →
    R.Keeps g w (ev.exec st s) (ev'.exec st s)
  resume {g : R.Stage} {w : R.World} (id : GeneratorId) {r : Resume} : Within (R.named w) r →
    R.Keeps g w (ev.resume id r) (ev'.resume id r)
  close {g : R.Stage} {w : R.World} (id : GeneratorId) :
    R.Keeps g w (closeGenerator ev id) (closeGenerator ev' id)
  rounds : ev'.rounds = ev.rounds

end MeteredScript
