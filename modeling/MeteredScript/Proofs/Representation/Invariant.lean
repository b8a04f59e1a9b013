import MeteredScript.Proofs.Equality.Coherence
import MeteredScript.Proofs.Regime.Bounded

/-!
# Dicts and sets stay in order

Every dict and set of a script is sound at all times: each entry stands under
the key of the value it is found by, and no key stands twice. Displays, stores,
methods and operators each build their tables in an order that keeps this, also
when they stop half-way at a value without a key.

That is an invariant of evaluation with no rule about scopes, so it is the
regime in which everything is allowed. What it is good for follows from the
coherence of equality and keys: no two keys of a dict are equal, and whatever
is equal to a key finds its entry.
-/

namespace MeteredScript

/-! ## Lookups -/

namespace Heap

variable {h : Heap} {v w : Value}

/-- **Equal values have the same key, or none.** -/
theorem Equal.hashKey_iff (equal : h.Equal v w) {key : HashKey} :
    v.hashKey = .ok key ↔ w.hashKey = .ok key := by
  induction v using Value.tupleInduction generalizing w key with
  | tuple xs ih =>
    obtain ⟨ys, rfl⟩ := equal.tuple_left
    rw [equal_tuple_iff] at equal
    simp only [Value.hashKey_tuple_eq_ok_iff]
    refine exists_congr fun keys => and_congr_right' ?_
    induction equal generalizing keys with
    | nil => exact Iff.rfl
    | cons same _ rest =>
      rw [List.forall₂_cons_left_iff, List.forall₂_cons_left_iff]
      simp only [ih _ List.mem_cons_self same,
        rest fun x member => ih x (List.mem_cons_of_mem _ member)]
  | other v notTuple =>
    match v with
    | .tuple items => exact absurd rfl (notTuple items)
    | .list id | .dict id | .set id =>
      cases w <;>
        simp_all [Equal, equal?, Value.equalWith, Value.asInt?, Value.isSame, Value.hashKey]
    | .none | .bool _ | .int _ | .str _ | .generator .. | .function .. | .builtin _
    | .method .. | .exceptionClass _ | .classObject .. | .exception .. =>
      rw [((Value.equalWith_of_not_compound rfl).1 equal).2]

end Heap

namespace Table.Sound

variable {α : Type} {value : α → Value} {t : Table α} {h : Heap}

/-- **Whatever is equal to the value of an entry finds that entry.** -/
theorem find?_of_equal (sound : t.Sound value) {a : α} (stored : a ∈ t.values) {v : Value}
    (equal : h.Equal v (value a)) : ∃ k, v.hashKey = .ok k ∧ t.find? k = some a := by
  obtain ⟨k, found⟩ := sound.find?_of_hashKey stored rfl
  exact ⟨k, equal.hashKey_iff.2 found.1, found.2⟩

/-- **Two entries with equal values are one entry.** -/
theorem eq_of_equal (sound : t.Sound value) {i j : Nat} {a b : α}
    (left : t.values[i]? = some a) (right : t.values[j]? = some b)
    (equal : h.Equal (value a) (value b)) : i = j := by
  obtain ⟨⟨k, x⟩, atLeft, rfl⟩ := Option.map_eq_some_iff.1 (List.getElem?_map ▸ left)
  obtain ⟨⟨l, y⟩, atRight, rfl⟩ := Option.map_eq_some_iff.1 (List.getElem?_map ▸ right)
  have leftKey := sound.keyed _ (List.mem_of_getElem? atLeft)
  have rightKey := sound.keyed _ (List.mem_of_getElem? atRight)
  have same : k = l := (Heap.equal_iff_hashKey leftKey rightKey).1 equal
  have keyAt {i : Nat} {e : HashKey × α} (found : t.entries[i]? = some e) :
      t.keys[i]? = some e.1 := by
    rw [Table.keys, List.getElem?_map, found]
    rfl
  obtain ⟨inside, -⟩ := List.getElem?_eq_some_iff.1 (keyAt atLeft)
  refine (List.getElem?_inj inside sound.nodup).1 ?_
  rw [keyAt atLeft, keyAt atRight, same]

/-- A value that an entry is found by holds no container, so its key is the
same in every heap. -/
theorem not_holdsContainer (sound : t.Sound value) {e : HashKey × α} (stored : e ∈ t.entries) :
    ¬ (value e.2).HoldsContainer := by
  intro holds
  obtain ⟨why, failed⟩ := (Value.exists_hashKey_error_iff _).2 holds
  rw [sound.keyed e stored] at failed
  cases failed

end Table.Sound

/-! ## The invariant -/

/-- **The regime in which everything is allowed.** -/
def Regime.lax : Regime where
  Stage := Unit
  World := Unit
  Grows _ _ := True
  named _ _ := True
  Holds _ _ _ := True
  runs _ _ := True
  writes _ _ := True
  gives _ := True
  wakes _ := True
  grows_refl _ := trivial
  grows_trans _ _ := trivial
  named_mono _ h := h
  define _ _ _ _ := trivial
  setAttribute _ _ _ _ _ := trivial
  make _ _ _ _ := ⟨trivial, trivial⟩
  enter _ _ _ := ⟨(), trivial, trivial, trivial, fun _ _ _ _ => ⟨trivial, (), trivial, trivial, trivial⟩⟩
  wake _ _ _ _ := ⟨(), (), trivial, trivial, trivial, trivial, fun _ _ _ _ _ _ => trivial⟩
  complete _ _ _ := ⟨(), trivial, trivial, fun _ _ _ _ _ => trivial⟩

theorem Regime.free_lax : Regime.lax.Free := ⟨fun _ => trivial, fun _ => trivial⟩

/-- Its invariant is that the heap is sound. -/
theorem Regime.inv_lax {m : Machine} : Regime.lax.Inv () () m ↔ m.heap.Sound := by
  refine ⟨fun inv => inv.upheld.heap.sound, fun sound => ⟨⟨⟨sound, ?_⟩, ?_, ?_, ?_⟩, trivial⟩⟩
  · exact within_true _
  · exact fun _ => within_true _
  · exact within_true _
  · exact within_true _

theorem Regime.allows_lax (task : Task) : Regime.lax.Allows (fun _ => True) () () task := by
  cases task with
  | eval | close => trivial
  | exec | block | script => exact ⟨trivial, trivial⟩
  | assign => exact ⟨trivial, trivial, within_true _, fun _ _ => trivial⟩
  | call | method | drain | resume => exact within_true _

/-- **Every operation keeps the heap sound**, also while it runs. -/
theorem alike_sound (check : Machine → Bool) (passes : ∀ m, m.heap.Sound → check m = true)
    (alarm : (α : Type) → Eval α) (bound : Nat) {m : Machine} (sound : m.heap.Sound)
    (task : Task) :
    Alike (fun _ n => n.heap.Sound) ((task.run (.bounded bound)).on m)
      ((task.run (.watched check alarm bound)).on m) := by
  have keeps := (Regime.free_lax.watched check
    (fun inv => passes _ inv.upheld.heap.sound) alarm bound).task (Regime.allows_lax task)
  exact (keeps () m trivial (Regime.inv_lax.2 sound)).mono fun _ _ ⟨_, _, inv, _⟩ =>
    inv.upheld.heap.sound

theorem sound_run {bound : Nat} {m : Machine} (sound : m.heap.Sound) (task : Task)
    (ends : ((task.run (.bounded bound)).on m).1 ≠ .error .endless) :
    ((task.run (.bounded bound)).on m).2.heap.Sound := by
  rcases alike_sound (fun _ => true) (fun _ _ => rfl) (fun _ => throw .endless) bound sound
    task with ⟨endless, -⟩ | ⟨-, -, sound⟩
  · exact absurd endless ends
  · exact sound

namespace Session

variable {s s' : Session}

theorem sound_perform (sound : s.machine.heap.Sound) {α : Type} [Holder α]
    {x : Evaluator → Eval α}
    (keeps : ∀ {ev}, Regime.lax.Keeping (fun _ => True) ev ev → Regime.lax.Keeps () () (x ev) (x ev))
    (ends : (s.perform (.boundedly x)).1 ≠ .error .endless) :
    (s.perform (.boundedly x)).2.machine.heap.Sound := by
  obtain ⟨_, _, inv, _⟩ := Regime.after_perform (Regime.inv_lax.2 sound)
    (fun n => keeps (Regime.free_lax.bounded n)) ends
  exact inv.upheld.heap.sound

theorem sound_script (sound : s.machine.heap.Sound) (body : Block)
    (ends : (s.run body).1 ≠ .error .endless) : (s.run body).2.machine.heap.Sound :=
  sound_perform sound (fun keeping => keeping.execModule trivial trivial body within_none) ends

/-- **An operation of a host** keeps the heap sound. -/
theorem Step.sound (step : s.Step s') (sound : s.machine.heap.Sound) : s'.machine.heap.Sound := by
  cases step with
  | run body ends => exact sound_script sound body ends
  | call name arguments ends =>
    unfold Session.call at ends ⊢
    cases bound : s.machine.scopes.findLocal? s.globals name with
    | none => exact sound
    | some callee =>
      rw [bound] at ends
      exact sound_perform sound (fun keeping => keeping.callValue callee (within_true _)) ends
  | send id value ends =>
    exact sound_perform sound (fun keeping => keeping.resume id (within_true _)) ends
  | throw id e ends =>
    exact sound_perform sound (fun keeping => keeping.resume id (within_true _)) ends
  | close id ends => exact sound_perform sound (fun keeping => keeping.close id) ends
  | define name value => exact sound
  | clearOutput => exact sound

/-- **Any number of operations of a host.** -/
theorem Leads.sound (leads : s.Leads s') (sound : s.machine.heap.Sound) :
    s'.machine.heap.Sound := by
  induction leads with
  | refl => exact sound
  | step _ step ih => exact step.sound ih
  | @evaluate s' body _ ends ih =>
    exact sound_script (s := ⟨s'.machine.fresh .standard, s'.globals⟩) ih body ends

end Session

/-- **What is true of dicts and sets**, whatever a script or a host does. -/
structure TableOrder (bound : Nat) : Prop where
  /-- A new session has a sound heap. -/
  start (config : Config) : (Session.start config).machine.heap.Sound
  /-- No operation of a host breaks the order. -/
  between {s s' : Session} : s.machine.heap.Sound → s.Leads s' → s'.machine.heap.Sound
  /-- Neither does any operation of evaluation, however it ends. -/
  preserved {m : Machine} (task : Task) : m.heap.Sound →
    ((task.run (.bounded bound)).on m).1 ≠ .error .endless →
    ((task.run (.bounded bound)).on m).2.heap.Sound
  /-- Nor is the order broken for a while: a check before each operation, which
  machines with sound heaps pass, makes no difference. -/
  throughout {m : Machine} {check : Machine → Bool} (alarm : (α : Type) → Eval α) (task : Task) :
    (∀ m, m.heap.Sound → check m = true) → m.heap.Sound →
    ((task.run (.watched check alarm bound)).on m).1 = ((task.run (.bounded bound)).on m).1 ∧
    (((task.run (.bounded bound)).on m).1 ≠ .error .endless →
      (task.run (.watched check alarm bound)).on m = (task.run (.bounded bound)).on m)
  /-- The keys of a dict are distinct, and each is that of the value first stored
  under it. That value holds no container, so no change to one affects its key. -/
  dict_keys {h : Heap} (id : DictId) : h.Sound → (h.dict id).keys.Nodup ∧
    ∀ hashKey key value, (hashKey, key, value) ∈ (h.dict id).entries →
      key.hashKey = .ok hashKey ∧ ¬ key.HoldsContainer
  /-- The keys of a set are distinct, and each is that of the item under it. -/
  set_keys {h : Heap} (id : SetId) : h.Sound → (h.set id).keys.Nodup ∧
    ∀ hashKey item, (hashKey, item) ∈ (h.set id).entries →
      item.hashKey = .ok hashKey ∧ ¬ item.HoldsContainer
  /-- No two keys of a dict are equal. -/
  dict_apart {h : Heap} {id : DictId} {i j : Nat} {e e' : Value × Value} : h.Sound →
    (h.dict id).values[i]? = some e → (h.dict id).values[j]? = some e' →
    h.Equal e.1 e'.1 → i = j
  /-- No two items of a set are equal. -/
  set_apart {h : Heap} {id : SetId} {i j : Nat} {x y : Value} : h.Sound →
    (h.set id).values[i]? = some x → (h.set id).values[j]? = some y → h.Equal x y → i = j
  /-- Whatever is equal to a key of a dict finds its entry. -/
  dict_find {h : Heap} {id : DictId} {key value v : Value} : h.Sound →
    (key, value) ∈ (h.dict id).values → h.Equal v key →
    (∃ hashKey, v.hashKey = .ok hashKey ∧ (h.dict id).find? hashKey = some (key, value)) ∧
    itemAt h (.dict id) v = .ok value ∧ contains h (.dict id) v = .ok true
  /-- Whatever is equal to an item of a set is found in it. -/
  set_find {h : Heap} {id : SetId} {item v : Value} : h.Sound → item ∈ (h.set id).values →
    h.Equal v item →
    (∃ hashKey, v.hashKey = .ok hashKey ∧ (h.set id).find? hashKey = some item) ∧
    contains h (.set id) v = .ok true

/-- **Dicts and sets are in order at all times**, and so lookups find what they
should. -/
theorem tables_stay_in_order (bound : Nat) : TableOrder bound where
  start _ := ⟨fun _ => Table.Sound.empty, fun _ => Table.Sound.empty⟩
  between sound leads := leads.sound sound
  preserved task sound ends := sound_run sound task ends
  throughout {m check} alarm task passes sound := by
    have same := alike_sound check passes alarm bound sound task
    refine ⟨same.fst_eq, fun ends => ?_⟩
    rcases same with ⟨endless, -⟩ | ⟨same, -⟩
    · exact absurd endless ends
    · exact same
  dict_keys id sound := by
    refine ⟨(sound.dict id).nodup, fun hashKey key value stored => ?_⟩
    exact ⟨(sound.dict id).keyed _ stored, (sound.dict id).not_holdsContainer stored⟩
  set_keys id sound := by
    refine ⟨(sound.set id).nodup, fun hashKey item stored => ?_⟩
    exact ⟨(sound.set id).keyed _ stored, (sound.set id).not_holdsContainer stored⟩
  dict_apart {h id i j e e'} sound left right equal := (sound.dict id).eq_of_equal left right equal
  set_apart {h id i j x y} sound left right equal := (sound.set id).eq_of_equal left right equal
  dict_find {h id key value v} sound stored equal := by
    obtain ⟨hashKey, hashed, found⟩ := (sound.dict id).find?_of_equal stored equal
    refine ⟨⟨hashKey, hashed, found⟩, ?_, ?_⟩
    · simp only [itemAt, dictItem, hashed, found]
    · simp only [MeteredScript.contains, hashed, Table.contains, found, Option.isSome_some]
  set_find {h id item v} sound stored equal := by
    obtain ⟨hashKey, hashed, found⟩ := (sound.set id).find?_of_equal stored equal
    refine ⟨⟨hashKey, hashed, found⟩, ?_⟩
    simp only [MeteredScript.contains, hashed, Table.contains, found, Option.isSome_some]

end MeteredScript
