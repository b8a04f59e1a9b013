import MeteredScript.Proofs.Augmented.Commit
import MeteredScript.Proofs.Augmented.Contents
import MeteredScript.Proofs.Equality.Coherence
import MeteredScript.Proofs.Indexing.Position
import MeteredScript.Proofs.Lifecycle.Transition

/-!
# Reading what was stored

A name of a scope, an attribute of a class and an item of a list or dict are stored to and read
by different parts of the evaluation. What was stored is what is read from the same place
(`ReadsBack.same`), and other places of the same scope, class, list or dict give what they gave
before (`ReadsBack.others`).

There are two reservations. The attribute `__name__` of a class can be stored to like any other,
but reading it gives the name of the class all the same (`ReadsBack.covered`): what was stored
is never seen again. And the report that a key is missing in a dict shows the key as it prints
now, which is another text if the key carries the dict itself.
-/

namespace MeteredScript

open Eval

/-! ## Definitions in the tree of scopes -/

namespace ScopeTree

variable {t : ScopeTree} {id : ScopeId} {name other : String}

/-- A scope finds what it was given. -/
theorem find?_define_self (inside : id.index < t.scopes.size) (name : String) (v : Value) :
    (t.define id name v).find? id name = some v := by
  have there : t.scope? id = some t.scopes[id.index] := Array.getElem?_eq_getElem inside
  rw [find?, t.scope?_define_self, there]
  simp [Bindings.find?_insert]

theorem findLocal?_define_self (inside : id.index < t.scopes.size) (name : String) (v : Value) :
    (t.define id name v).findLocal? id name = some v := by
  rw [findLocal?, bindings_define inside, if_pos rfl, Bindings.find?_insert, if_pos rfl]

/-- A definition leaves the shape of the tree and what a scope binds other names to. -/
theorem scope?_define (t : ScopeTree) (id : ScopeId) (different : other ≠ name) (v : Value)
    (id' : ScopeId) :
    ((t.define id name v).scope? id').map (fun s => (s.kind, s.bindings.find? other, s.parent)) =
      (t.scope? id').map fun s => (s.kind, s.bindings.find? other, s.parent) := by
  by_cases same : id' = id
  · subst same
    rw [t.scope?_define_self, Option.map_map]
    refine congrFun (congrArg Option.map (funext fun s => ?_)) _
    simp [Bindings.find?_insert, different]
  · rw [t.scope?_define_of_ne id same]

theorem findLocal?_define_of_ne (t : ScopeTree) (id : ScopeId) (different : other ≠ name)
    (v : Value) (id' : ScopeId) :
    (t.define id name v).findLocal? id' other = t.findLocal? id' other := by
  have kept := t.scope?_define id different v id'
  unfold findLocal? bindings
  cases after : (t.define id name v).scope? id' <;> cases before : t.scope? id' <;>
    simp_all

theorem findOutward?_define_of_ne (t : ScopeTree) (id : ScopeId) (different : other ≠ name)
    (v : Value) (steps : Nat) (start : Option ScopeId) :
    (t.define id name v).findOutward? other steps start = t.findOutward? other steps start := by
  induction steps generalizing start with
  | zero => simp only [findOutward?]
  | succ steps ih =>
    cases start with
    | none => simp only [findOutward?]
    | some id' =>
      have kept := t.scope?_define id different v id'
      unfold findOutward?
      cases after : (t.define id name v).scope? id' <;> cases before : t.scope? id' <;>
        simp_all

/-- **Other names mean what they meant**, in every scope. -/
theorem find?_define_of_ne (t : ScopeTree) (id : ScopeId) (different : other ≠ name) (v : Value)
    (id' : ScopeId) : (t.define id name v).find? id' other = t.find? id' other := by
  have kept := t.scope?_define id different v id'
  have size : (t.define id name v).scopes.size = t.scopes.size := by simp [define]
  unfold find?
  rw [size]
  cases after : (t.define id name v).scope? id' <;> cases before : t.scope? id' <;>
    simp_all [findOutward?_define_of_ne]

end ScopeTree

variable {scope inner : ScopeId} {className name other : String} {m n : Machine} {v key : Value}
  {slot : Slot}

/-! ## Places -/

/-- **A place that leads somewhere**: a name of a scope, an attribute of a class, or an item of a
list or dict. -/
inductive Slot.Leads (m : Machine) (scope : ScopeId) : Slot → Prop
  | name (name : String) (inside : scope.index < m.scopes.scopes.size) : Leads m scope (.name name)
  | attribute (className : String) {inner : ScopeId} (name : String)
    (inside : inner.index < m.scopes.scopes.size) :
    Leads m scope (.attribute (.classObject className inner) name)
  | listItem (id : ListId) (index : Value) : Leads m scope (.item (.list id) index)
  | dictItem {id : DictId} (key : Value) (has : m.heap.Has (.dict id)) :
    Leads m scope (.item (.dict id) key)

/-- An index leads to a position of a list. -/
def Heap.Position (h : Heap) (id : ListId) (index : Value) (position : Nat) : Prop :=
  ∃ i, index.asInt? = some i ∧ resolvePosition (h.list id).size i.toInt = some position

/-- **Two places of the same scope, class, list or dict that are not the same.** -/
inductive Apart (h : Heap) : Slot → Slot → Prop
  | name {name other : String} (different : other ≠ name) : Apart h (.name name) (.name other)
  | attribute (object : Value) {name other : String} (different : other ≠ name) :
    Apart h (.attribute object name) (.attribute object other)
  | listItem {id : ListId} {index other : Value}
    (different : ∀ position, h.Position id index position → ¬ h.Position id other position) :
    Apart h (.item (.list id) index) (.item (.list id) other)
  | dictItem {id : DictId} {key other : Value} (different : ¬ h.Equal key other) :
    Apart h (.item (.dict id) key) (.item (.dict id) other)

/-- **A place reads on a second machine as on a first one**: with the same outcome, where the
report of a missing key shows the key as it prints on each of the two. -/
inductive ReadsAlike (scope : ScopeId) (m n : Machine) : Slot → Prop
  | same {slot : Slot} {r : Except Stop Value} (before : (loadSlot scope slot).on m = (r, m))
    (after : (loadSlot scope slot).on n = (r, n)) : ReadsAlike scope m n slot
  | missing {id : DictId} {key : Value}
    (before : (loadSlot scope (.item (.dict id) key)).on m = (.error (missingKey m.heap key), m))
    (after : (loadSlot scope (.item (.dict id) key)).on n = (.error (missingKey n.heap key), n)) :
    ReadsAlike scope m n (.item (.dict id) key)

/-- **What reading gives once a value is stored.** -/
structure ReadsBack (scope : ScopeId) (v : Value) (slot : Slot) (m n : Machine) : Prop where
  /-- The place gives the value itself, unless it is the name of a class. -/
  same : (∀ className inner, slot ≠ .attribute (.classObject className inner) "__name__") →
    (loadSlot scope slot).on n = (.ok v, n)
  /-- The name of a class stays what it was, whatever was stored there. -/
  covered (className : String) (inner : ScopeId) :
    slot = .attribute (.classObject className inner) "__name__" →
    (loadSlot scope slot).on n = (.ok (.str className), n)
  /-- Every other place gives what it gave. -/
  others (other : Slot) : Apart m.heap slot other → ReadsAlike scope m n other

/-! ## Names and attributes -/

theorem Eval.on_lookup_of_some (found : m.scopes.find? scope name = some v) :
    (lookup scope name).on m = (.ok v, m) := by
  have asked : (find? scope name).on m = (.ok (m.scopes.find? scope name), m) := rfl
  rw [lookup, on_bind_ok asked, found]
  rfl

/-- What a name means depends on the scopes alone. -/
theorem Eval.on_lookup_congr (same : n.scopes.find? scope name = m.scopes.find? scope name) :
    ∃ r, (lookup scope name).on m = (r, m) ∧ (lookup scope name).on n = (r, n) := by
  have asked (k : Machine) : (find? scope name).on k = (.ok (k.scopes.find? scope name), k) := rfl
  rw [lookup, on_bind_ok (asked m), on_bind_ok (asked n), same]
  cases m.scopes.find? scope name with
  | some v => exact ⟨_, rfl, rfl⟩
  | none =>
    dsimp only
    split
    · exact ⟨_, rfl, rfl⟩
    · split <;> exact ⟨_, rfl, rfl⟩

theorem Eval.on_classAttribute (className : String) (inner : ScopeId) (name : String)
    (m : Machine) :
    (classAttribute className inner name).on m =
      (match m.scopes.findLocal? inner name with
        | some v => .ok v
        | none => .error (.fault (.noClassAttribute className name)), m) := by
  have asked : (own? inner name).on m = (.ok (m.scopes.findLocal? inner name), m) := rfl
  rw [classAttribute, on_bind_ok asked]
  cases m.scopes.findLocal? inner name <;> rfl

theorem Eval.on_getAttribute_name (className : String) (inner : ScopeId) (m : Machine) :
    (getAttribute (.classObject className inner) "__name__").on m = (.ok (.str className), m) := rfl

theorem Eval.getAttribute_of_ne (className : String) (inner : ScopeId) (other : name ≠ "__name__") :
    getAttribute (.classObject className inner) name = classAttribute className inner name := by
  rw [getAttribute, if_neg other]

theorem readsBack_name (inside : scope.index < m.scopes.scopes.size) (name : String) (v : Value) :
    ReadsBack scope v (.name name) m { m with scopes := m.scopes.define scope name v } where
  same _ := on_lookup_of_some (ScopeTree.find?_define_self inside name v)
  covered _ _ isName := by cases isName
  others other apart := by
    cases apart with
    | name different =>
      obtain ⟨r, before, after⟩ := on_lookup_congr (m := m)
        (n := { m with scopes := m.scopes.define scope name v })
        (m.scopes.find?_define_of_ne scope different v scope)
      exact .same before after

theorem readsBack_attribute (inside : inner.index < m.scopes.scopes.size) (className : String)
    (name : String) (v : Value) :
    ReadsBack scope v (.attribute (.classObject className inner) name) m
      { m with scopes := m.scopes.define inner name v } where
  same notName := by
    have other : name ≠ "__name__" := fun isName => notName className inner (by rw [isName])
    rw [loadSlot, getAttribute_of_ne className inner other, on_classAttribute]
    dsimp only
    rw [ScopeTree.findLocal?_define_self inside]
  covered className' inner' isName := by
    cases isName
    rfl
  others
    | .attribute _ other, .attribute _ different => by
      by_cases isName : other = "__name__"
      · subst isName
        exact .same (on_getAttribute_name className inner m)
          (on_getAttribute_name className inner _)
      · have read (k : Machine) := on_classAttribute className inner other k
        rw [← getAttribute_of_ne className inner isName] at read
        refine .same (read m) ((read _).trans ?_)
        dsimp only
        rw [m.scopes.findLocal?_define_of_ne inner different]

/-! ## Items -/

theorem Eval.on_loadItem (scope : ScopeId) (container key : Value) (m : Machine) :
    (loadSlot scope (.item container key)).on m = (itemAt m.heap container key, m) := by
  rw [loadSlot, on_bind_ok (on_heap m), on_ofStop]

/-- A place that an index leads to, or the report that it leads to none. -/
theorem positionOf_cases (container index : Value) (length : Nat) (what : String) :
    (∃ i k, index.asInt? = some i ∧ resolvePosition length i.toInt = some k ∧
      positionOf container index length what = .ok k) ∨
    (∀ i k, index.asInt? = some i → resolvePosition length i.toInt ≠ some k) ∧
      ∃ f, positionOf container index length what = .error f := by
  cases number : index.asInt? with
  | none => exact .inr ⟨by simp, _, by rw [positionOf, number]⟩
  | some i =>
    rw [positionOf_eq container number]
    cases place : resolvePosition length i.toInt with
    | some k => exact .inl ⟨i, k, rfl, place, rfl⟩
    | none =>
      refine .inr ⟨fun j k same => ?_, _, rfl⟩
      cases same
      simp [place]

theorem itemAt_list {h : Heap} {id : ListId} {index : Value} {i : Int64} {k : Nat}
    (number : index.asInt? = some i)
    (place : resolvePosition (h.list id).size i.toInt = some k) :
    itemAt h (.list id) index = .ok ((h.list id).getD k .none) := by
  rw [itemAt, positionOf_eq _ number, place]

theorem readsBack_listItem {id : ListId} {index : Value} {i : Int64} {k : Nat}
    (number : index.asInt? = some i)
    (place : resolvePosition (m.heap.list id).size i.toInt = some k) (v : Value) :
    ReadsBack scope v (.item (.list id) index) m
      { m with heap := m.heap.modifyList id (·.setIfInBounds k v) } := by
  have bound := resolvePosition_lt place
  have has : id.index < m.heap.lists.size := by
    refine Nat.lt_of_not_le fun astray => ?_
    have none : m.heap.lists[id.index]? = none := Array.getElem?_eq_none astray
    simp [Heap.list, Array.getD_eq_getD_getElem?, none] at bound
  have items : (m.heap.modifyList id (·.setIfInBounds k v)).list id =
      (m.heap.list id).setIfInBounds k v := by
    rw [Heap.list_modifyList has, if_pos rfl]
  have size : ((m.heap.modifyList id (·.setIfInBounds k v)).list id).size =
      (m.heap.list id).size := by rw [items, Array.size_setIfInBounds]
  refine ⟨fun _ => ?_, fun _ _ isName => (by cases isName), fun place' apart => ?_⟩
  · rw [on_loadItem, itemAt_list number (size ▸ place)]
    dsimp only
    rw [items]
    simp [Array.getD_eq_getD_getElem?, bound]
  · cases apart with | listItem different => ?_
    rename_i other
    have elsewhere := different k ⟨i, number, place⟩
    refine .same (on_loadItem scope _ other m) ((on_loadItem scope _ other _).trans ?_)
    dsimp only
    obtain ⟨j, k', number', place', -⟩ | ⟨-, f, nowhere⟩ :=
      positionOf_cases (.list id) other (m.heap.list id).size "list"
    · have apart : k ≠ k' := fun same => elsewhere ⟨j, number', same ▸ place'⟩
      rw [itemAt_list number' place', itemAt_list number' (size ▸ place'), items]
      simp [Array.getD_eq_getD_getElem?, apart]
    · rw [itemAt, itemAt, size, nowhere]

theorem readsBack_dictItem {id : DictId} (has : m.heap.Has (.dict id)) {key : Value}
    {hashKey : HashKey} (hashed : key.hashKey = .ok hashKey) (v : Value) :
    ReadsBack scope v (.item (.dict id) key) m
      { m with heap := m.heap.modifyDict id (EntryTable.put · hashKey key v) } := by
  have entries : (m.heap.modifyDict id (EntryTable.put · hashKey key v)).dict id =
      (m.heap.dict id).put hashKey key v := by
    rw [Heap.dict_modifyDict has, if_pos rfl]
  refine ⟨fun _ => ?_, fun _ _ isName => (by cases isName), fun place' apart => ?_⟩
  · rw [on_loadItem, itemAt, dictItem, hashed]
    dsimp only
    rw [entries, EntryTable.find?_put, if_pos rfl]
  · cases apart with | dictItem different => ?_
    rename_i other
    have before := on_loadItem scope (.dict id) other m
    have after := on_loadItem scope (.dict id) other
      { m with heap := m.heap.modifyDict id (EntryTable.put · hashKey key v) }
    dsimp only at after
    cases otherHashed : other.hashKey with
    | error why =>
      rw [itemAt, dictItem, otherHashed] at before after
      exact .same before after
    | ok otherKey =>
      have apart : otherKey ≠ hashKey := fun same =>
        different ((Heap.equal_iff_hashKey hashed otherHashed).2 same.symm)
      rw [itemAt, dictItem, otherHashed] at before after
      dsimp only at before after
      rw [entries, EntryTable.find?_put, if_neg apart] at after
      cases found : (m.heap.dict id).find? otherKey with
      | some entry =>
        rw [found] at before after
        exact .same before after
      | none =>
        rw [found] at before after
        exact .missing before after

/-! ## All places -/

/-- **What was stored is read back**, but for the name of a class. -/
theorem stored_value_is_read_back (leads : slot.Leads m scope)
    (stored : (storeSlot scope v slot).on m = (.ok (), n)) : ReadsBack scope v slot m n := by
  match leads with
  | .name name inside =>
    cases stored
    exact readsBack_name inside name v
  | .attribute className name inside =>
    cases stored
    exact readsBack_attribute inside className name v
  | .listItem id index =>
    have stored : (storeItem (.list id) index v).on m = (.ok (), n) := stored
    rw [on_storeItem] at stored
    obtain ⟨i, k, number, place, position⟩ | ⟨-, f, nowhere⟩ :=
      positionOf_cases (.list id) index (m.heap.list id).size "list assignment"
    · rw [position] at stored
      cases stored
      exact readsBack_listItem number place v
    · rw [nowhere] at stored
      cases stored
  | .dictItem key has =>
    have stored : (storeItem (.dict _) key v).on m = (.ok (), n) := stored
    rw [storeItem, on_bind_ok (on_heap m), storePlace] at stored
    cases hashed : key.hashKey with
    | error why =>
      rw [hashed] at stored
      cases stored
    | ok hashKey =>
      rw [hashed] at stored
      cases stored
      exact readsBack_dictItem has hashed v

/-- A machine with the scope of a class body and nothing else. -/
def Machine.oneClass : Machine :=
  { Machine.initial .standard with
    scopes := (ScopeTree.empty.addScope .classBody none none).2 }

/-- A number stored as an attribute of a class is read back, and a number stored as its name is
not. -/
theorem class_name_is_not_read_back :
    (∃ n, (storeSlot ⟨0⟩ (.int 5) (.attribute (.classObject "C" ⟨0⟩) "size")).on .oneClass =
        (.ok (), n) ∧
      (loadSlot ⟨0⟩ (.attribute (.classObject "C" ⟨0⟩) "size")).on n = (.ok (.int 5), n)) ∧
    ∃ n, (storeSlot ⟨0⟩ (.int 5) (.attribute (.classObject "C" ⟨0⟩) "__name__")).on .oneClass =
        (.ok (), n) ∧
      (loadSlot ⟨0⟩ (.attribute (.classObject "C" ⟨0⟩) "__name__")).on n =
        (.ok (.str "C"), n) := by
  have inside : (⟨0⟩ : ScopeId).index < Machine.oneClass.scopes.scopes.size := by decide
  refine ⟨⟨_, rfl, (stored_value_is_read_back (.attribute "C" "size" inside) rfl).same ?_⟩,
    _, rfl, (stored_value_is_read_back (.attribute "C" "__name__" inside) rfl).covered _ _ rfl⟩
  simp

end MeteredScript
