import MeteredScript.Evaluation.Drive

/-!
# The class objects that data holds

A class of a script is a name and a scope, its *namespace*, and whoever holds
the class object can bind names in that scope. So what code can do to scopes
depends on which class objects it can get hold of: those in the values it has,
and those in containers, scopes, defaults of functions and resting generators.

`Holder.Names` says that a class object with a given namespace stands
somewhere in some data, at any depth, and `Within` that all namespaces of the
data are among given scopes. There is an instance for everything that an
evaluation can give or a machine can keep; functions and generators are not
looked through, since what they lead to is kept by the machine.
-/

namespace MeteredScript

/-- **Data that may hold values.** -/
class Holder (α : Type) where
  /-- A class object with this namespace stands in the data. -/
  Names : α → ScopeId → Prop

/-- **The namespaces of all class objects in some data** are among some
scopes. -/
def Within {α : Type} [Holder α] (scopes : ScopeId → Prop) (a : α) : Prop :=
  ∀ t, Holder.Names a t → scopes t

/-- Data that holds no values. -/
class Plain (α : Type) extends Holder α where
  names_false (a : α) (t : ScopeId) : ¬ Names a t

/-- Data without values, as an instance. -/
abbrev Plain.trivial (α : Type) : Plain α where
  Names _ _ := False
  names_false _ _ := not_false

instance : Plain Unit := .trivial _
instance : Plain Bool := .trivial _
instance : Plain Nat := .trivial _
instance : Plain Int := .trivial _
instance : Plain Int64 := .trivial _
instance : Plain String := .trivial _
instance : Plain HashKey := .trivial _
instance : Plain TypeFault := .trivial _
instance : Plain Serial := .trivial _
instance : Plain ScopeId := .trivial _
instance : Plain GeneratorId := .trivial _
instance : Plain Expr := .trivial _
instance : Plain Stmt := .trivial _
instance : Plain Handler := .trivial _

/-! ## Values -/

/-- A class object with a namespace stands in a value: it is the value, or
stands in an item of a tuple, in the receiver of a method, or in what an
exception carries. -/
inductive Value.Names : Value → ScopeId → Prop
  | classObject (name : String) (t : ScopeId) : Names (.classObject name t) t
  | tuple {items : List Value} {x : Value} {t : ScopeId} (member : x ∈ items) (inner : Names x t) :
    Names (.tuple items) t
  | method {serial : Serial} {receiver : Value} {name : String} {t : ScopeId}
    (inner : Names receiver t) : Names (.method serial receiver name) t
  | exception {serial : Serial} {kind : ExceptionKind} {message : Option String}
    {carried : Value} {t : ScopeId} (inner : Names carried t) :
    Names (.exception serial kind message carried) t

instance : Holder Value := ⟨Value.Names⟩

variable {α β : Type} {S S' : ScopeId → Prop}

/-- More scopes may be named. -/
theorem Within.mono [Holder α] {a : α} (h : Within S a) (sub : ∀ t, S t → S' t) :
    Within S' a := fun t names => sub t (h t names)

@[simp] theorem within_plain [Plain α] (a : α) : Within S a :=
  fun t names => absurd names (Plain.names_false a t)

@[simp] theorem within_true [Holder α] (a : α) : Within (fun _ => True) a :=
  fun _ _ => trivial

section Values

variable {v : Value}

@[simp] theorem within_classObject {name : String} {t : ScopeId} :
    Within S (Value.classObject name t) ↔ S t := by
  constructor
  · intro h
    exact h t (.classObject name t)
  · rintro h _ (_ | _)
    exact h

@[simp] theorem within_tuple {items : List Value} :
    Within S (Value.tuple items) ↔ ∀ x ∈ items, Within S x := by
  constructor
  · intro h x member t names
    exact h t (.tuple member names)
  · rintro h t (_ | ⟨member, inner⟩)
    exact h _ member t inner

@[simp] theorem within_method {serial : Serial} {name : String} :
    Within S (Value.method serial v name) ↔ Within S v := by
  constructor
  · intro h t names
    exact h t (.method names)
  · rintro h t (_ | _ | inner)
    exact h t inner

@[simp] theorem within_exception {serial : Serial} {kind : ExceptionKind}
    {message : Option String} :
    Within S (Value.exception serial kind message v) ↔ Within S v := by
  constructor
  · intro h t names
    exact h t (.exception names)
  · rintro h t (_ | _ | _ | inner)
    exact h t inner

@[simp] theorem within_none : Within S Value.none := nofun

@[simp] theorem within_bool (b : Bool) : Within S (Value.bool b) := nofun

@[simp] theorem within_int (n : Int64) : Within S (Value.int n) := nofun

@[simp] theorem within_str (s : String) : Within S (Value.str s) := nofun

@[simp] theorem within_listId (id : ListId) : Within S (Value.list id) := nofun

@[simp] theorem within_dictId (id : DictId) : Within S (Value.dict id) := nofun

@[simp] theorem within_setId (id : SetId) : Within S (Value.set id) := nofun

@[simp] theorem within_generator (id : GeneratorId) (name : String) :
    Within S (Value.generator id name) := nofun

@[simp] theorem within_function (id : FunctionId) (name : String) :
    Within S (Value.function id name) := nofun

@[simp] theorem within_builtin (b : Builtin) : Within S (Value.builtin b) := nofun

@[simp] theorem within_exceptionClass (kind : ExceptionKind) :
    Within S (Value.exceptionClass kind) := nofun

end Values

/-! ## Structures of data -/

instance [Holder α] : Holder (List α) := ⟨fun xs t => ∃ x ∈ xs, Holder.Names x t⟩

instance [Holder α] : Holder (Array α) := ⟨fun xs => Holder.Names xs.toList⟩

instance [Holder α] : Holder (Option α) := ⟨fun x t => ∃ a, x = some a ∧ Holder.Names a t⟩

instance [Holder α] [Holder β] : Holder (α × β) :=
  ⟨fun x t => Holder.Names x.1 t ∨ Holder.Names x.2 t⟩

section Structures

variable [Holder α] [Holder β]

theorem within_list {xs : List α} : Within S xs ↔ ∀ x ∈ xs, Within S x := by
  constructor
  · intro h x member t names
    exact h t ⟨x, member, names⟩
  · rintro h t ⟨x, member, names⟩
    exact h x member t names

@[simp] theorem within_nil : Within S ([] : List α) := by simp [within_list]

@[simp] theorem within_cons {x : α} {xs : List α} :
    Within S (x :: xs) ↔ Within S x ∧ Within S xs := by
  simp [within_list]

@[simp] theorem within_append {xs ys : List α} :
    Within S (xs ++ ys) ↔ Within S xs ∧ Within S ys := by
  simp only [within_list, List.mem_append, or_imp, forall_and]

theorem Within.of_subset {xs ys : List α} (h : Within S xs) (sub : ys ⊆ xs) : Within S ys :=
  within_list.2 fun x member => within_list.1 h x (sub member)

theorem within_array {xs : Array α} : Within S xs ↔ Within S xs.toList := Iff.rfl

@[simp] theorem within_toArray {xs : List α} : Within S xs.toArray ↔ Within S xs := Iff.rfl

@[simp] theorem within_emptyArray : Within S (#[] : Array α) :=
  within_array.2 within_nil

@[simp] theorem within_push {xs : Array α} {x : α} :
    Within S (xs.push x) ↔ Within S xs ∧ Within S x := by
  simp [within_array]

@[simp] theorem within_optionNone : Within S (none : Option α) := by
  rintro t ⟨a, h, -⟩
  cases h

@[simp] theorem within_some {a : α} : Within S (some a) ↔ Within S a := by
  constructor
  · intro h t names
    exact h t ⟨a, rfl, names⟩
  · rintro h t ⟨_, ⟨⟩, names⟩
    exact h t names

@[simp] theorem within_pair {a : α} {b : β} : Within S (a, b) ↔ Within S a ∧ Within S b := by
  constructor
  · intro h
    exact ⟨fun t names => h t (.inl names), fun t names => h t (.inr names)⟩
  · rintro ⟨ha, hb⟩ t (names | names)
    · exact ha t names
    · exact hb t names

theorem Within.fst {x : α × β} (h : Within S x) : Within S x.1 := fun t names => h t (.inl names)

theorem Within.snd {x : α × β} (h : Within S x) : Within S x.2 := fun t names => h t (.inr names)

/-- A default in place of what may be missing. -/
theorem Within.getD {x : Option α} {a : α} (hx : Within S x) (ha : Within S a) :
    Within S (x.getD a) := by
  cases x with
  | none => exact ha
  | some b => exact within_some.1 hx

theorem Within.head? {xs : List α} (h : Within S xs) : Within S xs.head? := by
  cases xs with
  | nil => exact within_optionNone
  | cons x xs => exact within_some.2 (within_cons.1 h).1

theorem Within.headD {xs : List α} {a : α} (hx : Within S xs) (ha : Within S a) :
    Within S (xs.headD a) := by
  cases xs with
  | nil => exact ha
  | cons x xs => exact (within_cons.1 hx).1

theorem Within.getElem? {xs : List α} (h : Within S xs) (i : Nat) : Within S xs[i]? := by
  cases found : xs[i]? with
  | none => exact within_optionNone
  | some x => exact within_some.2 (within_list.1 h x (List.mem_of_getElem? found))

end Structures

instance [Plain α] : Plain (List α) where
  toHolder := inferInstance
  names_false _ _ := fun ⟨x, _, names⟩ => Plain.names_false x _ names

instance [Plain α] : Plain (Option α) where
  toHolder := inferInstance
  names_false _ _ := fun ⟨x, _, names⟩ => Plain.names_false x _ names

instance [Plain α] [Plain β] : Plain (α × β) where
  toHolder := inferInstance
  names_false x t := fun names => names.elim (Plain.names_false x.1 t) (Plain.names_false x.2 t)

/-! ## Tables and new objects -/

instance [Holder α] : Holder (Table α) := ⟨fun t => Holder.Names t.entries⟩

section Tables

variable [Holder α] {t : Table α}

theorem within_table : Within S t ↔ ∀ e ∈ t.entries, Within S e.2 := by
  have split (e : HashKey × α) : Within S e ↔ Within S e.2 := by
    obtain ⟨k, a⟩ := e
    simp
  show Within S t.entries ↔ _
  simp only [within_list, split]

@[simp] theorem within_emptyTable : Within S (Table.empty : Table α) := within_table.2 nofun

theorem Within.values (h : Within S t) : Within S t.values := by
  rw [Table.values, within_list]
  intro a member
  obtain ⟨e, stored, rfl⟩ := List.mem_map.1 member
  exact within_table.1 h e stored

/-- What is found in a table was in it. -/
theorem Within.find? (h : Within S t) (k : HashKey) : Within S (t.find? k) := by
  cases found : t.find? k with
  | none => exact within_optionNone
  | some a =>
    obtain ⟨before, after, entries, -⟩ := List.lookup_eq_some_iff.1 found
    refine within_some.2 (within_table.1 h (k, a) ?_)
    simp [entries]

end Tables

instance : Holder Fresh where
  Names
    | .value v => Holder.Names v
    | .list items => Holder.Names items
    | .dict entries => Holder.Names entries
    | .set items => Holder.Names items

@[simp] theorem within_freshValue {v : Value} : Within S (Fresh.value v) ↔ Within S v := Iff.rfl

@[simp] theorem within_freshList {items : Array Value} :
    Within S (Fresh.list items) ↔ Within S items := Iff.rfl

@[simp] theorem within_freshDict {entries : EntryTable} :
    Within S (Fresh.dict entries) ↔ Within S entries := Iff.rfl

@[simp] theorem within_freshSet {items : ItemTable} :
    Within S (Fresh.set items) ↔ Within S items := Iff.rfl

instance : Holder Place where
  Names
    | .listItem _ _ => fun _ => False
    | .dictEntry _ _ key => Holder.Names key

@[simp] theorem within_listItem (id : ListId) (position : Nat) :
    Within S (Place.listItem id position) := nofun

@[simp] theorem within_dictEntry {id : DictId} {hashKey : HashKey} {key : Value} :
    Within S (Place.dictEntry id hashKey key) ↔ Within S key := Iff.rfl

instance : Holder Slot where
  Names
    | .name _ => fun _ => False
    | .attribute object _ => Holder.Names object
    | .item container key => fun t => Holder.Names container t ∨ Holder.Names key t

@[simp] theorem within_slotName (id : String) : Within S (Slot.name id) := nofun

@[simp] theorem within_slotAttribute {object : Value} {name : String} :
    Within S (Slot.attribute object name) ↔ Within S object := Iff.rfl

@[simp] theorem within_slotItem {container key : Value} :
    Within S (Slot.item container key) ↔ Within S container ∧ Within S key :=
  within_pair (a := container) (b := key)

/-! ## Outcomes -/

instance : Holder Exception := ⟨fun e => Holder.Names e.carried⟩

@[simp] theorem within_bare (kind : ExceptionKind) : Within S (Exception.bare kind) := nofun

@[simp] theorem within_saying (kind : ExceptionKind) (message : String) :
    Within S (Exception.saying kind message) := nofun

@[simp] theorem within_stopIteration {v : Value} :
    Within S (Exception.stopIteration v) ↔ Within S v := Iff.rfl

@[simp] theorem within_toValue {e : Exception} {serial : Serial} :
    Within S (e.toValue serial) ↔ Within S e := within_exception

instance : Holder Fault where
  Names
    | .exhausted v => Holder.Names v
    | .raised e => Holder.Names e
    | .unresolvedName _ | .typeFault _ | .protocolViolation _ => fun _ => False

@[simp] theorem within_exhausted {v : Value} : Within S (Fault.exhausted v) ↔ Within S v := Iff.rfl

@[simp] theorem within_raised {e : Exception} : Within S (Fault.raised e) ↔ Within S e := Iff.rfl

@[simp] theorem within_unresolvedName (name : String) : Within S (Fault.unresolvedName name) :=
  nofun

@[simp] theorem within_typeFault (why : TypeFault) : Within S (Fault.typeFault why) := nofun

@[simp] theorem within_protocolViolation (text : String) :
    Within S (Fault.protocolViolation text) := nofun

/-- The exceptions that the language raises itself carry nothing. -/
@[simp] theorem within_faultSaying (kind : ExceptionKind) (message : String) :
    Within S (Fault.saying kind message) := within_saying kind message

/-- A handler sees of a fault no more than what it carries. -/
theorem Within.toException {f : Fault} (h : Within S f) : Within S f.toException := by
  cases f with
  | exhausted v => exact h
  | raised e => exact h
  | _ => exact nofun

instance : Holder Stop where
  Names
    | .fault f => Holder.Names f
    | .returns v => Holder.Names v
    | .breaks | .continues | .gasExhausted | .endless => fun _ => False

@[simp] theorem within_fault {f : Fault} : Within S (Stop.fault f) ↔ Within S f := Iff.rfl

@[simp] theorem within_returns {v : Value} : Within S (Stop.returns v) ↔ Within S v := Iff.rfl

@[simp] theorem within_breaks : Within S Stop.breaks := nofun

@[simp] theorem within_continues : Within S Stop.continues := nofun

@[simp] theorem within_gasExhausted : Within S Stop.gasExhausted := nofun

@[simp] theorem within_endless : Within S Stop.endless := nofun

instance [Holder α] [Holder β] : Holder (Except α β) where
  Names
    | .ok b => Holder.Names b
    | .error a => Holder.Names a

section Outcomes

variable [Holder α] [Holder β]

@[simp] theorem within_ok {b : β} : Within S (Except.ok b : Except α β) ↔ Within S b := Iff.rfl

@[simp] theorem within_error {a : α} : Within S (Except.error a : Except α β) ↔ Within S a :=
  Iff.rfl

end Outcomes

instance [Holder α] : Holder (ForInStep α) where
  Names
    | .yield a => Holder.Names a
    | .done a => Holder.Names a

@[simp] theorem within_yield [Holder α] {a : α} : Within S (ForInStep.yield a) ↔ Within S a :=
  Iff.rfl

@[simp] theorem within_done [Holder α] {a : α} : Within S (ForInStep.done a) ↔ Within S a := Iff.rfl

/-! ## Generators -/

instance : Holder Resume where
  Names
    | .send v => Holder.Names v
    | .throw e => Holder.Names e

@[simp] theorem within_send {v : Value} : Within S (Resume.send v) ↔ Within S v := Iff.rfl

@[simp] theorem within_throw {e : Exception} : Within S (Resume.throw e) ↔ Within S e := Iff.rfl

instance : Holder Cursor where
  Names
    | .items rest => Holder.Names rest
    | .list _ _ | .generator _ => fun _ => False

@[simp] theorem within_items {rest : List Value} : Within S (Cursor.items rest) ↔ Within S rest :=
  Iff.rfl

@[simp] theorem within_listCursor (id : ListId) (next : Nat) : Within S (Cursor.list id next) :=
  nofun

@[simp] theorem within_generatorCursor (id : GeneratorId) : Within S (Cursor.generator id) := nofun

instance : Holder Frame where
  Names
    | .forLoop _ _ _ cursor => Holder.Names cursor
    | .handling f _ => Holder.Names f
    | .cleanup pending => Holder.Names pending
    | .suite _ | .whileLoop _ _ _ | .guarded _ _ _ | .afterBody _ => fun _ => False

section Frames

variable {target condition : Expr} {body : Block} {block orElse cleanup : Option Block}
  {handlers : List Handler}

@[simp] theorem within_suite : Within S (Frame.suite body) := nofun

@[simp] theorem within_whileLoop : Within S (Frame.whileLoop condition body orElse) := nofun

@[simp] theorem within_forLoop {cursor : Cursor} :
    Within S (Frame.forLoop target body orElse cursor) ↔ Within S cursor := Iff.rfl

@[simp] theorem within_guarded : Within S (Frame.guarded handlers orElse cleanup) := nofun

@[simp] theorem within_afterBody : Within S (Frame.afterBody cleanup) := nofun

@[simp] theorem within_handling {f : Fault} : Within S (Frame.handling f cleanup) ↔ Within S f :=
  Iff.rfl

@[simp] theorem within_cleanup {pending : Option Stop} :
    Within S (Frame.cleanup pending) ↔ Within S pending := Iff.rfl

variable {frames : List Frame}

theorem Within.suiteOf (h : Within S frames) : Within S (suiteOf block frames) := by
  cases block <;> simpa [MeteredScript.suiteOf]

theorem Within.enterCleanup {pending : Option Stop} (h : Within S frames)
    (hp : Within S pending) : Within S (enterCleanup cleanup pending frames) := by
  cases cleanup <;> simp [MeteredScript.enterCleanup, h, hp]

/-- The faults that frames handle are among what they hold. -/
theorem Within.handledBy (h : Within S frames) : Within S (handledBy frames) := by
  induction frames with
  | nil => exact within_nil
  | cons frame frames ih =>
    rw [within_cons] at h
    cases frame with
    | handling f cleanup => exact within_cons.2 ⟨h.1, ih h.2⟩
    | _ => exact ih h.2

end Frames

instance : Holder Pause where
  Names
    | .yielded v _ frames => fun t => Holder.Names v t ∨ Holder.Names frames t
    | .returned v => Holder.Names v

@[simp] theorem within_yielded {v : Value} {targets : List Expr} {frames : List Frame} :
    Within S (Pause.yielded v targets frames) ↔ Within S v ∧ Within S frames :=
  within_pair (a := v) (b := frames)

@[simp] theorem within_returned {v : Value} : Within S (Pause.returned v) ↔ Within S v := Iff.rfl

instance : Holder Progress where
  Names
    | .onward frames => Holder.Names frames
    | .paused pause => Holder.Names pause

@[simp] theorem within_onward {frames : List Frame} :
    Within S (Progress.onward frames) ↔ Within S frames := Iff.rfl

@[simp] theorem within_paused {pause : Pause} :
    Within S (Progress.paused pause) ↔ Within S pause := Iff.rfl

/-- The outcome of a body that has ended is never looked at by a script. -/
instance : Holder GeneratorState where
  Names
    | .suspended _ frames => Holder.Names frames
    | .notStarted _ | .running | .completed _ => fun _ => False

@[simp] theorem within_suspended {targets : List Expr} {frames : List Frame} :
    Within S (GeneratorState.suspended targets frames) ↔ Within S frames := Iff.rfl

@[simp] theorem within_notStarted (body : Block) : Within S (GeneratorState.notStarted body) :=
  nofun

@[simp] theorem within_running : Within S GeneratorState.running := nofun

@[simp] theorem within_completed (c : Completion) : Within S (GeneratorState.completed c) := nofun

instance : Holder Function := ⟨fun f => Holder.Names f.parameters⟩

@[simp] theorem within_functionRecord {parameters : List (String × Option Value)}
    {body : FunctionBody} {closure : ScopeId} {isGenerator : Bool} :
    Within S (Function.mk parameters body closure isGenerator) ↔ Within S parameters := Iff.rfl

end MeteredScript
