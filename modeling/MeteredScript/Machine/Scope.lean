import MeteredScript.Machine.Generator

/-!
# Scopes

A scope binds names to values. Scopes form a tree: each but the outermost has
the scope it stands in as its parent. A name is looked for in the scope
itself and then outward, except that the scope of a class body is passed
over. Class bodies are visible only to the code that stands directly in them.

A scope that the body of a generator runs in also says where this generator is
in its life. No two generators share a scope.

The bindings of a scope are kept in the order of their names, so that two
scopes with the same bindings are equal. `find?_insert` is the equation on
which everything about definitions rests.
-/

namespace MeteredScript

/-! ## Bindings -/

/-- **Names and what they are bound to**, in the order of the names. -/
structure Bindings where
  /-- The names with their values. -/
  entries : List (String × Value)
  deriving Repr

namespace Bindings

/-- No bindings. -/
def empty : Bindings := ⟨[]⟩

instance : Inhabited Bindings := ⟨empty⟩

/-- The value of a name. -/
def find? (b : Bindings) (name : String) : Option Value := b.entries.lookup name

/-- Bind a name in a list of bindings, replacing the binding it has or taking
its place in the order. -/
def insertEntry (name : String) (value : Value) :
    List (String × Value) → List (String × Value)
  | [] => [(name, value)]
  | (n, v) :: rest =>
    if name = n then (name, value) :: rest
    else if name < n then (name, value) :: (n, v) :: rest
    else (n, v) :: insertEntry name value rest

/-- Bind a name. -/
def insert (b : Bindings) (name : String) (value : Value) : Bindings :=
  ⟨insertEntry name value b.entries⟩

/-- The bound names, in order. -/
def names (b : Bindings) : List String := b.entries.map Prod.fst

@[simp] theorem find?_empty (name : String) : empty.find? name = none := rfl

theorem lookup_insertEntry (l : List (String × Value)) (name name' : String) (value : Value) :
    (insertEntry name value l).lookup name' =
      if name' = name then some value else l.lookup name' := by
  induction l with
  | nil =>
    by_cases h : name' = name
    · simp [insertEntry, h]
    · have hb : (name' == name) = false := by simpa using h
      simp [insertEntry, List.lookup_cons, h, hb]
  | cons e l ih =>
    obtain ⟨n, v⟩ := e
    simp only [insertEntry]
    split
    · rename_i h
      subst h
      by_cases h' : name' = name
      · simp [h']
      · have hb : (name' == name) = false := by simpa using h'
        simp [List.lookup_cons, h', hb]
    · split
      · by_cases h' : name' = name
        · simp [h']
        · have hb : (name' == name) = false := by simpa using h'
          simp [List.lookup_cons, h', hb]
      · rename_i h _
        by_cases h' : name' = n
        · subst h'
          simp [Ne.symm h]
        · have hb : (name' == n) = false := by simpa using h'
          simp [List.lookup_cons, hb, ih]

/-- Binding a name changes what that name is bound to and nothing else. -/
theorem find?_insert (b : Bindings) (name name' : String) (value : Value) :
    (b.insert name value).find? name' =
      if name' = name then some value else b.find? name' :=
  lookup_insertEntry b.entries name name' value

end Bindings

/-! ## The tree -/

/-- What a scope belongs to. -/
inductive ScopeKind where
  | module
  | function
  | classBody
  | comprehension
  deriving DecidableEq, Repr

/-- **A scope.** -/
structure Scope where
  /-- What it belongs to. -/
  kind : ScopeKind
  /-- Its own bindings. -/
  bindings : Bindings
  /-- The scope it stands in. -/
  parent : Option ScopeId
  /-- The generator whose body runs in it, if there is one. -/
  generator : Option GeneratorState

/-- **All scopes**, each at the place that its pointer gives. A scope comes
after the one it stands in. -/
structure ScopeTree where
  /-- The scopes, oldest first. -/
  scopes : Array Scope

namespace ScopeTree

/-- The tree without scopes. -/
def empty : ScopeTree := ⟨#[]⟩

instance : Inhabited ScopeTree := ⟨empty⟩

/-- The scope that a pointer leads to. -/
def scope? (t : ScopeTree) (id : ScopeId) : Option Scope := t.scopes[id.index]?

/-- The own bindings of a scope. -/
def bindings (t : ScopeTree) (id : ScopeId) : Bindings :=
  match t.scope? id with
  | some s => s.bindings
  | none => .empty

/-- The value that a scope itself binds a name to. -/
def findLocal? (t : ScopeTree) (id : ScopeId) (name : String) : Option Value :=
  (t.bindings id).find? name

/-- Where the generator whose body runs in a scope is in its life. -/
def generator? (t : ScopeTree) (id : ScopeId) : Option GeneratorState :=
  (t.scope? id).bind Scope.generator

/-- Add a scope without bindings, perhaps for the body of a generator. -/
def addScope (t : ScopeTree) (kind : ScopeKind) (parent : Option ScopeId)
    (generator : Option GeneratorState) : ScopeId × ScopeTree :=
  (⟨t.scopes.size⟩, ⟨t.scopes.push ⟨kind, .empty, parent, generator⟩⟩)

/-- Bind a name in a scope. -/
def define (t : ScopeTree) (id : ScopeId) (name : String) (value : Value) : ScopeTree :=
  ⟨t.scopes.modify id.index fun s => { s with bindings := s.bindings.insert name value }⟩

/-- Bring the generator of a scope to another place in its life. -/
def setGenerator (t : ScopeTree) (id : ScopeId) (state : GeneratorState) : ScopeTree :=
  ⟨t.scopes.modify id.index fun s => { s with generator := some state }⟩

/-- The value of a name in the nearest of a scope and the scopes around it
that binds it and is no class body, looking at no more than `steps` scopes. -/
def findOutward? (t : ScopeTree) (name : String) : (steps : Nat) → Option ScopeId → Option Value
  | 0, _ | _, none => none
  | steps + 1, some id =>
    match t.scope? id with
    | none => none
    | some s =>
      match if s.kind = .classBody then none else s.bindings.find? name with
      | some value => some value
      | none => t.findOutward? name steps s.parent

/-- **What a name means in a scope**: what the scope itself binds it to, else
what the nearest scope around it does that is no class body. -/
def find? (t : ScopeTree) (id : ScopeId) (name : String) : Option Value :=
  match t.scope? id with
  | none => none
  | some s =>
    match s.bindings.find? name with
    | some value => some value
    | none => t.findOutward? name t.scopes.size s.parent

/-- A scope may be given the generator whose body runs in it later than it is
added. -/
theorem setGenerator_define_addScope (t : ScopeTree) (kind : ScopeKind) (parent : Option ScopeId)
    (state : GeneratorState) (name : String) (value : Value) :
    ((t.addScope kind parent none).2.define ⟨t.scopes.size⟩ name value).setGenerator
        ⟨t.scopes.size⟩ state =
      (t.addScope kind parent (some state)).2.define ⟨t.scopes.size⟩ name value := by
  refine congrArg ScopeTree.mk (Array.ext_getElem? fun i => ?_)
  simp only [define, addScope, Array.getElem?_modify, Array.getElem?_push]
  by_cases h : t.scopes.size = i
  · simp [h]
  · simp [h, Ne.symm h]

theorem bindings_define {t : ScopeTree} {id : ScopeId} (h : id.index < t.scopes.size)
    (id' : ScopeId) (name : String) (value : Value) :
    (t.define id name value).bindings id' =
      if id' = id then (t.bindings id).insert name value else t.bindings id' := by
  obtain ⟨i⟩ := id
  obtain ⟨j⟩ := id'
  simp only [bindings, scope?, define, Array.getElem?_modify, ScopeId.mk.injEq]
  by_cases hij : j = i
  · subst hij; simp [Array.getElem?_eq_getElem h]
  · simp [hij, Ne.symm hij]

end ScopeTree

end MeteredScript
