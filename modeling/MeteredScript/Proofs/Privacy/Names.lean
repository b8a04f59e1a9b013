import MeteredScript.Proofs.Privacy.Regime

/-!
# Names that a class body looks up itself

An expression that stands directly in the body of a class finds the names of the
class. So does the first iterable of a comprehension there, and the first iterable of
a comprehension in that; but not the body of a lambda, nor anything else in a
comprehension. `Expr.LooksUp` says which names an expression looks up where it stands,
and `Expr.rename` gives just these other names.

Where do such names lead? If each is renamed, and the class body binds the new name to
what it bound the old one to, then nothing changes, whatever else the class body binds
(`keeps_rename`). New names may be chosen that nothing but the class body binds, and
still they are found, so it is there that they were looked for.
-/

namespace MeteredScript

/-! ## Names that are looked up where an expression stands -/

/-- **A name that an expression looks up where it stands**: it occurs outside of
lambdas and of what comprehensions evaluate in scopes of their own. -/
inductive Expr.LooksUp (x : String) : Expr → Prop
  | name : LooksUp x (.name x)
  | part {e p : Expr} : p ∈ e.parts → LooksUp x p → LooksUp x e

mutual

/-- **Give other names** to what an expression looks up where it stands. -/
def Expr.rename (ρ : String → String) : Expr → Expr
  | .name id => .name (ρ id)
  | .format parts => .format (renameFormat ρ parts)
  | .list items => .list (renameAll ρ items)
  | .tuple items => .tuple (renameAll ρ items)
  | .set items => .set (renameAll ρ items)
  | .dict entries => .dict (renameEntries ρ entries)
  | .attribute object id => .attribute (object.rename ρ) id
  | .subscript object index => .subscript (object.rename ρ) (index.rename ρ)
  | .call callee arguments => .call (callee.rename ρ) (renameAll ρ arguments)
  | .binary left op right => .binary (left.rename ρ) op (right.rename ρ)
  | .logical left op right => .logical (left.rename ρ) op (right.rename ρ)
  | .unary op operand => .unary op (operand.rename ρ)
  | .compare first links => .compare (first.rename ρ) (renameLinks ρ links)
  | .conditional condition whenTrue whenFalse =>
    .conditional (condition.rename ρ) (whenTrue.rename ρ) (whenFalse.rename ρ)
  | .lambda parameters body => .lambda (renameDefaults ρ parameters) body
  | .comprehension form clauses => .comprehension form (renameFirst ρ clauses)
  | .int n => .int n
  | .str text => .str text
  | .bool b => .bool b
  | .none => .none
  | .yield operand => .yield operand

/-- The same for several expressions. -/
def renameAll (ρ : String → String) : List Expr → List Expr
  | [] => []
  | e :: es => e.rename ρ :: renameAll ρ es

/-- The same for the entries of a dict display. -/
def renameEntries (ρ : String → String) : List (Expr × Expr) → List (Expr × Expr)
  | [] => []
  | (key, value) :: es => (key.rename ρ, value.rename ρ) :: renameEntries ρ es

/-- The same for the links of a comparison. -/
def renameLinks (ρ : String → String) : List (CompareOp × Expr) → List (CompareOp × Expr)
  | [] => []
  | (op, operand) :: ls => (op, operand.rename ρ) :: renameLinks ρ ls

/-- The same for the parts of a formatted text. -/
def renameFormat (ρ : String → String) : List FormatPart → List FormatPart
  | [] => []
  | .text part :: ps => .text part :: renameFormat ρ ps
  | .value e :: ps => .value (e.rename ρ) :: renameFormat ρ ps

/-- The same for an expression that may be left out. -/
def renameOptional (ρ : String → String) : Option Expr → Option Expr
  | none => none
  | some e => some (e.rename ρ)

/-- The same for the defaults of parameters. -/
def renameDefaults (ρ : String → String) : List Parameter → List Parameter
  | [] => []
  | ⟨id, fallback⟩ :: ps => ⟨id, renameOptional ρ fallback⟩ :: renameDefaults ρ ps

/-- The same for the first iterable of a comprehension. -/
def renameFirst (ρ : String → String) : List Clause → List Clause
  | [] => []
  | ⟨target, iterable, conditions⟩ :: cs => ⟨target, iterable.rename ρ, conditions⟩ :: cs

end

section Rename

variable (ρ : String → String)

theorem renameAll_eq_map (es : List Expr) : renameAll ρ es = es.map (Expr.rename ρ) := by
  induction es with
  | nil => rfl
  | cons e es ih => rw [renameAll, ih, List.map_cons]

theorem renameEntries_eq_map (es : List (Expr × Expr)) :
    renameEntries ρ es = es.map (Prod.map (Expr.rename ρ) (Expr.rename ρ)) := by
  induction es with
  | nil => rfl
  | cons e es ih => rw [renameEntries, ih, List.map_cons, Prod.map]

theorem renameLinks_eq_map (ls : List (CompareOp × Expr)) :
    renameLinks ρ ls = ls.map (Prod.map id (Expr.rename ρ)) := by
  induction ls with
  | nil => rfl
  | cons l ls ih => rw [renameLinks, ih, List.map_cons, Prod.map, id_eq]

theorem renameFormat_eq_map (ps : List FormatPart) :
    renameFormat ρ ps = ps.map (FormatPart.map (Expr.rename ρ)) := by
  induction ps with
  | nil => rfl
  | cons p ps ih => cases p <;> rw [renameFormat, ih, List.map_cons, FormatPart.map]

theorem renameDefaults_eq_map (ps : List Parameter) :
    renameDefaults ρ ps = ps.map (Parameter.map (Expr.rename ρ)) := by
  induction ps with
  | nil => rfl
  | cons p ps ih =>
    obtain ⟨id, fallback⟩ := p
    rw [renameDefaults, ih, List.map_cons]
    cases fallback <;> rfl

/-- An expression that is not itself a name has its parts renamed. -/
theorem Expr.rename_eq_mapParts {e : Expr} (other : ∀ id, e ≠ .name id) :
    e.rename ρ = e.mapParts (Expr.rename ρ) := by
  cases e with
  | name id => exact absurd rfl (other id)
  | comprehension form clauses =>
    match clauses with
    | [] | ⟨_, _, _⟩ :: _ => rfl
  | _ => simp [Expr.rename, mapParts, renameAll_eq_map, renameEntries_eq_map, renameLinks_eq_map,
      renameFormat_eq_map, renameDefaults_eq_map]

end Rename

-- `[x for x in xs for y in f(x)]`: of all these names, only `xs` is looked up where it stands.
example (f x xs y : String) (ρ : String → String) :
    (Expr.comprehension (.list (.name x)) [⟨.name x, .name xs, []⟩,
      ⟨.name y, .call (.name f) [.name x], []⟩]).rename ρ =
    .comprehension (.list (.name x)) [⟨.name x, .name (ρ xs), []⟩,
      ⟨.name y, .call (.name f) [.name x], []⟩] := rfl

/-! ## Where these names lead -/

/-- **The same under other names**: each name that an expression looks up where it
stands has the value under its new name that it had, and names that have no value there
are not renamed. -/
def Mask.Agrees (k : Mask) (ρ : String → String) (e : Expr) : Prop :=
  ∀ x, e.LooksUp x →
    k.shown.find? (ρ x) = k.own.find? x ∧ (k.own.find? x = none → ρ x = x)

theorem ScopeTree.IsClassBody.bindings_withBindings {t : ScopeTree} {c : ScopeId}
    (h : t.IsClassBody c) (b : Bindings) : (t.withBindings c b).bindings c = b := by
  obtain ⟨x, hx, -⟩ := h
  rw [bindings, t.scope?_withBindings_self, hx]
  rfl

/-- A name that a class body does not bind means in it what it means around it. -/
theorem ScopeTree.IsClassBody.find?_of_none {t : ScopeTree} {c : ScopeId} (h : t.IsClassBody c)
    {b : Bindings} {name : String} (own : t.findLocal? c name = none)
    (shown : b.find? name = none) :
    (t.withBindings c b).find? c name = t.find? c name := by
  obtain ⟨x, hx, -⟩ := id h
  rw [findLocal?, bindings, hx] at own
  dsimp only at own
  rw [ScopeTree.find?, ScopeTree.find?, t.scope?_withBindings_self, hx, size_withBindings]
  simp only [Option.map_some, shown, own, h.findOutward? b]

/-- A name that a scope itself binds has that value there. -/
theorem on_lookup_of_findLocal? {m : Machine} {s : ScopeId} {name : String} {v : Value}
    (own : m.scopes.findLocal? s name = some v) : (Eval.lookup s name).on m = (.ok v, m) := by
  have found : (Eval.find? s name).on m = (.ok (some v), m) :=
    congrArg (fun found => (Except.ok found, m)) (m.scopes.find?_of_findLocal? s own)
  rw [Eval.lookup, Eval.on_bind_ok found]
  rfl

namespace Regime

variable {c : ScopeId} {k : Mask}

/-- **A name under its new name.** -/
theorem keeps_lookup {x y : String} (same : k.shown.find? y = k.own.find? x)
    (outward : k.own.find? x = none → y = x) :
    (classBody c (some k)).Keeps () () (Eval.lookup c x) (Eval.lookup c y) := by
  cases own : k.own.find? x with
  | none =>
    obtain rfl := outward own
    refine .lookup_of_find? (.of_on (fun _ m _ inv => ?_) fun _ _ _ inv =>
      .here inv (inv.upheld.scopes.findName? c y))
    have unbound : m.scopes.findLocal? c y = none := by
      rw [ScopeTree.findLocal?, inv.holds.own k rfl, own]
    have seen := inv.holds.body.find?_of_none unbound (same.trans own)
    exact congrArg (fun found => (Except.ok found, m.withBindings c k.shown)) seen
  | some v =>
    intro w₁ m _ inv
    have bound : m.scopes.findLocal? c x = some v := by
      rw [ScopeTree.findLocal?, inv.holds.own k rfl, own]
    have bound' : (m.scopes.withBindings c k.shown).findLocal? c y = some v := by
      rw [ScopeTree.findLocal?, inv.holds.body.bindings_withBindings, same, own]
    have held := inv.upheld.scopes.findLocal? c x
    rw [bound, within_some] at held
    have found' : (Eval.lookup c y).on ((classBody c (some k)).cover m) =
        (.ok v, (classBody c (some k)).cover m) := on_lookup_of_findLocal? bound'
    rw [on_lookup_of_findLocal? bound, found']
    exact .ok (.here inv held)

/-- **What an expression looks up where it stands** it looks up in the class body. -/
theorem keeps_rename (ρ : String → String) (n : Nat) {e : Expr} (agrees : k.Agrees ρ e) :
    (classBody c (some k)).Keeps () () ((Evaluator.bounded n).eval e c)
      ((Evaluator.bounded n).eval (e.rename ρ) c) := by
  induction n generalizing e with
  | zero => exact .throw within_endless
  | succ n ih =>
    refine Keeps.tick.bind fun _ _ _ _ => ?_
    by_cases isName : ∃ x, e = .name x
    · obtain ⟨x, rfl⟩ := isName
      exact keeps_lookup (agrees x .name).1 (agrees x .name).2
    · have other (x : String) : e ≠ .name x := fun same => isName ⟨x, same⟩
      rw [Expr.rename_eq_mapParts ρ other]
      refine ((free_classBody c (some k)).bounded n).evalForm_mapParts
        (fun x same => absurd same (other x)) (fun p member => ih fun x looksUp => ?_)
        fun _ _ => trivial
      exact agrees x (.part member looksUp)

end Regime

end MeteredScript
