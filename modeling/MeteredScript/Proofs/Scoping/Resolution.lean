import MeteredScript.Proofs.Regime.Primitive

/-!
# What a name means

The search for a name goes outward from a scope, through a tree that it knows only by the
pointers from each scope to the one it stands in, and takes a bounded number of steps. Here is
said what it finds, in terms of the tree alone. A scope *encloses* those that stand in it,
directly or not. A name means what the scope itself binds it to. Failing that, it means what
the nearest of the scopes around it shows, and a class body shows nothing to the scopes inside
it. Failing that, it means nothing.

The bound on the steps is never met in a tree that was built scope by scope: a scope that is
added stands in one that is there, so the way outward leads to ever older scopes
(`Built.ordered`).

A definition changes what a name means in those scopes that it reaches (`Reaches`) and in no
others.
-/

namespace MeteredScript

namespace ScopeTree

variable {t : ScopeTree} {s p a b d : ScopeId} {name other : String} {v : Value}

/-! ## The tree -/

/-- What a scope belongs to. -/
def kind? (t : ScopeTree) (s : ScopeId) : Option ScopeKind := (t.scope? s).map Scope.kind

/-- The scope that a scope stands in. -/
def parent? (t : ScopeTree) (s : ScopeId) : Option ScopeId := (t.scope? s).bind Scope.parent

/-- **What a scope shows of a name** to the scopes inside it: what it binds the name to, unless
it belongs to a class body. -/
def shown? (t : ScopeTree) (s : ScopeId) (name : String) : Option Value :=
  if t.kind? s = some .classBody then none else t.findLocal? s name

/-- **A scope stands in another one**, directly or not. -/
inductive Encloses (t : ScopeTree) (a : ScopeId) : ScopeId → Prop
  | parent {s : ScopeId} : t.parent? s = some a → Encloses t a s
  | outward {s p : ScopeId} : t.parent? s = some p → Encloses t a p → Encloses t a s

/-- **A tree that was built scope by scope**, by additions and definitions in any order, and with
generators brought from place to place in their lives. -/
inductive Built : ScopeTree → Prop
  | empty : Built empty
  | root {t : ScopeTree} (kind : ScopeKind) : Built t → Built (t.addScope kind none none).2
  | child {t : ScopeTree} (kind : ScopeKind) {parent : ScopeId}
    (generator : Option GeneratorState) : Built t → parent.index < t.scopes.size →
    Built (t.addScope kind (some parent) generator).2
  | define {t : ScopeTree} (s : ScopeId) (name : String) (v : Value) : Built t →
    Built (t.define s name v)
  | setGenerator {t : ScopeTree} (s : ScopeId) (state : GeneratorState) : Built t →
    Built (t.setGenerator s state)

theorem encloses_iff (stands : t.parent? s = some p) :
    t.Encloses a s ↔ a = p ∨ t.Encloses a p := by
  constructor
  · rintro (direct | ⟨step, outer⟩)
    · exact .inl (Option.some.inj (direct.symm.trans stands))
    · obtain rfl := Option.some.inj (step.symm.trans stands)
      exact .inr outer
  · rintro (rfl | outer)
    · exact .parent stands
    · exact .outward stands outer

/-- Nothing encloses an outermost scope. -/
theorem not_encloses (outermost : t.parent? s = none) : ¬ t.Encloses a s := by
  rintro (direct | ⟨step, -⟩)
  · cases outermost.symm.trans direct
  · cases outermost.symm.trans step

theorem Encloses.trans (outer : t.Encloses a b) (inner : t.Encloses b s) : t.Encloses a s := by
  induction inner with
  | parent stands => exact .outward stands outer
  | outward stands _ ih => exact .outward stands ih

/-! ## Older scopes enclose younger ones -/

/-- **Each scope comes after the one it stands in.** -/
def Ordered (t : ScopeTree) : Prop :=
  ∀ ⦃s p : ScopeId⦄, t.parent? s = some p → p.index < s.index ∧ s.index < t.scopes.size

theorem Ordered.encloses (ordered : t.Ordered) (encloses : t.Encloses a s) :
    a.index < s.index := by
  induction encloses with
  | parent stands => exact (ordered stands).1
  | outward stands _ ih => exact Nat.lt_trans ih (ordered stands).1

/-- The shape of a tree is in the kinds and the parents of its scopes. -/
theorem shape_define (t : ScopeTree) (d : ScopeId) (name : String) (v : Value) :
    (t.define d name v).kind? s = t.kind? s ∧ (t.define d name v).parent? s = t.parent? s := by
  unfold kind? parent?
  by_cases same : s = d
  · subst same
    rw [t.scope?_define_self]
    cases t.scope? s <;> exact ⟨rfl, rfl⟩
  · rw [t.scope?_define_of_ne d same]
    exact ⟨rfl, rfl⟩

theorem parent?_setGenerator (t : ScopeTree) (d : ScopeId) (state : GeneratorState) :
    (t.setGenerator d state).parent? s = t.parent? s := by
  unfold parent?
  by_cases same : s = d
  · subst same
    rw [t.scope?_setGenerator_self]
    cases t.scope? s <;> rfl
  · rw [t.scope?_setGenerator_of_ne d same]

/-- A scope that is added has the parent it is given, and the others keep theirs. -/
theorem parent?_addScope (t : ScopeTree) (kind : ScopeKind) (parent : Option ScopeId)
    (generator : Option GeneratorState) :
    (t.addScope kind parent generator).2.parent? s =
      if s.index = t.scopes.size then parent else t.parent? s := by
  unfold parent?
  split
  · rename_i new
    obtain rfl : s = ⟨t.scopes.size⟩ := by cases s; simp_all
    rw [t.scope?_addScope_self]
    rfl
  · rename_i old
    rw [t.scope?_addScope_of_ne s kind parent generator old]

theorem Ordered.addScope (ordered : t.Ordered) (kind : ScopeKind) {parent : Option ScopeId}
    (there : ∀ p ∈ parent, p.index < t.scopes.size) (generator : Option GeneratorState) :
    (t.addScope kind parent generator).2.Ordered := by
  intro s p stands
  rw [parent?_addScope] at stands
  rw [size_addScope]
  split at stands
  · rename_i new
    exact ⟨new ▸ there p stands, Nat.lt_succ_of_le (Nat.le_of_eq new)⟩
  · exact ⟨(ordered stands).1, Nat.lt_succ_of_lt (ordered stands).2⟩

/-- **A tree that was built is ordered.** -/
theorem Built.ordered (built : t.Built) : t.Ordered := by
  induction built with
  | empty =>
    intro s p stands
    simp [parent?, scope?, ScopeTree.empty] at stands
  | root kind _ ih => exact ih.addScope kind (by simp) none
  | child kind generator _ there ih => exact ih.addScope kind (by simpa using there) generator
  | define d name v _ ih =>
    intro s p stands
    rw [(shape_define _ d name v).2] at stands
    simpa using ih stands
  | setGenerator d state _ ih =>
    intro s p stands
    rw [parent?_setGenerator] at stands
    simpa using ih stands

/-! ## The search -/

/-- A step outward. -/
theorem findOutward?_succ (t : ScopeTree) (name : String) (steps : Nat) (p : ScopeId) :
    t.findOutward? name (steps + 1) (some p) =
      (t.shown? p name).or (t.findOutward? name steps (t.parent? p)) := by
  rw [findOutward?, shown?, kind?, parent?, findLocal?, bindings]
  cases t.scope? p with
  | none => cases steps <;> simp [findOutward?]
  | some x =>
    simp only [Option.map_some, Option.bind_some, Option.some.injEq]
    cases if x.kind = .classBody then none else x.bindings.find? name <;> rfl

theorem findOutward?_none (t : ScopeTree) (name : String) (steps : Nat) :
    t.findOutward? name steps none = none := by
  cases steps <;> rfl

/-- The search begins with the scope itself. -/
theorem find?_eq (t : ScopeTree) (s : ScopeId) (name : String) :
    t.find? s name =
      (t.findLocal? s name).or (t.findOutward? name t.scopes.size (t.parent? s)) := by
  rw [find?, parent?, findLocal?, bindings]
  cases t.scope? s with
  | none => simp [findOutward?_none]
  | some x =>
    dsimp only [Option.bind_some]
    cases x.bindings.find? name <;> rfl

/-- **The nearest scope around a scope that shows a name.** -/
structure Nearest (t : ScopeTree) (name : String) (s a : ScopeId) (v : Value) : Prop where
  encloses : t.Encloses a s
  shown : t.shown? a name = some v
  /-- The scopes between the two show nothing. -/
  between {b : ScopeId} : t.Encloses b s → t.Encloses a b → t.shown? b name = none

theorem Ordered.irrefl (ordered : t.Ordered) : ¬ t.Encloses a a :=
  fun encloses => Nat.lt_irrefl _ (ordered.encloses encloses)

/-- A parent that shows the name is the nearest scope that does. -/
theorem nearest_iff_of_some (ordered : t.Ordered) (stands : t.parent? s = some p) {w : Value}
    (shown : t.shown? p name = some w) : t.Nearest name s a v ↔ a = p ∧ w = v := by
  constructor
  · intro nearest
    rcases (encloses_iff stands).1 nearest.encloses with rfl | outer
    · exact ⟨rfl, Option.some.inj (shown.symm.trans nearest.shown)⟩
    · cases shown.symm.trans (nearest.between (.parent stands) outer)
  · rintro ⟨rfl, rfl⟩
    refine ⟨.parent stands, shown, fun {b} outer inner => ?_⟩
    rcases (encloses_iff stands).1 outer with rfl | outer
    · exact absurd inner ordered.irrefl
    · exact absurd (inner.trans outer) ordered.irrefl

/-- Past a parent that does not, it is the one nearest to the parent. -/
theorem nearest_iff_of_none (stands : t.parent? s = some p) (shown : t.shown? p name = none) :
    t.Nearest name s a v ↔ t.Nearest name p a v := by
  constructor
  · intro nearest
    rcases (encloses_iff stands).1 nearest.encloses with rfl | outer
    · cases shown.symm.trans nearest.shown
    · exact ⟨outer, nearest.shown, fun outer => nearest.between (.outward stands outer)⟩
  · intro nearest
    refine ⟨.outward stands nearest.encloses, nearest.shown, fun {b} outer inner => ?_⟩
    rcases (encloses_iff stands).1 outer with rfl | outer
    · exact shown
    · exact nearest.between outer inner

/-- **What the search outward finds** is what the nearest scope shows, given steps enough. The
induction is on the steps, and the order of the tree keeps them enough. -/
theorem Ordered.findOutward?_eq_some_iff (ordered : t.Ordered) {steps : Nat}
    (enough : ∀ p ∈ t.parent? s, p.index < steps) :
    t.findOutward? name steps (t.parent? s) = some v ↔ ∃ a, t.Nearest name s a v := by
  induction steps generalizing s with
  | zero =>
    cases stands : t.parent? s with
    | none => simpa [findOutward?_none] using fun a near => not_encloses stands near.encloses
    | some p => exact absurd (enough p stands) (Nat.not_lt_zero _)
  | succ steps ih =>
    cases stands : t.parent? s with
    | none => simpa [findOutward?_none] using fun a near => not_encloses stands near.encloses
    | some p =>
      rw [findOutward?_succ]
      cases shown : t.shown? p name with
      | some w => simp [nearest_iff_of_some ordered stands shown]
      | none =>
        have still : ∀ q ∈ t.parent? p, q.index < steps := fun q outer =>
          Nat.lt_of_lt_of_le (ordered outer).1 (Nat.le_of_lt_succ (enough p stands))
        simp only [nearest_iff_of_none stands shown, Option.none_or]
        exact ih still

/-- It finds nothing only where no scope shows the name. -/
theorem Ordered.findOutward?_eq_none_iff (ordered : t.Ordered) {steps : Nat}
    (enough : ∀ p ∈ t.parent? s, p.index < steps) :
    t.findOutward? name steps (t.parent? s) = none ↔
      ∀ a, t.Encloses a s → t.shown? a name = none := by
  induction steps generalizing s with
  | zero =>
    cases stands : t.parent? s with
    | none => simpa [findOutward?_none] using fun a outer => absurd outer (not_encloses stands)
    | some p => exact absurd (enough p stands) (Nat.not_lt_zero _)
  | succ steps ih =>
    cases stands : t.parent? s with
    | none => simpa [findOutward?_none] using fun a outer => absurd outer (not_encloses stands)
    | some p =>
      have still : ∀ q ∈ t.parent? p, q.index < steps := fun q outer =>
        Nat.lt_of_lt_of_le (ordered outer).1 (Nat.le_of_lt_succ (enough p stands))
      simp only [findOutward?_succ, Option.or_eq_none_iff, ih still, encloses_iff stands,
        forall_eq_or_imp]

/-- There are steps enough for the search from each scope. -/
theorem Ordered.enough (ordered : t.Ordered) : ∀ p ∈ t.parent? s, p.index < t.scopes.size :=
  fun _ stands => Nat.lt_trans (ordered stands).1 (ordered stands).2

theorem Ordered.find?_eq_some_iff (ordered : t.Ordered) :
    t.find? s name = some v ↔ t.findLocal? s name = some v ∨
      t.findLocal? s name = none ∧ ∃ a, t.Nearest name s a v := by
  rw [find?_eq, Option.or_eq_some_iff, ordered.findOutward?_eq_some_iff ordered.enough]

theorem Ordered.find?_eq_none_iff (ordered : t.Ordered) :
    t.find? s name = none ↔ t.findLocal? s name = none ∧
      ∀ a, t.Encloses a s → t.shown? a name = none := by
  rw [find?_eq, Option.or_eq_none_iff, ordered.findOutward?_eq_none_iff ordered.enough]

/-! ## Definitions -/

/-- **A definition in `d` reaches `s`**: it is made there, or in a scope around it that is no
class body, and neither `s` nor a scope between the two takes the name for itself. -/
def Reaches (t : ScopeTree) (name : String) (d s : ScopeId) : Prop :=
  d = s ∨ t.Encloses d s ∧ t.kind? d ≠ some .classBody ∧ t.findLocal? s name = none ∧
    ∀ b, t.Encloses b s → t.Encloses d b → t.shown? b name = none

theorem findLocal?_define_eq (there : d.index < t.scopes.size) (name : String) (v : Value) :
    (t.define d name v).findLocal? s other =
      if s = d ∧ other = name then some v else t.findLocal? s other := by
  rw [findLocal?, bindings_define there]
  by_cases same : s = d
  · subst same
    simp only [true_and, if_true, Bindings.find?_insert, findLocal?]
  · simp only [same, false_and, if_false, findLocal?]

theorem shown?_define (there : d.index < t.scopes.size) (name : String) (v : Value) :
    (t.define d name v).shown? s other =
      if (s = d ∧ other = name) ∧ t.kind? d ≠ some .classBody then some v
      else t.shown? s other := by
  rw [shown?, (shape_define t d name v).1, findLocal?_define_eq there, shown?]
  by_cases same : s = d
  · subst same
    split <;> simp_all
  · simp [same]

theorem encloses_define : (t.define d name v).Encloses a s ↔ t.Encloses a s := by
  have shape {s : ScopeId} := (shape_define (s := s) t d name v).2
  constructor
  · intro encloses
    induction encloses with
    | parent stands => exact .parent (shape ▸ stands)
    | outward stands _ ih => exact .outward (shape ▸ stands) ih
  · intro encloses
    induction encloses with
    | parent stands => exact .parent (shape.trans stands)
    | outward stands _ ih => exact .outward (shape.trans stands) ih

theorem Ordered.define (ordered : t.Ordered) (d : ScopeId) (name : String) (v : Value) :
    (t.define d name v).Ordered := by
  intro s p stands
  rw [(shape_define t d name v).2] at stands
  simpa using ordered stands

/-- **A definition is seen where it reaches.** -/
theorem Ordered.find?_define_of_reaches (ordered : t.Ordered) (there : d.index < t.scopes.size)
    (reaches : t.Reaches name d s) (v : Value) : (t.define d name v).find? s name = some v := by
  refine (ordered.define d name v).find?_eq_some_iff.2 ?_
  rcases reaches with rfl | ⟨outer, visible, unbound, between⟩
  · exact .inl (by rw [findLocal?_define_eq there, if_pos ⟨rfl, rfl⟩])
  · have apart {b : ScopeId} (inside : t.Encloses d b) : b ≠ d := fun same =>
      ordered.irrefl (same ▸ inside)
    refine .inr ⟨?_, d, encloses_define.2 outer, ?_, fun {b} around inside => ?_⟩
    · rw [findLocal?_define_eq there, if_neg fun same => apart outer same.1, unbound]
    · rw [shown?_define there, if_pos ⟨⟨rfl, rfl⟩, visible⟩]
    · have inside := encloses_define.1 inside
      rw [shown?_define there, if_neg fun same => apart inside same.1.1]
      exact between b (encloses_define.1 around) inside

/-- What a scope finds changes only with what it binds and what the scopes around it show. -/
theorem Ordered.find?_define_congr (ordered : t.Ordered)
    (own : (t.define d name v).findLocal? s other = t.findLocal? s other)
    (around : ∀ a, t.Encloses a s → (t.define d name v).shown? a other = t.shown? a other) :
    (t.define d name v).find? s other = t.find? s other := by
  have near {a : ScopeId} {w : Value} :
      (t.define d name v).Nearest other s a w ↔ t.Nearest other s a w := by
    constructor
    · intro nearest
      have outer := encloses_define.1 nearest.encloses
      refine ⟨outer, (around a outer).symm.trans nearest.shown, fun {b} outer inside => ?_⟩
      exact (around b outer).symm.trans
        (nearest.between (encloses_define.2 outer) (encloses_define.2 inside))
    · intro nearest
      refine ⟨encloses_define.2 nearest.encloses, (around a nearest.encloses).trans nearest.shown,
        fun {b} outer inside => ?_⟩
      have outer := encloses_define.1 outer
      exact (around b outer).trans (nearest.between outer (encloses_define.1 inside))
  refine Option.ext fun w => ?_
  simp only [(ordered.define d name v).find?_eq_some_iff, ordered.find?_eq_some_iff, own, near]

/-- **A scope between two that shows a name hides the outer one.** -/
theorem Ordered.find?_define_of_hidden (ordered : t.Ordered) (there : d.index < t.scopes.size)
    (unbound : t.findLocal? s name = none) (around : t.Encloses b s) (inside : t.Encloses d b)
    (shown : t.shown? b name ≠ none) : (t.define d name v).find? s name = t.find? s name := by
  -- the name means something already, and that comes from no scope as far out as `d`
  have means : t.find? s name ≠ none := fun nothing =>
    shown ((ordered.find?_eq_none_iff.1 nothing).2 b around)
  obtain ⟨w, found⟩ := Option.ne_none_iff_exists'.1 means
  rw [found]
  rcases ordered.find?_eq_some_iff.1 found with own | ⟨-, a, nearest⟩
  · cases unbound.symm.trans own
  · have nearer : ¬ t.Encloses a b := fun outer => shown (nearest.between around outer)
    have apart : s ≠ d := fun same => ordered.irrefl (same ▸ inside.trans around)
    have closer : a ≠ d := fun same => nearer (same ▸ inside)
    refine (ordered.define d name v).find?_eq_some_iff.2 (.inr ⟨?_, a, ?_, ?_, ?_⟩)
    · rw [findLocal?_define_eq there, if_neg fun same => apart same.1, unbound]
    · exact encloses_define.2 nearest.encloses
    · rw [shown?_define there, if_neg fun same => closer same.1.1, nearest.shown]
    · intro c outer inner
      have inner := encloses_define.1 inner
      have apart : c ≠ d := fun same => nearer (Encloses.trans (same ▸ inner) inside)
      rw [shown?_define there, if_neg fun same => apart same.1.1]
      exact nearest.between (encloses_define.1 outer) inner

/-- **A definition is not seen where it does not reach.** -/
theorem Ordered.find?_define_of_not_reaches (ordered : t.Ordered)
    (there : d.index < t.scopes.size) (unreached : ¬ (other = name ∧ t.Reaches name d s)) :
    (t.define d name v).find? s other = t.find? s other := by
  by_cases named : other = name
  · subst named
    have unreached : ¬ t.Reaches other d s := fun reaches => unreached ⟨rfl, reaches⟩
    have apart : s ≠ d := fun same => unreached (.inl same.symm)
    have own : (t.define d other v).findLocal? s other = t.findLocal? s other := by
      rw [findLocal?_define_eq there, if_neg fun same => apart same.1]
    cases bound : t.findLocal? s other with
    | some w =>
      rw [find?_of_findLocal? _ _ (own.trans bound), find?_of_findLocal? _ _ bound]
    | none =>
      by_cases visible : t.Encloses d s ∧ t.kind? d ≠ some .classBody
      · obtain ⟨outer, visible⟩ := visible
        have hidden : ¬ ∀ b, t.Encloses b s → t.Encloses d b → t.shown? b other = none :=
          fun between => unreached (.inr ⟨outer, visible, bound, between⟩)
        push Not at hidden
        obtain ⟨b, around, inside, shown⟩ := hidden
        exact ordered.find?_define_of_hidden there bound around inside shown
      · refine ordered.find?_define_congr own fun a outer => ?_
        have unseen : ¬ ((a = d ∧ other = other) ∧ t.kind? d ≠ some .classBody) :=
          fun ⟨⟨same, _⟩, shows⟩ => visible ⟨same ▸ outer, shows⟩
        rw [shown?_define there, if_neg unseen]
  · refine ordered.find?_define_congr ?_ fun a _ => ?_
    · rw [findLocal?_define_eq there, if_neg fun same => named same.2]
    · rw [shown?_define there, if_neg fun same => named same.1.2]

/-! ## The whole rule -/

/-- **What names mean in a scope**, and what a definition in a scope of the tree makes them
mean. -/
structure Resolution (t : ScopeTree) (s : ScopeId) : Prop where
  /-- A name means what the scope itself binds it to, and otherwise what the nearest scope
  around it shows. -/
  bound (name : String) (v : Value) : t.find? s name = some v ↔ t.findLocal? s name = some v ∨
    t.findLocal? s name = none ∧ ∃ a, t.Nearest name s a v
  /-- It means nothing only if the scope does not bind it and no scope around it shows it. -/
  unbound (name : String) : t.find? s name = none ↔ t.findLocal? s name = none ∧
    ∀ a, t.Encloses a s → t.shown? a name = none
  /-- A definition changes no more than what its own name means where it reaches. -/
  changed {d : ScopeId} {name other : String} {v : Value} : d.index < t.scopes.size →
    (t.define d name v).find? s other ≠ t.find? s other → other = name ∧ t.Reaches name d s
  /-- There the name means the new value. -/
  seen {d : ScopeId} {name : String} (v : Value) : d.index < t.scopes.size →
    t.Reaches name d s → (t.define d name v).find? s name = some v
  /-- Scopes other than that of the definition, and not inside it, do not see it. -/
  elsewhere {d : ScopeId} (name other : String) (v : Value) : d.index < t.scopes.size →
    s ≠ d → ¬ t.Encloses d s → (t.define d name v).find? s other = t.find? s other

/-- **A name means its nearest binding**, class bodies around it apart. -/
theorem names_mean_their_nearest_binding (built : t.Built) (s : ScopeId) : t.Resolution s where
  bound _ _ := built.ordered.find?_eq_some_iff
  unbound _ := built.ordered.find?_eq_none_iff
  changed there differs := by
    by_contra unreached
    exact differs (built.ordered.find?_define_of_not_reaches there unreached)
  seen v there reaches := built.ordered.find?_define_of_reaches there reaches v
  elsewhere name other v there apart outside := by
    refine built.ordered.find?_define_of_not_reaches there fun ⟨_, reaches⟩ => ?_
    rcases reaches with same | ⟨outer, -⟩
    · exact apart same.symm
    · exact outside outer

/-- A comprehension in the body of a class, in a function of a module. The class and the module
bind `x`. -/
def comprehensionInClass : ScopeTree :=
  let module := (empty.addScope .module none none).2.define ⟨0⟩ "x" (.int 1)
  let function := (module.addScope .function (some ⟨0⟩) none).2
  let body := (function.addScope .classBody (some ⟨1⟩) none).2.define ⟨2⟩ "x" (.int 2)
  (body.addScope .comprehension (some ⟨2⟩) none).2

/-- The comprehension finds a name of the function, past the class body that binds it too. -/
theorem comprehension_sees_past_class :
    comprehensionInClass.Built ∧ comprehensionInClass.Resolution ⟨3⟩ ∧
      (comprehensionInClass.define ⟨1⟩ "x" (.int 3)).find? ⟨3⟩ "x" = some (.int 3) := by
  have built : comprehensionInClass.Built :=
    .child _ _ (.define _ _ _ (.child _ _ (.child _ _ (.define _ _ _ (.root _ .empty))
      (by decide)) (by decide))) (by decide)
  have resolution := names_mean_their_nearest_binding built ⟨3⟩
  refine ⟨built, resolution, resolution.seen _ (by decide) (.inr ⟨?_, by decide, by decide, ?_⟩)⟩
  · exact .outward (p := ⟨2⟩) rfl (.parent rfl)
  · intro b around inside
    rcases (encloses_iff (p := ⟨2⟩) rfl).1 around with rfl | around
    · rfl
    · rcases (encloses_iff (p := ⟨1⟩) rfl).1 around with rfl | around
      · exact absurd inside built.ordered.irrefl
      · exact absurd (inside.trans around) built.ordered.irrefl

end ScopeTree

end MeteredScript
