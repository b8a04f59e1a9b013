import MeteredScript.Evaluation.Expression

/-!
# Comparison chains

A chain `o₁ op₁ o₂ op₂ o₃ …` is read from the left, one link at a time. A link
evaluates its operand and compares the value with the one before it, on the
machine as it is then. The first link that does not hold decides the chain.

The relations of this module tell such a course from outside: some links hold
in a row (`LinksHold`), and then there are no more, or one link ends the chain
(`LinkEnds`), whatever stands behind it. A membership test in a generator is a
course of its own: some items are passed over (`PassesOver`), and then one item
or the lack of one ends the search (`SearchEnds`).

What holds in a row is what the evaluator does first, step by step, so that
each course has the outcome of the evaluator and no other (`searches_iff`,
`linksRun_iff`).
-/

namespace MeteredScript

open Eval

variable {ev : Evaluator} {scope : ScopeId} {m m₁ m₂ n : Machine} {s : Stop}

/-! ## Membership in a generator -/

section Search

variable {item x : Value} {id : GeneratorId} {count rounds : Nat}
  {outcome : Except Stop Bool × Machine}

/-- **An item is taken out of a generator** and paid for. -/
inductive Takes (ev : Evaluator) (id : GeneratorId) (m : Machine) (x : Value) (n : Machine) : Prop
  | intro {m₁ : Machine} (given : (ev.nextYielded? id).on m = (.ok (some x), m₁))
    (paid : tick.on m₁ = (.ok (), n)) : Takes ev id m x n

/-- **Items are passed over**: they are taken one after another, and none of them
is equal to the one that is searched for when it is taken. -/
inductive PassesOver (ev : Evaluator) (item : Value) (id : GeneratorId) :
    (count : Nat) → Machine → Machine → Prop
  | none (m : Machine) : PassesOver ev item id 0 m m
  | next {x : Value} {count : Nat} {m m₁ n : Machine} (taken : Takes ev id m x m₁)
    (other : m₁.heap.equal? x item = some false) (rest : PassesOver ev item id count m₁ n) :
    PassesOver ev item id (count + 1) m n

/-- **The end of a search**, whichever item it comes at. -/
inductive SearchEnds (ev : Evaluator) (item : Value) (id : GeneratorId) (m : Machine) :
    Except Stop Bool × Machine → Prop
  /-- The generator gives an equal item, and is left where it gave it. -/
  | found {x : Value} {n : Machine} (taken : Takes ev id m x n)
    (equal : n.heap.equal? x item = some true) : SearchEnds ev item id m (.ok true, n)
  /-- The generator has ended. -/
  | exhausted {n : Machine} (ended : (ev.nextYielded? id).on m = (.ok none, n)) :
    SearchEnds ev item id m (.ok false, n)
  /-- The generator stops with an error. -/
  | failed {s : Stop} {n : Machine} (stopped : (ev.nextYielded? id).on m = (.error s, n)) :
    SearchEnds ev item id m (.error s, n)
  /-- There is no gas to look at the item. -/
  | unpaid {x : Value} {s : Stop} {m₁ n : Machine}
    (given : (ev.nextYielded? id).on m = (.ok (some x), m₁))
    (stopped : tick.on m₁ = (.error s, n)) : SearchEnds ev item id m (.error s, n)
  /-- The comparison with the item has no end. -/
  | endless {x : Value} {n : Machine} (taken : Takes ev id m x n)
    (unanswered : n.heap.equal? x item = none) : SearchEnds ev item id m (.error .endless, n)

/-- **A search in a generator**: items are passed over until it ends, or until it
has gone on for too many rounds. -/
inductive Searches (ev : Evaluator) (item : Value) (id : GeneratorId) (rounds : Nat)
    (m : Machine) : Except Stop Bool × Machine → Prop
  | ends {count : Nat} {m₁ : Machine} {outcome : Except Stop Bool × Machine}
    (passed : PassesOver ev item id count m m₁) (inTime : count < rounds)
    (ends : SearchEnds ev item id m₁ outcome) : Searches ev item id rounds m outcome
  | endless {n : Machine} (passed : PassesOver ev item id rounds m n) :
    Searches ev item id rounds m (.error .endless, n)

/-- What a search does with an item. -/
def searchTurn (item : Value) : Bool → Value → Eval (ForInStep Bool) := fun _ x => do
  tick
  if ← ofAnswer ((← heap).equal? x item) then return .done true else return .yield false

/-- The search of so many rounds. -/
def search (ev : Evaluator) (item : Value) (id : GeneratorId) (rounds : Nat) : Eval Bool :=
  ev.iterate (searchTurn item) rounds (.generator id) false

theorem on_next?_generator {next : Option Value} (id : GeneratorId)
    (given : (ev.nextYielded? id).on m = (.ok next, n)) :
    (ev.next? (.generator id)).on m = (.ok (next.map (·, .generator id)), n) := by
  rw [Evaluator.next?, on_bind_ok given]
  cases next <;> rfl

/-- An item that was taken is compared. -/
theorem on_search_of_takes (taken : Takes ev id m x n) (item : Value) (rounds : Nat) :
    (search ev item id (rounds + 1)).on m =
      match n.heap.equal? x item with
      | some true => (.ok true, n)
      | some false => (search ev item id rounds).on n
      | none => (.error .endless, n) := by
  obtain ⟨given, paid⟩ := taken
  rw [search, Evaluator.iterate, on_bind_ok (on_next?_generator id given)]
  dsimp only [Option.map, searchTurn]
  rw [bind_assoc, on_bind_ok paid, bind_assoc, on_bind_ok (on_heap n)]
  match n.heap.equal? x item with
  | none => rfl
  | some true => rfl
  | some false => rfl

theorem on_search_of_searchEnds (ends : SearchEnds ev item id m outcome) (rounds : Nat) :
    (search ev item id (rounds + 1)).on m = outcome := by
  cases ends with
  | found taken equal => rw [on_search_of_takes taken, equal]
  | endless taken unanswered => rw [on_search_of_takes taken, unanswered]
  | exhausted ended =>
    rw [search, Evaluator.iterate, on_bind_ok (on_next?_generator id ended)]
    rfl
  | failed stopped =>
    have failed : (ev.next? (.generator id)).on m = _ := on_bind_error stopped _
    rw [search, Evaluator.iterate, on_bind_error failed]
  | unpaid given stopped =>
    rw [search, Evaluator.iterate, on_bind_ok (on_next?_generator id given)]
    dsimp only [Option.map, searchTurn]
    rw [bind_assoc, on_bind_error stopped]

/-- The generator gives an item that is passed over, or the search ends. -/
theorem passes_or_ends (ev : Evaluator) (item : Value) (id : GeneratorId) (m : Machine) :
    (∃ x n, Takes ev id m x n ∧ n.heap.equal? x item = some false) ∨
      ∃ outcome, SearchEnds ev item id m outcome := by
  generalize given : (ev.nextYielded? id).on m = answer
  obtain ⟨s | next, m₁⟩ := answer
  · exact .inr ⟨_, .failed given⟩
  cases next with
  | none => exact .inr ⟨_, .exhausted given⟩
  | some x =>
    generalize paid : tick.on m₁ = answer
    obtain ⟨s | _, n⟩ := answer
    · exact .inr ⟨_, .unpaid given paid⟩
    · have taken : Takes ev id m x n := .intro given paid
      match compared : n.heap.equal? x item with
      | none => exact .inr ⟨_, .endless taken compared⟩
      | some true => exact .inr ⟨_, .found taken compared⟩
      | some false => exact .inl ⟨x, n, taken, compared⟩

theorem on_search_of_passesOver (passed : PassesOver ev item id count m n) (rounds : Nat) :
    (search ev item id (rounds + count)).on m = (search ev item id rounds).on n := by
  induction passed with
  | none m => rfl
  | next taken other rest ih => rw [← Nat.add_assoc, on_search_of_takes taken, other, ih]

theorem Searches.on_search (searches : Searches ev item id rounds m outcome) :
    (search ev item id rounds).on m = outcome := by
  cases searches with
  | @ends count _ _ passed inTime ends =>
    obtain ⟨rest, rfl⟩ := Nat.exists_eq_add_of_lt inTime
    have split : count + rest + 1 = rest + 1 + count := by omega
    rw [split, on_search_of_passesOver passed, on_search_of_searchEnds ends]
  | endless passed =>
    have all := on_search_of_passesOver passed 0
    rw [Nat.zero_add] at all
    exact all

theorem exists_searches (ev : Evaluator) (item : Value) (id : GeneratorId) (rounds : Nat)
    (m : Machine) : ∃ outcome, Searches ev item id rounds m outcome := by
  induction rounds generalizing m with
  | zero => exact ⟨_, .endless (.none m)⟩
  | succ rounds ih =>
    obtain ⟨x, n, taken, other⟩ | ⟨outcome, ends⟩ := passes_or_ends ev item id m
    · obtain ⟨outcome, searches⟩ := ih n
      refine ⟨outcome, ?_⟩
      cases searches with
      | ends passed inTime ends =>
        exact .ends (.next taken other passed) (Nat.succ_lt_succ inTime) ends
      | endless passed => exact .endless (.next taken other passed)
    · exact ⟨outcome, .ends (.none m) (Nat.succ_pos rounds) ends⟩

/-- **A membership test in a generator is a search**, and no other. -/
theorem searches_iff : Searches ev item id ev.rounds m outcome ↔
    (memberOfGenerator ev item id).on m = outcome := by
  refine ⟨Searches.on_search, ?_⟩
  rintro rfl
  obtain ⟨outcome, searches⟩ := exists_searches ev item id ev.rounds m
  exact searches.on_search ▸ searches

end Search

/-! ## Links -/

section Links

variable {op : CompareOp} {operand : Expr} {l r v : Value} {before links : List (CompareOp × Expr)}
  {outcome : Except Stop Bool × Machine}

/-- **A comparison of two values**: a search if it asks for membership in a
generator, and otherwise an answer of the heap as it is, which changes
nothing. -/
def Compares (ev : Evaluator) (op : CompareOp) (l r : Value) (m : Machine)
    (outcome : Except Stop Bool × Machine) : Prop :=
  match op, r with
  | .isIn, .generator id _ => Searches ev l id ev.rounds m outcome
  | .notIn, .generator id _ =>
    ∃ searched, Searches ev l id ev.rounds m searched ∧
      outcome = (searched.1.map (!·), searched.2)
  | op, r => outcome = (related m.heap op l r, m)

theorem compares_iff :
    Compares ev op l r m outcome ↔ (linkHolds ev op l r).on m = outcome := by
  unfold Compares
  split
  · exact searches_iff
  · rw [linkHolds, on_map]
    simp only [searches_iff, exists_eq_left']
    exact eq_comm
  · rename_i noIn noNotIn
    rw [linkHolds.eq_3 _ _ _ _ noIn noNotIn, on_bind_ok (on_heap m), on_ofStop, eq_comm]

/-- **A link holds**: its operand is evaluated and compared with the value before
it, and its value is the one to go on with. -/
inductive LinkHolds (ev : Evaluator) (scope : ScopeId) (l : Value) (op : CompareOp)
    (operand : Expr) (m : Machine) (r : Value) (n : Machine) : Prop
  | intro {m₁ : Machine} (evaluated : (ev.eval operand scope).on m = (.ok r, m₁))
    (holds : Compares ev op l r m₁ (.ok true, n)) : LinkHolds ev scope l op operand m r n

/-- **A link ends the chain.** -/
inductive LinkEnds (ev : Evaluator) (scope : ScopeId) (l : Value) (op : CompareOp)
    (operand : Expr) (m : Machine) : Except Stop Bool × Machine → Prop
  /-- The operand has no value. -/
  | noOperand {s : Stop} {n : Machine} (stopped : (ev.eval operand scope).on m = (.error s, n)) :
    LinkEnds ev scope l op operand m (.error s, n)
  /-- The comparison has no answer. -/
  | noAnswer {r : Value} {s : Stop} {m₁ n : Machine}
    (evaluated : (ev.eval operand scope).on m = (.ok r, m₁))
    (stopped : Compares ev op l r m₁ (.error s, n)) : LinkEnds ev scope l op operand m (.error s, n)
  /-- The comparison does not hold. -/
  | fails {r : Value} {m₁ n : Machine} (evaluated : (ev.eval operand scope).on m = (.ok r, m₁))
    (answered : Compares ev op l r m₁ (.ok false, n)) :
    LinkEnds ev scope l op operand m (.ok false, n)

/-- **Links hold in a row**, each with the value that the one before left. -/
inductive LinksHold (ev : Evaluator) (scope : ScopeId) :
    Value → Machine → List (CompareOp × Expr) → Value → Machine → Prop
  | none (l : Value) (m : Machine) : LinksHold ev scope l m [] l m
  | next {l r v : Value} {m m₁ n : Machine} {op : CompareOp} {operand : Expr}
    {links : List (CompareOp × Expr)} (holds : LinkHolds ev scope l op operand m r m₁)
    (rest : LinksHold ev scope r m₁ links v n) :
    LinksHold ev scope l m ((op, operand) :: links) v n

/-- **The course of the links of a chain**: all of them hold, or some hold and
the one after them ends the chain. Nothing is said of those after that one. -/
inductive LinksRun (ev : Evaluator) (scope : ScopeId) (l : Value)
    (links : List (CompareOp × Expr)) (m : Machine) : Except Stop Bool × Machine → Prop
  | all {v : Value} {n : Machine} (hold : LinksHold ev scope l m links v n) :
    LinksRun ev scope l links m (.ok true, n)
  | decided {before after : List (CompareOp × Expr)} {op : CompareOp} {operand : Expr}
    {v : Value} {m₁ : Machine} {outcome : Except Stop Bool × Machine}
    (split : links = before ++ (op, operand) :: after)
    (hold : LinksHold ev scope l m before v m₁)
    (ends : LinkEnds ev scope v op operand m₁ outcome) : LinksRun ev scope l links m outcome

theorem on_chainHolds_of_linkHolds (holds : LinkHolds ev scope l op operand m r n)
    (links : List (CompareOp × Expr)) :
    (chainHolds ev scope l ((op, operand) :: links)).on m = (chainHolds ev scope r links).on n := by
  obtain ⟨evaluated, holds⟩ := holds
  rw [chainHolds, on_bind_ok evaluated, on_bind_ok (compares_iff.1 holds)]
  rfl

theorem on_chainHolds_of_linkEnds (ends : LinkEnds ev scope l op operand m outcome)
    (links : List (CompareOp × Expr)) :
    (chainHolds ev scope l ((op, operand) :: links)).on m = outcome := by
  cases ends with
  | noOperand stopped => rw [chainHolds, on_bind_error stopped]
  | noAnswer evaluated stopped =>
    rw [chainHolds, on_bind_ok evaluated, on_bind_error (compares_iff.1 stopped)]
  | fails evaluated answered =>
    rw [chainHolds, on_bind_ok evaluated, on_bind_ok (compares_iff.1 answered)]
    rfl

theorem holds_or_ends (ev : Evaluator) (scope : ScopeId) (l : Value) (op : CompareOp)
    (operand : Expr) (m : Machine) :
    (∃ r n, LinkHolds ev scope l op operand m r n) ∨
      ∃ outcome, LinkEnds ev scope l op operand m outcome := by
  generalize evaluated : (ev.eval operand scope).on m = outcome
  obtain ⟨s | r, m₁⟩ := outcome
  · exact .inr ⟨_, .noOperand evaluated⟩
  generalize compared : (linkHolds ev op l r).on m₁ = outcome
  rw [← compares_iff] at compared
  obtain ⟨s | _ | _, n⟩ := outcome
  · exact .inr ⟨_, .noAnswer evaluated compared⟩
  · exact .inr ⟨_, .fails evaluated compared⟩
  · exact .inl ⟨r, n, .intro evaluated compared⟩

theorem on_chainHolds_of_linksHold (hold : LinksHold ev scope l m before v n)
    (links : List (CompareOp × Expr)) :
    (chainHolds ev scope l (before ++ links)).on m = (chainHolds ev scope v links).on n := by
  induction hold with
  | none l m => rfl
  | next holds rest ih => rw [List.cons_append, on_chainHolds_of_linkHolds holds, ih]

theorem LinksRun.on_chainHolds (run : LinksRun ev scope l links m outcome) :
    (chainHolds ev scope l links).on m = outcome := by
  cases run with
  | all hold =>
    have last := on_chainHolds_of_linksHold hold []
    rw [List.append_nil] at last
    exact last
  | decided split hold ends =>
    rw [split, on_chainHolds_of_linksHold hold, on_chainHolds_of_linkEnds ends]

theorem exists_linksRun (ev : Evaluator) (scope : ScopeId) (l : Value)
    (links : List (CompareOp × Expr)) (m : Machine) :
    ∃ outcome, LinksRun ev scope l links m outcome := by
  induction links generalizing l m with
  | nil => exact ⟨_, .all (.none l m)⟩
  | cons link links ih =>
    obtain ⟨op, operand⟩ := link
    obtain ⟨r, n, holds⟩ | ⟨outcome, ends⟩ := holds_or_ends ev scope l op operand m
    · obtain ⟨outcome, run⟩ := ih r n
      refine ⟨outcome, ?_⟩
      cases run with
      | all hold => exact .all (.next holds hold)
      | @decided before _ op' operand' _ _ _ split hold ends =>
        exact .decided (congrArg ((op, operand) :: ·) split) (.next holds hold) ends
    · exact ⟨outcome, .decided (List.nil_append _).symm (.none l m) ends⟩

/-- **The links of a chain take this course**, and no other. -/
theorem linksRun_iff : LinksRun ev scope l links m outcome ↔
    (chainHolds ev scope l links).on m = outcome := by
  refine ⟨LinksRun.on_chainHolds, ?_⟩
  rintro rfl
  obtain ⟨outcome, run⟩ := exists_linksRun ev scope l links m
  exact run.on_chainHolds ▸ run

end Links

/-! ## The whole chain -/

/-- **The course of a comparison chain**: the first operand, and then the
links. -/
inductive ChainRuns (ev : Evaluator) (scope : ScopeId) (first : Expr)
    (links : List (CompareOp × Expr)) (m : Machine) : Except Stop Value × Machine → Prop
  | noOperand {s : Stop} {n : Machine} (stopped : (ev.eval first scope).on m = (.error s, n)) :
    ChainRuns ev scope first links m (.error s, n)
  | links {l : Value} {m₁ n : Machine} {answer : Except Stop Bool}
    (evaluated : (ev.eval first scope).on m = (.ok l, m₁))
    (run : LinksRun ev scope l links m₁ (answer, n)) :
    ChainRuns ev scope first links m (answer.map .bool, n)

/-- **What is true of comparison chains.** -/
structure ShortCircuit (ev : Evaluator) (scope : ScopeId) : Prop where
  /-- A chain that can be paid for takes its course, and ends like it. -/
  course {first : Expr} {links : List (CompareOp × Expr)} {m m₁ : Machine} :
    tick.on m = (.ok (), m₁) → ∀ outcome,
      (evalExpr ev (.compare first links) scope).on m = outcome ↔
        ChainRuns ev scope first links m₁ outcome
  /-- One that cannot evaluates nothing. -/
  unpaid {first : Expr} {links : List (CompareOp × Expr)} {m m₁ : Machine} {s : Stop} :
    tick.on m = (.error s, m₁) →
      (evalExpr ev (.compare first links) scope).on m = (.error s, m₁)
  /-- Behind the link that ends the chain anything may stand. -/
  unread {first : Expr} {before : List (CompareOp × Expr)} {op : CompareOp} {operand : Expr}
    {l v : Value} {m m₁ m₂ m₃ n : Machine} {answer : Except Stop Bool} :
    tick.on m = (.ok (), m₁) → (ev.eval first scope).on m₁ = (.ok l, m₂) →
      LinksHold ev scope l m₂ before v m₃ → LinkEnds ev scope v op operand m₃ (answer, n) →
      ∀ after, (evalExpr ev (.compare first (before ++ (op, operand) :: after)) scope).on m =
        (answer.map .bool, n)

theorem chainRuns_iff {first : Expr} {links : List (CompareOp × Expr)}
    {outcome : Except Stop Value × Machine} (paid : tick.on m = (.ok (), m₁)) :
    ChainRuns ev scope first links m₁ outcome ↔
      (evalExpr ev (.compare first links) scope).on m = outcome := by
  rw [evalExpr, on_bind_ok paid, evalForm]
  constructor
  · intro runs
    cases runs with
    | noOperand stopped => exact on_bind_error stopped _
    | links evaluated run =>
      rw [on_bind_ok evaluated, bind_pure_comp, on_map, linksRun_iff.1 run]
  · rintro rfl
    generalize evaluated : (ev.eval first scope).on m₁ = answer
    obtain ⟨s | l, m₂⟩ := answer
    · rw [on_bind_error evaluated]
      exact .noOperand evaluated
    · rw [on_bind_ok evaluated, bind_pure_comp, on_map]
      exact .links evaluated (linksRun_iff.2 rfl)

/-- **Comparison chains short-circuit.** -/
theorem comparison_chains_short_circuit (ev : Evaluator) (scope : ScopeId) :
    ShortCircuit ev scope where
  course paid _ := (chainRuns_iff paid).symm
  unpaid stopped := on_bind_error stopped _
  unread paid evaluated hold ends _ :=
    (chainRuns_iff paid).1 (.links evaluated (.decided rfl hold ends))

end MeteredScript
