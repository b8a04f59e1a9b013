import MeteredScript.Evaluation.Drive
import MeteredScript.Proofs.Equality.Layer

/-!
# The choice of a case

A `match` statement evaluates its subject and tries its cases in order. A case
whose pattern fits the subject, as it is then, binds what it captures and asks
its guard. So the cases that were tried leave three things behind: their
captures, whatever their guards did, and a decision.

The relations here say so in the order in which it happens. Cases are passed
over in a row (`CasesPass`), and then there are no more, or one case accepts or
has a guard that fails, whatever cases stand behind it (`Selects`). Each
relation also records the captures that were bound on the way.

The evaluator goes on from the choice by running a body, and the generator
machine by opening a frame for it (`GoesOn`).
-/

namespace MeteredScript

open Eval

/-! ## Patterns -/

/-- **Whether a value is what a constant of a pattern means.** Numbers and strings
mean everything that is equal to them, the others only themselves. -/
def Literal.Means (h : Heap) (v : Value) : Literal → Prop
  | .int n => h.Equal v (.int n)
  | .str s => h.Equal v (.str s)
  | .bool b => v = .bool b
  | .none => v = .none

/-- **What a pattern captures of a value** that it fits, by the contents of the
heap. -/
inductive Pattern.Captures (h : Heap) (subject : Value) : Pattern → List (String × Value) → Prop
  | wildcard : Captures h subject .wildcard []
  | capture (name : String) : Captures h subject (.capture name) [(name, subject)]
  | literals {options : List Literal} {option : Literal} (listed : option ∈ options)
    (meant : option.Means h subject) : Captures h subject (.literals options) []
  /-- Items and names pair up. What is named `_` is not kept. -/
  | sequence {names : List String} {items : List Value}
    (holds : subject = .tuple items ∨ ∃ id, subject = .list id ∧ items = (h.list id).toList)
    (paired : items.length = names.length) :
    Captures h subject (.sequence names) ((names.zip items).filter (·.1 ≠ "_"))

section Patterns

variable {h : Heap} {v subject : Value} {items : List Value} {captures : List (String × Value)}

theorem Literal.fits_iff {l : Literal} : l.fits v = true ↔ l.Means h v := by
  cases l with
  | int n =>
    cases v <;> simp [Literal.fits, Means, Heap.Equal, Heap.equal?, Value.equalWith, Value.asInt?,
      Value.isSame]
  | str s =>
    cases v <;> simp [Literal.fits, Means, Heap.Equal, Heap.equal?, Value.equalWith, Value.asInt?,
      Value.isSame]
  | bool b => cases v <;> simp [Literal.fits, Means, Value.isSame]
  | none => cases v <;> simp [Literal.fits, Means, Value.isNone]

theorem Value.sequence?_eq_some_iff : subject.sequence? h = some items ↔
    subject = .tuple items ∨ ∃ id, subject = .list id ∧ items = (h.list id).toList := by
  cases subject <;> simp [Value.sequence?, eq_comm]

theorem Pattern.captures?_eq_some_iff {p : Pattern} :
    p.captures? h subject = some captures ↔ p.Captures h subject captures := by
  constructor
  · intro fits
    cases p with
    | wildcard =>
      cases fits
      exact .wildcard
    | capture name =>
      cases fits
      exact .capture name
    | literals options =>
      obtain ⟨fitting, same⟩ := Option.ite_none_right_eq_some.1 fits
      cases same
      obtain ⟨option, listed, meant⟩ := List.any_eq_true.1 fitting
      exact .literals listed (Literal.fits_iff.1 meant)
    | sequence names =>
      obtain ⟨items, holds, fits⟩ := Option.bind_eq_some_iff.1 fits
      obtain ⟨paired, same⟩ := Option.ite_none_right_eq_some.1 fits
      cases same
      exact .sequence (Value.sequence?_eq_some_iff.1 holds) paired
  · intro fits
    cases fits with
    | wildcard => rfl
    | capture name => rfl
    | literals listed meant =>
      exact if_pos (List.any_eq_true.2 ⟨_, listed, Literal.fits_iff.2 meant⟩)
    | sequence holds paired =>
      rw [captures?, Value.sequence?_eq_some_iff.2 holds]
      exact if_pos paired

end Patterns

/-! ## Captures -/

/-- **A machine on which captures are bound** in a scope, in order. -/
def Machine.binding (m : Machine) (scope : ScopeId) (captures : List (String × Value)) : Machine :=
  { m with scopes := captures.foldl (fun t e => t.define scope e.1 e.2) m.scopes }

theorem on_bindCaptures (scope : ScopeId) (captures : List (String × Value)) (m : Machine) :
    (bindCaptures scope captures).on m = (.ok (), m.binding scope captures) := by
  induction captures generalizing m with
  | nil => rfl
  | cons capture rest ih =>
    obtain ⟨name, value⟩ := capture
    exact (on_bind_ok rfl _).trans (ih _)

/-! ## Cases -/

section Cases

variable {ev : Evaluator} {scope : ScopeId} {subject : Value} {c : Case} {m m₁ n : Machine}
  {captures log : List (String × Value)} {cases before : List Case}
  {outcome : Except Stop (Option Block) × Machine}

/-- **A guard is asked** on a machine on which the captures are bound, and answers
by the truth of its value. -/
inductive Guards (ev : Evaluator) (scope : ScopeId) (guard : Expr) (m : Machine) (answer : Bool)
    (n : Machine) : Prop
  | intro {v : Value} (evaluated : (ev.eval guard scope).on m = (.ok v, n))
    (answered : v.isTruthy n.heap = answer) : Guards ev scope guard m answer n

/-- **A case is passed over**: its pattern does not fit, or its guard refuses. In
the second case its captures stay bound. -/
inductive CasePasses (ev : Evaluator) (scope : ScopeId) (subject : Value) (c : Case) (m : Machine) :
    List (String × Value) → Machine → Prop
  | misfit (never : ∀ captures, ¬ c.pattern.Captures m.heap subject captures) :
    CasePasses ev scope subject c m [] m
  | refused {captures : List (String × Value)} {guard : Expr} {n : Machine}
    (fits : c.pattern.Captures m.heap subject captures) (guarded : c.guard = some guard)
    (refuses : Guards ev scope guard (m.binding scope captures) false n) :
    CasePasses ev scope subject c m captures n

/-- **A case decides**: it is selected, or its guard stops with an error. -/
inductive CaseDecides (ev : Evaluator) (scope : ScopeId) (subject : Value) (c : Case)
    (m : Machine) : List (String × Value) → Except Stop (Option Block) × Machine → Prop
  | unguarded {captures : List (String × Value)}
    (fits : c.pattern.Captures m.heap subject captures) (free : c.guard = none) :
    CaseDecides ev scope subject c m captures (.ok (some c.body), m.binding scope captures)
  | accepted {captures : List (String × Value)} {guard : Expr} {n : Machine}
    (fits : c.pattern.Captures m.heap subject captures) (guarded : c.guard = some guard)
    (accepts : Guards ev scope guard (m.binding scope captures) true n) :
    CaseDecides ev scope subject c m captures (.ok (some c.body), n)
  | failed {captures : List (String × Value)} {guard : Expr} {s : Stop} {n : Machine}
    (fits : c.pattern.Captures m.heap subject captures) (guarded : c.guard = some guard)
    (stopped : (ev.eval guard scope).on (m.binding scope captures) = (.error s, n)) :
    CaseDecides ev scope subject c m captures (.error s, n)

/-- **Cases are passed over in a row**, with all that was captured. -/
inductive CasesPass (ev : Evaluator) (scope : ScopeId) (subject : Value) :
    List Case → Machine → List (String × Value) → Machine → Prop
  | none (m : Machine) : CasesPass ev scope subject [] m [] m
  | next {c : Case} {cases : List Case} {captures log : List (String × Value)} {m m₁ n : Machine}
    (passes : CasePasses ev scope subject c m captures m₁)
    (rest : CasesPass ev scope subject cases m₁ log n) :
    CasesPass ev scope subject (c :: cases) m (captures ++ log) n

/-- **The choice of a case**: the first that decides. Nothing is said of those
after it. -/
inductive Selects (ev : Evaluator) (scope : ScopeId) (subject : Value) (cases : List Case)
    (m : Machine) : List (String × Value) → Except Stop (Option Block) × Machine → Prop
  | none {log : List (String × Value)} {n : Machine}
    (pass : CasesPass ev scope subject cases m log n) :
    Selects ev scope subject cases m log (.ok none, n)
  | decided {before after : List Case} {c : Case} {log captures : List (String × Value)}
    {m₁ : Machine} {outcome : Except Stop (Option Block) × Machine}
    (split : cases = before ++ c :: after) (pass : CasesPass ev scope subject before m log m₁)
    (decides : CaseDecides ev scope subject c m₁ captures outcome) :
    Selects ev scope subject cases m (log ++ captures) outcome

theorem on_holds {guard : Expr} {answer : Bool} (guards : Guards ev scope guard m answer n) :
    (ev.holds scope guard).on m = (.ok answer, n) := by
  obtain ⟨evaluated, rfl⟩ := guards
  rw [Evaluator.holds, on_bind_ok evaluated]
  rfl

/-- A case whose pattern fits binds its captures and goes on with its guard. -/
theorem on_selectCase_of_fits (fits : c.pattern.Captures m.heap subject captures)
    (cases : List Case) :
    (selectCase ev scope subject (c :: cases)).on m =
      (do
        if ← guardHolds ev scope c.guard then return some c.body
        else selectCase ev scope subject cases : Eval (Option Block)).on
        (m.binding scope captures) := by
  rw [selectCase, on_bind_ok (on_heap m), Pattern.captures?_eq_some_iff.2 fits]
  exact on_bind_ok (on_bindCaptures scope captures m) _

theorem on_selectCase_of_casePasses (passes : CasePasses ev scope subject c m captures n)
    (cases : List Case) :
    (selectCase ev scope subject (c :: cases)).on m = (selectCase ev scope subject cases).on n := by
  cases passes with
  | misfit never =>
    have none : c.pattern.captures? m.heap subject = none :=
      Option.eq_none_iff_forall_ne_some.2 fun captures fits =>
        never captures (Pattern.captures?_eq_some_iff.1 fits)
    rw [selectCase, on_bind_ok (on_heap m), none]
  | refused fits guarded refuses =>
    rw [on_selectCase_of_fits fits, guarded, guardHolds, on_bind_ok (on_holds refuses)]
    rfl

theorem on_selectCase_of_caseDecides (decides : CaseDecides ev scope subject c m captures outcome)
    (cases : List Case) : (selectCase ev scope subject (c :: cases)).on m = outcome := by
  cases decides with
  | unguarded fits free =>
    rw [on_selectCase_of_fits fits, free]
    rfl
  | accepted fits guarded accepts =>
    rw [on_selectCase_of_fits fits, guarded, guardHolds, on_bind_ok (on_holds accepts)]
    rfl
  | failed fits guarded stopped =>
    have failed : (ev.holds scope _).on (m.binding scope captures) = _ := on_bind_error stopped _
    rw [on_selectCase_of_fits fits, guarded, guardHolds, on_bind_error failed]

theorem passes_or_decides (ev : Evaluator) (scope : ScopeId) (subject : Value) (c : Case)
    (m : Machine) : (∃ captures n, CasePasses ev scope subject c m captures n) ∨
      ∃ captures outcome, CaseDecides ev scope subject c m captures outcome := by
  cases found : c.pattern.captures? m.heap subject with
  | none =>
    refine .inl ⟨_, _, .misfit fun captures fits => ?_⟩
    rw [Pattern.captures?_eq_some_iff.2 fits] at found
    cases found
  | some captures =>
    have fits := Pattern.captures?_eq_some_iff.1 found
    cases guarded : c.guard with
    | none => exact .inr ⟨_, _, .unguarded fits guarded⟩
    | some guard =>
      generalize evaluated : (ev.eval guard scope).on (m.binding scope captures) = answer
      obtain ⟨s | v, n⟩ := answer
      · exact .inr ⟨_, _, .failed fits guarded evaluated⟩
      · cases answered : v.isTruthy n.heap with
        | false => exact .inl ⟨_, _, .refused fits guarded (.intro evaluated answered)⟩
        | true => exact .inr ⟨_, _, .accepted fits guarded (.intro evaluated answered)⟩

theorem on_selectCase_of_casesPass (pass : CasesPass ev scope subject before m log n)
    (cases : List Case) :
    (selectCase ev scope subject (before ++ cases)).on m =
      (selectCase ev scope subject cases).on n := by
  induction pass with
  | none m => rfl
  | next passes rest ih => rw [List.cons_append, on_selectCase_of_casePasses passes, ih]

theorem Selects.on_selectCase (selects : Selects ev scope subject cases m log outcome) :
    (selectCase ev scope subject cases).on m = outcome := by
  cases selects with
  | none pass =>
    have last := on_selectCase_of_casesPass pass []
    rw [List.append_nil] at last
    exact last
  | decided split pass decides =>
    rw [split, on_selectCase_of_casesPass pass, on_selectCase_of_caseDecides decides]

theorem exists_selects (ev : Evaluator) (scope : ScopeId) (subject : Value) (cases : List Case)
    (m : Machine) : ∃ log outcome, Selects ev scope subject cases m log outcome := by
  induction cases generalizing m with
  | nil => exact ⟨_, _, .none (.none m)⟩
  | cons c cases ih =>
    obtain ⟨captures, n, passes⟩ | ⟨captures, outcome, decides⟩ :=
      passes_or_decides ev scope subject c m
    · obtain ⟨log, outcome, selects⟩ := ih n
      refine ⟨captures ++ log, outcome, ?_⟩
      cases selects with
      | none pass => exact .none (.next passes pass)
      | decided split pass decides =>
        rw [← List.append_assoc]
        exact .decided (congrArg (c :: ·) split) (.next passes pass) decides
    · exact ⟨_, _, .decided (List.nil_append _).symm (.none m) decides⟩

end Cases

/-! ## The statement -/

section Statement

variable {ev : Evaluator} {scope : ScopeId} {subject : Expr} {cases : List Case} {m n : Machine}
  {log : List (String × Value)}

/-- **What a `match` statement does up to its choice**: it evaluates its subject,
once, and tries the cases. -/
inductive Chooses (ev : Evaluator) (scope : ScopeId) (subject : Expr) (cases : List Case)
    (m : Machine) : List (String × Value) → Except Stop (Option Block) × Machine → Prop
  | noSubject {s : Stop} {n : Machine} (stopped : (ev.eval subject scope).on m = (.error s, n)) :
    Chooses ev scope subject cases m [] (.error s, n)
  | selects {v : Value} {log : List (String × Value)} {m₁ : Machine}
    {outcome : Except Stop (Option Block) × Machine}
    (evaluated : (ev.eval subject scope).on m = (.ok v, m₁))
    (selects : Selects ev scope v cases m₁ log outcome) : Chooses ev scope subject cases m log outcome

/-- **How code goes on from a choice**: with the error that kept it from one, or
with what is next for the body that is chosen or for none. -/
inductive GoesOn (ev : Evaluator) (scope : ScopeId) (subject : Expr) (cases : List Case)
    {α : Type} (next : Option Block → Eval α) (m : Machine) : Except Stop α × Machine → Prop
  | stopped {log : List (String × Value)} {s : Stop} {n : Machine}
    (chooses : Chooses ev scope subject cases m log (.error s, n)) :
    GoesOn ev scope subject cases next m (.error s, n)
  | chosen {log : List (String × Value)} {body : Option Block} {n : Machine}
    (chooses : Chooses ev scope subject cases m log (.ok body, n)) :
    GoesOn ev scope subject cases next m ((next body).on n)

theorem Chooses.on_bind {outcome : Except Stop (Option Block) × Machine}
    (chooses : Chooses ev scope subject cases m log outcome) {α : Type}
    (next : Option Block → Eval α) :
    (do next (← selectCase ev scope (← ev.eval subject scope) cases)).on m =
      (Eval.ofStop outcome.1 >>= next).on outcome.2 := by
  have chosen : (do selectCase ev scope (← ev.eval subject scope) cases).on m = outcome := by
    cases chooses with
    | noSubject stopped => exact on_bind_error stopped _
    | selects evaluated selects => exact (on_bind_ok evaluated _).trans selects.on_selectCase
  rw [← bind_assoc, Eval.on_bind, chosen, Eval.on_bind, on_ofStop]

theorem exists_chooses (ev : Evaluator) (scope : ScopeId) (subject : Expr) (cases : List Case)
    (m : Machine) : ∃ log outcome, Chooses ev scope subject cases m log outcome := by
  generalize evaluated : (ev.eval subject scope).on m = answer
  obtain ⟨s | v, m₁⟩ := answer
  · exact ⟨_, _, .noSubject evaluated⟩
  · obtain ⟨log, outcome, selects⟩ := exists_selects ev scope v cases m₁
    exact ⟨log, outcome, .selects evaluated selects⟩

/-- **Code that chooses a case goes on in this way**, and in no other. -/
theorem goesOn_iff {α : Type} {next : Option Block → Eval α} {outcome : Except Stop α × Machine} :
    GoesOn ev scope subject cases next m outcome ↔
      (do next (← selectCase ev scope (← ev.eval subject scope) cases)).on m = outcome := by
  constructor
  · intro goesOn
    cases goesOn with
    | stopped chooses => exact chooses.on_bind next
    | chosen chooses => exact chooses.on_bind next
  · rintro rfl
    obtain ⟨log, ⟨s | body, n⟩, chooses⟩ := exists_chooses ev scope subject cases m
    · exact chooses.on_bind next ▸ .stopped chooses
    · exact chooses.on_bind next ▸ .chosen chooses

end Statement

end MeteredScript
