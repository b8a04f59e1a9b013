import MeteredScript.Proofs.Binding.Arguments
import MeteredScript.Proofs.Lifecycle.Permanence
import MeteredScript.Proofs.Mutation.ReadBack

/-!
# Functions bind their arguments as they were defined

A definition computes the defaults of its parameters once, from the left, where it stands
(`DefaultsGive`), and the function it makes keeps their values (`Defines.made`). Since
functions stay, each call that comes later, however much later, binds a parameter without an
argument to that same value (`arguments_are_bound_exactly`).
-/

namespace MeteredScript

open Eval

variable {ev : Evaluator} {scope : ScopeId} {name : String} {parameters : List Parameter}
  {body : FunctionBody} {given : List (String × Option Value)} {m n : Machine} {v : Value}

/-! ## Defaults -/

/-- **What defaults give**: each is evaluated once, from the left, in the scope of the
definition. -/
inductive DefaultsGive (ev : Evaluator) (scope : ScopeId) :
    List Parameter → Machine → List (String × Option Value) → Machine → Prop
  | nil (m : Machine) : DefaultsGive ev scope [] m [] m
  | required {name : String} {rest : List Parameter} {given : List (String × Option Value)}
    {m n : Machine} : DefaultsGive ev scope rest m given n →
    DefaultsGive ev scope (⟨name, none⟩ :: rest) m ((name, none) :: given) n
  | optional {name : String} {e : Expr} {rest : List Parameter} {v : Value}
    {given : List (String × Option Value)} {m k n : Machine} :
    (ev.eval e scope).on m = (.ok v, k) → DefaultsGive ev scope rest k given n →
    DefaultsGive ev scope (⟨name, some e⟩ :: rest) m ((name, some v) :: given) n

theorem defaultsGive_of_on (run : (evalParameters ev scope parameters).on m = (.ok given, n)) :
    DefaultsGive ev scope parameters m given n := by
  induction parameters generalizing m given with
  | nil =>
    cases run
    exact .nil _
  | cons p rest ih =>
    obtain ⟨fallback, k, first, more⟩ := on_bind_eq_ok_iff.1 run
    obtain ⟨others, l, following, last⟩ := on_bind_eq_ok_iff.1 more
    cases last
    obtain ⟨x, _ | e⟩ := p
    · cases first
      exact .required (ih following)
    · obtain ⟨v, k, evaluated, last⟩ := on_bind_eq_ok_iff.1 first
      cases last
      exact .optional evaluated (ih following)

/-- There is a value or none for each parameter, in order. -/
theorem DefaultsGive.names (gives : DefaultsGive ev scope parameters m given n) :
    given.map Prod.fst = parameters.map Parameter.name := by
  induction gives with
  | nil => rfl
  | required _ ih | optional _ _ ih => rw [List.map_cons, List.map_cons, ih]

/-! ## Definitions -/

/-- Whether calls make a generator. -/
def FunctionBody.yields : FunctionBody → Bool
  | .block body => blockYields body
  | .expr _ => false

/-- **What defines a function**: a statement, which binds it to its name, or a lambda, of which
it is the value. -/
inductive Defines (ev : Evaluator) (scope : ScopeId) (m : Machine) :
    String → List Parameter → FunctionBody → Value → Machine → Prop
  | statement {name : String} {parameters : List Parameter} {body : Block} {v : Value}
    {n : Machine} : (execForm ev scope (.function name parameters body)).on m = (.ok (), n) →
    n.scopes.findLocal? scope name = some v →
    Defines ev scope m name parameters (.block body) v n
  | lambda {parameters : List Parameter} {body : Expr} {v : Value} {n : Machine} :
    (evalForm ev scope (.lambda parameters body)).on m = (.ok v, n) →
    Defines ev scope m lambdaName parameters (.expr body) v n

/-- A scope finds what it was given, if it finds anything. -/
theorem eq_of_findLocal?_define {t : ScopeTree} {w : Value}
    (found : (t.define scope name v).findLocal? scope name = some w) : w = v := by
  rcases Nat.lt_or_ge scope.index t.scopes.size with inside | outside
  · rw [t.findLocal?_define_self inside] at found
    exact (Option.some.inj found).symm
  · have missing : (t.define scope name v).scope? scope = none := by
      rw [t.scope?_define_self, ScopeTree.scope?, Array.getElem?_eq_none outside]
      rfl
    rw [ScopeTree.findLocal?, ScopeTree.bindings, missing] at found
    cases found

/-- The newest function is there, under the newest pointer. -/
theorem Machine.function_newest (m : Machine) (f : Function) :
    m.functions.size < (m.functions.push f).size ∧
      { m with functions := m.functions.push f }.function ⟨m.functions.size⟩ = f := by
  refine ⟨by rw [Array.size_push]; omega, ?_⟩
  rw [Machine.function, Array.getD_eq_getD_getElem?, Array.getElem?_push_size, Option.getD_some]

/-- **The function that a definition makes** keeps the values of the defaults. -/
theorem Defines.made (defines : Defines ev scope m name parameters body v n) :
    ∃ given k id, DefaultsGive ev scope parameters m given k ∧ v = .function id name ∧
      id.index < n.functions.size ∧
      n.function id = ⟨given, body, scope, body.yields⟩ := by
  cases defines with
  | @statement _ _ block _ _ run found =>
    obtain ⟨given, k, defaults, rest⟩ := on_bind_eq_ok_iff.1 run
    refine ⟨given, k, ⟨k.functions.size⟩, defaultsGive_of_on defaults, ?_⟩
    cases rest
    obtain rfl := eq_of_findLocal?_define found
    exact ⟨rfl, k.function_newest _⟩
  | lambda run =>
    obtain ⟨given, k, defaults, rest⟩ := on_bind_eq_ok_iff.1 run
    refine ⟨given, k, ⟨k.functions.size⟩, defaultsGive_of_on defaults, ?_⟩
    cases rest
    exact ⟨rfl, k.function_newest _⟩

/-- **Arguments are bound as the function was defined**, on each machine that keeps its
functions, and these are all that come after the definition. -/
theorem arguments_are_bound_exactly (defines : Defines ev scope m name parameters body v n)
    (distinct : (parameters.map Parameter.name).Nodup) :
    ∃ given k id, DefaultsGive ev scope parameters m given k ∧ v = .function id name ∧
      (∀ later, n.KeepsFunctions later →
        BindsArguments ⟨given, body, scope, body.yields⟩ id name later) ∧
      FunctionsStay n := by
  obtain ⟨given, k, id, gives, made, there, leads⟩ := defines.made
  refine ⟨given, k, id, gives, made, fun later kept => ?_, functions_stay n⟩
  refine binds_arguments ?_ ((kept.function_eq there).trans leads) name
  rw [gives.names]
  exact distinct

/-- The parameters of `def middle(a, b=[], c): pass`. -/
def middleParameters : List Parameter :=
  [⟨"a", none⟩, ⟨"b", some (.list [])⟩, ⟨"c", none⟩]

/-- The body of that function. -/
def middleBody : Block := [StmtForm.synthetic .pass]

/-- A default in the middle stays with its parameter, so a call with one argument lacks the last
one alone. -/
theorem middle_default_is_kept :
    let s := Session.start .standard
    let defined := (execForm (.bounded 5) s.globals
      (.function "middle" middleParameters middleBody)).on s.machine
    let middle := Value.function ⟨0⟩ "middle"
    Defines (.bounded 5) s.globals s.machine "middle" middleParameters (.block middleBody) middle
        defined.2 ∧ (middleParameters.map Parameter.name).Nodup ∧
      ∀ ev later, defined.2.KeepsFunctions later →
        (callValue ev middle [.int 1]).on later =
          (.error (.fault (.typeFault (.missingArguments "middle" ["c"]))), later) := by
  intro s defined middle
  have defines : Defines (.bounded 5) s.globals s.machine "middle" middleParameters
      (.block middleBody) middle defined.2 := .statement rfl rfl
  have distinct : (middleParameters.map Parameter.name).Nodup := by decide
  obtain ⟨given, k, id, gives, made, binds, -⟩ := arguments_are_bound_exactly defines distinct
  refine ⟨defines, distinct, fun ev later kept => ?_⟩
  obtain rfl : ⟨0⟩ = id := (Value.function.inj made).1
  cases gives with
  | required gives =>
    cases gives with
    | optional _ gives =>
      cases gives with
      | required gives =>
        cases gives
        exact (binds later kept).missing ev (by simp) (by simp)

end MeteredScript
