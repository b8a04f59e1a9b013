import MeteredScript.Proofs.Regime.Primitive
import MeteredScript.Proofs.Unpacking.Assignment

/-!
# How a call binds its arguments

A call goes through parameters and arguments side by side. Here is said by position what comes
of it: the parameter at a position is bound to the argument there, and past the arguments to
its default (`mem_matchArguments`). The parameters past the arguments that have no default are
the ones that the call lacks, in order (`matchArguments_snd`).

A call whose arguments are refused does nothing at all. One whose arguments are bound goes on
on the same machine with one more scope (`BindsArguments`).
-/

namespace MeteredScript

open Eval

variable {parameters : List (String × Option Value)} {arguments : List Value}
  {bound : List (String × Value)} {name x : String} {v : Value} {why : TypeFault}

/-! ## Positions -/

/-- **The parameters that a call lacks**: those past its arguments that have no default. -/
def lacking (parameters : List (String × Option Value)) (arguments : List Value) : List String :=
  ((parameters.drop arguments.length).filter (·.2.isNone)).map Prod.fst

/-- Each parameter past the arguments has a default just if the call lacks none. -/
theorem lacking_eq_nil_iff :
    lacking parameters arguments = [] ↔ ∀ p ∈ parameters.drop arguments.length, p.2.isSome := by
  simp [lacking, List.filter_eq_nil_iff, Option.isSome_iff_ne_none]

theorem matchArguments_snd :
    (matchArguments parameters arguments).2 = lacking parameters arguments := by
  fun_induction matchArguments parameters arguments <;> simp_all [lacking]

/-- **What is bound**: the parameter at each position, to the argument there or else to its
default. -/
theorem mem_matchArguments : (x, v) ∈ (matchArguments parameters arguments).1 ↔
    ∃ (i : Nat) (p : String × Option Value),
      parameters[i]? = some p ∧ p.1 = x ∧ arguments[i]?.or p.2 = some v := by
  fun_induction matchArguments parameters arguments with
  | case1 => simp
  | case2 name fallback rest w arguments bound missing same ih =>
    rw [← Nat.or_exists_add_one]
    simp_all [eq_comm]
  | case3 name fallback rest bound missing same ih =>
    rw [← Nat.or_exists_add_one]
    simp_all [eq_comm]
  | case4 name rest bound missing same ih =>
    rw [← Nat.or_exists_add_one]
    simp_all

/-- **The bindings of a call, or why there are none.** -/
theorem bindArguments_eq (name : String) (parameters : List (String × Option Value))
    (arguments : List Value) : bindArguments name parameters arguments =
      if parameters.length < arguments.length then
        .error (.tooManyArguments name parameters.length arguments.length)
      else if lacking parameters arguments = [] then .ok (matchArguments parameters arguments).1
      else .error (.missingArguments name (lacking parameters arguments)) := by
  rw [bindArguments, ← matchArguments_snd]
  rcases matchArguments parameters arguments with ⟨bound, _ | ⟨first, rest⟩⟩ <;> rfl

theorem bindArguments_eq_ok_iff : bindArguments name parameters arguments = .ok bound ↔
    arguments.length ≤ parameters.length ∧ lacking parameters arguments = [] ∧
      (matchArguments parameters arguments).1 = bound := by
  rw [bindArguments_eq]
  split
  · simp_all
  · split <;> simp_all

theorem bindArguments_eq_error_iff : bindArguments name parameters arguments = .error why ↔
    (parameters.length < arguments.length ∧
        why = .tooManyArguments name parameters.length arguments.length) ∨
      (arguments.length ≤ parameters.length ∧ lacking parameters arguments ≠ [] ∧
        why = .missingArguments name (lacking parameters arguments)) := by
  rw [bindArguments_eq, eq_comm (a := why), eq_comm (a := why)]
  split
  · simp_all
  · split <;> simp_all

/-! ## The scope of a call -/

section Opening

variable {f : Function} {id : FunctionId} {m n : Machine} {ev : Evaluator} {scope other : ScopeId}

/-- The life that a call begins, if it makes a generator. -/
def Function.beginning (f : Function) : Option GeneratorState :=
  match f.isGenerator, f.body with
  | true, .block body => some (.notStarted body)
  | _, _ => none

/-- **What a call does in its scope**: it makes a generator, or it runs the body. -/
def Function.goOn (f : Function) (ev : Evaluator) (name : String) (scope : ScopeId) :
    Eval Value :=
  match f.isGenerator, f.body with
  | true, .block _ => return .generator ⟨scope⟩ name
  | _, body => callBody ev body scope

/-- **The machine on which the scope of a call is open.** -/
def Machine.opening (m : Machine) (f : Function) (bound : List (String × Value)) : Machine :=
  { m with scopes := (m.scopes.addScope .function (some f.closure) f.beginning).2 }.binding
    ⟨m.scopes.scopes.size⟩ bound

theorem on_defineAll (scope : ScopeId) (bound : List (String × Value)) (m : Machine) :
    (defineAll scope bound).on m = (.ok (), m.binding scope bound) := by
  induction bound generalizing m with
  | nil => rfl
  | cons b rest ih => exact (on_bind_ok rfl _).trans (ih _)

theorem on_function (leads : m.function id = f) : (Eval.function id).on m = (.ok f, m) := by
  rw [← leads]
  rfl

/-- **A call whose arguments are bound** goes on in its scope. -/
theorem on_callFunction_of_ok (leads : m.function id = f)
    (binds : bindArguments name f.parameters arguments = .ok bound) (ev : Evaluator) :
    (callFunction ev id name arguments).on m =
      (f.goOn ev name ⟨m.scopes.scopes.size⟩).on (m.opening f bound) := by
  rw [callFunction, on_bind_ok (on_function leads), binds, on_bind_ok rfl]
  obtain ⟨parameters, body, closure, isGenerator⟩ := f
  match isGenerator, body with
  | true, .block body =>
    exact (on_bind_ok rfl _).trans (on_bind_ok (on_defineAll _ bound _) _)
  | true, .expr _ | false, .block _ | false, .expr _ =>
    exact (on_bind_ok rfl _).trans (on_bind_ok (on_defineAll _ bound _) _)

/-- **A call whose arguments are refused** does nothing. -/
theorem on_callFunction_of_error (leads : m.function id = f)
    (refused : bindArguments name f.parameters arguments = .error why) (ev : Evaluator) :
    (callFunction ev id name arguments).on m = (.error (.fault (.typeFault why)), m) := by
  rw [callFunction, on_bind_ok (on_function leads), refused]
  exact on_bind_error (on_fail _ m) _

/-! ## What is bound -/

/-- Parameters with names of their own are told apart by them. -/
theorem position_eq (distinct : (parameters.map Prod.fst).Nodup) {i j : Nat}
    {p q : String × Option Value} (here : parameters[i]? = some p) (there : parameters[j]? = some q)
    (same : q.1 = p.1) : j = i := by
  have inside : j < (parameters.map Prod.fst).length := by
    simpa using (List.getElem?_eq_some_iff.1 there).1
  refine (List.getElem?_inj inside distinct).1 ?_
  rw [List.getElem?_map, List.getElem?_map, here, there, Option.map_some, Option.map_some, same]

/-- A call that lacks no parameter has a value for each. -/
theorem exists_given (none : lacking parameters arguments = []) {i : Nat}
    {p : String × Option Value} (here : parameters[i]? = some p) :
    ∃ v, arguments[i]?.or p.2 = some v := by
  rcases Nat.lt_or_ge i arguments.length with given | past
  · exact ⟨arguments[i], by rw [List.getElem?_eq_getElem given, Option.some_or]⟩
  · have listed : p ∈ parameters.drop arguments.length :=
      List.mem_iff_getElem?.2 ⟨i - arguments.length, by
        rw [List.getElem?_drop, Nat.add_sub_cancel' past, here]⟩
    rw [List.getElem?_eq_none past, Option.none_or]
    exact Option.isSome_iff_exists.1 (lacking_eq_nil_iff.1 none p listed)

theorem size_binding (m : Machine) (scope : ScopeId) (bound : List (String × Value)) :
    (m.binding scope bound).scopes.scopes.size = m.scopes.scopes.size := by
  induction bound generalizing m with
  | nil => rfl
  | cons b rest ih =>
    refine (ih { m with scopes := m.scopes.define scope b.1 b.2 }).trans ?_
    exact m.scopes.size_define scope b.1 b.2

/-- Bindings are made in one scope, and leave all but the bindings of it. -/
theorem scope?_binding_of_ne (apart : other ≠ scope) (m : Machine)
    (bound : List (String × Value)) :
    (m.binding scope bound).scopes.scope? other = m.scopes.scope? other := by
  induction bound generalizing m with
  | nil => rfl
  | cons b rest ih =>
    refine (ih { m with scopes := m.scopes.define scope b.1 b.2 }).trans ?_
    exact m.scopes.scope?_define_of_ne scope apart b.1 b.2

theorem exists_scope?_binding {s : Scope} (there : m.scopes.scope? scope = some s)
    (bound : List (String × Value)) :
    ∃ own, (m.binding scope bound).scopes.scope? scope = some { s with bindings := own } := by
  induction bound generalizing m s with
  | nil => exact ⟨s.bindings, there⟩
  | cons b rest ih =>
    have defined : (m.scopes.define scope b.1 b.2).scope? scope =
        some { s with bindings := s.bindings.insert b.1 b.2 } := by
      rw [m.scopes.scope?_define_self scope, there, Option.map_some]
    obtain ⟨own, found⟩ := ih (m := { m with scopes := m.scopes.define scope b.1 b.2 }) defined
    exact ⟨own, found⟩

/-- **The scope of a call is open**: there is one scope more, and nothing else has changed. -/
structure Opened (f : Function) (arguments : List Value) (m n : Machine) : Prop where
  machine : n = { m with scopes := n.scopes }
  size : n.scopes.scopes.size = m.scopes.scopes.size + 1
  others {s : ScopeId} : s.index < m.scopes.scopes.size →
    n.scopes.scope? s = m.scopes.scope? s
  /-- The scope stands in that of the definition. -/
  shape : ∃ own, n.scopes.scope? ⟨m.scopes.scopes.size⟩ =
    some ⟨.function, own, some f.closure, f.beginning⟩
  /-- The parameter at each position is bound to the argument there, or else to its default. -/
  bound {i : Nat} {p : String × Option Value} : f.parameters[i]? = some p →
    ∃ v, arguments[i]?.or p.2 = some v ∧
      n.scopes.findLocal? ⟨m.scopes.scopes.size⟩ p.1 = some v
  /-- Nothing else is. -/
  only {x : String} : x ∉ f.parameters.map Prod.fst →
    n.scopes.findLocal? ⟨m.scopes.scopes.size⟩ x = none

theorem opened_opening (distinct : (f.parameters.map Prod.fst).Nodup)
    (binds : bindArguments name f.parameters arguments = .ok bound) :
    Opened f arguments m (m.opening f bound) := by
  obtain ⟨-, complete, rfl⟩ := bindArguments_eq_ok_iff.1 binds
  have size : (m.scopes.addScope .function (some f.closure) f.beginning).2.scopes.size =
      m.scopes.scopes.size + 1 := m.scopes.size_addScope _ _ _
  have inside : m.scopes.scopes.size <
      (m.scopes.addScope .function (some f.closure) f.beginning).2.scopes.size := by omega
  have new : (m.scopes.addScope .function (some f.closure) f.beginning).2.scope?
      ⟨m.scopes.scopes.size⟩ = some ⟨.function, .empty, some f.closure, f.beginning⟩ :=
    m.scopes.scope?_addScope_self _ _ _
  refine ⟨rfl, (size_binding _ _ _).trans size, fun {s} old => ?_, ?_, fun {i p} here => ?_,
    fun {x} unlisted => ?_⟩
  · have apart : s ≠ ⟨m.scopes.scopes.size⟩ := fun same => by simp [same] at old
    refine (scope?_binding_of_ne apart _ _).trans ?_
    exact m.scopes.scope?_addScope_of_ne s _ _ _ (Nat.ne_of_lt old)
  · exact exists_scope?_binding (m := { m with scopes := _ }) new _
  · obtain ⟨v, given⟩ := exists_given complete here
    refine ⟨v, given, findLocal?_binding_of_mem (mem_matchArguments.2 ⟨i, p, here, rfl, given⟩)
      (fun w listed => ?_) inside⟩
    obtain ⟨j, q, there, same, given'⟩ := mem_matchArguments.1 listed
    obtain rfl := position_eq distinct here there same
    obtain rfl := Option.some.inj (here.symm.trans there)
    exact Option.some.inj (given'.symm.trans given)
  · refine (findLocal?_binding_of_not_mem (fun _ v listed => unlisted ?_) inside).trans ?_
    · obtain ⟨i, p, here, rfl, -⟩ := mem_matchArguments.1 listed
      exact List.mem_map_of_mem (List.mem_of_getElem? here)
    · rw [ScopeTree.findLocal?, ScopeTree.bindings, new]
      rfl

/-! ## Calls -/

/-- **How a function binds the arguments of its calls** on a machine, with any evaluator. -/
structure BindsArguments (f : Function) (id : FunctionId) (name : String) (m : Machine) :
    Prop where
  /-- The arguments are bound just if there are no more of them than parameters, and each
  parameter past them has a default. -/
  succeeds (arguments : List Value) :
    (∃ bound, bindArguments name f.parameters arguments = .ok bound) ↔
      arguments.length ≤ f.parameters.length ∧
        ∀ p ∈ f.parameters.drop arguments.length, p.2.isSome
  /-- The call then goes on in a scope that binds the parameters and nothing else. -/
  opens (ev : Evaluator) {arguments : List Value} : arguments.length ≤ f.parameters.length →
    (∀ p ∈ f.parameters.drop arguments.length, p.2.isSome) → ∃ n, Opened f arguments m n ∧
      (callValue ev (.function id name) arguments).on m =
        (f.goOn ev name ⟨m.scopes.scopes.size⟩).on n
  /-- With too many arguments the call is refused, and nothing else happens. -/
  tooMany (ev : Evaluator) {arguments : List Value} : f.parameters.length < arguments.length →
    (callValue ev (.function id name) arguments).on m =
      (.error (.fault (.typeFault
        (.tooManyArguments name f.parameters.length arguments.length))), m)
  /-- So is a call that lacks parameters, and the report names them in order. -/
  missing (ev : Evaluator) {arguments : List Value} : arguments.length ≤ f.parameters.length →
    ¬ (∀ p ∈ f.parameters.drop arguments.length, p.2.isSome) →
    (callValue ev (.function id name) arguments).on m =
      (.error (.fault (.typeFault
        (.missingArguments name (lacking f.parameters arguments)))), m)

theorem binds_arguments (distinct : (f.parameters.map Prod.fst).Nodup)
    (leads : m.function id = f) (name : String) : BindsArguments f id name m where
  succeeds arguments := by
    simp only [bindArguments_eq_ok_iff, lacking_eq_nil_iff, exists_and_left, exists_eq', and_true]
  opens ev arguments fits complete := by
    have binds : bindArguments name f.parameters arguments =
        .ok (matchArguments f.parameters arguments).1 :=
      bindArguments_eq_ok_iff.2 ⟨fits, lacking_eq_nil_iff.2 complete, rfl⟩
    exact ⟨_, opened_opening distinct binds, on_callFunction_of_ok leads binds ev⟩
  tooMany ev arguments exceeds :=
    on_callFunction_of_error leads (bindArguments_eq_error_iff.2 (.inl ⟨exceeds, rfl⟩)) ev
  missing ev arguments fits incomplete := by
    have lacks : lacking f.parameters arguments ≠ [] := fun none =>
      incomplete (lacking_eq_nil_iff.1 none)
    exact on_callFunction_of_error leads
      (bindArguments_eq_error_iff.2 (.inr ⟨fits, lacks, rfl⟩)) ev

end Opening

end MeteredScript
