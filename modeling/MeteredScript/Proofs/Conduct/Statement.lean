import MeteredScript.Evaluation.Statement
import MeteredScript.Host.Session
import MeteredScript.Proofs.Conduct.Expression

/-!
# Statements under a rule

A statement tells the code around it that a `return`, `break` or `continue` was met by stopping
for it. A round of a loop takes the latter two for itself, so a loop whose body is placed has none
left for what is around it (`ending_roundEnd`), and where no loop is around a statement that is
placed there is none to begin with.
-/

namespace MeteredScript

namespace Conduct

variable {c : Conduct} {ev : Evaluator} {inLoop : Bool}

/-- **A round keeps what it is told for itself.** -/
theorem ending_roundEnd {result : Except Stop Unit}
    (ends : Ending (c.Allows true) (fun _ => True) result) (inLoop : Bool) :
    Ending (c.Allows inLoop) (fun _ => True) (roundEnd result) := by
  match result, ends with
  | .ok (), _ | .error .continues, _ | .error .breaks, _ => trivial
  | .error (.fault _), _ | .error (.returns _), _ | .error .gasExhausted, _
  | .error .endless, _ => exact fun _ => rfl

theorem allows_endless : c.Allows inLoop .endless := fun _ => rfl

namespace Binds

variable (h : c.Binds ev)

include h

/-! ## Loops -/

theorem runRound (scope : ScopeId) {body : Block}
    (placed : c.strict → blockPlaced true body = true) :
    c.Stands inLoop (runRound ev scope body) :=
  h.before (h.attempt (h.execBlock scope placed)) fun _ ends =>
    Lawful.ofStop (ending_roundEnd ends inLoop)

theorem runWhile (scope : ScopeId) (condition : Expr) {body : Block}
    (placed : c.strict → blockPlaced true body = true) (rounds : Nat) :
    c.Stands inLoop (runWhile ev scope condition body rounds) := by
  induction rounds with
  | zero => exact .throw allows_endless
  | succ rounds ih =>
    refine h.before h.tick fun _ _ => h.before (h.holds scope condition) fun _ _ => ?_
    exact .ite ((h.runRound scope placed).bind fun _ => .ite ih (Stands.pure _)) (Stands.pure _)

theorem runFor (scope : ScopeId) (target : Expr) {body : Block}
    (placed : c.strict → blockPlaced true body = true) (cursor : Cursor) :
    c.Stands inLoop (runFor ev scope target body cursor) := by
  refine h.iterate (fun _ => h.allows_of_stops inLoop) (fun _ item => ?_) _ cursor true
  refine h.before h.tick fun _ _ => h.before (h.assignTarget scope target item) fun _ _ => ?_
  exact (h.runRound scope placed).bind fun _ => .ite (Stands.pure _) (Stands.pure _)

/-! ## Cases and handlers -/

theorem selectCase (scope : ScopeId) (subject : Value) {cases : List Case}
    (placed : c.strict → casesPlaced inLoop cases = true) :
    c.Runs c.Stops (fun body => c.strict → optionalBlockPlaced inLoop body = true)
      (selectCase ev scope subject cases) := by
  have guardHolds (guard : Option Expr) : c.Governs (guardHolds ev scope guard) := by
    cases guard with
    | none => exact .pure true
    | some guard => exact h.holds scope guard
  induction cases with
  | nil => exact .pure fun _ => rfl
  | cons first rest ih =>
    obtain ⟨pattern, guard, body⟩ := first
    simp only [casesPlaced, Bool.and_eq_true, imp_and] at placed
    have chosen : c.strict → optionalBlockPlaced inLoop (some body) = true := placed.1
    refine Runs.bind Lawful.heap fun heap _ => ?_
    split
    · exact ih placed.2
    · exact Runs.bind (h.bindCaptures scope _) fun _ _ => Runs.bind (guardHolds guard) fun _ _ =>
        .ite (.pure chosen) (ih placed.2)

theorem findHandler (scope : ScopeId) (kind : ExceptionKind) {handlers : List Handler}
    (placed : c.strict → handlersPlaced inLoop handlers = true) :
    c.Runs c.Stops
      (fun found => ∀ handler ∈ found, c.strict → blockPlaced inLoop handler.body = true)
      (findHandler ev scope kind handlers) := by
  induction handlers with
  | nil => exact .pure nofun
  | cons handler rest ih =>
    obtain ⟨catches, name, body⟩ := handler
    simp only [handlersPlaced, Bool.and_eq_true, imp_and] at placed
    have first : ∀ handler ∈ some (Handler.mk catches name body),
        c.strict → blockPlaced inLoop handler.body = true := by
      rintro _ ⟨⟩
      exact placed.1
    unfold MeteredScript.findHandler
    split
    · exact .pure first
    · exact Runs.bind (h.eval _ scope) fun _ _ => Runs.bind (h.ofTypeFault _) fun _ _ =>
        .ite (.pure first) (ih placed.2)

theorem bindException (scope : ScopeId) (handler : Handler) (f : Fault) :
    c.Governs (bindException scope handler f) := by
  unfold MeteredScript.bindException
  split
  · exact .pure ()
  · exact (h.newException _).bind fun _ => h.define _ _ _

theorem handleFault (scope : ScopeId) {handlers : List Handler}
    (placed : c.strict → handlersPlaced inLoop handlers = true) (f : Fault) :
    c.Stands inLoop (handleFault ev scope handlers f) := by
  refine h.before (h.findHandler scope f.exceptionKind placed) fun found bodies => ?_
  cases found with
  | none => exact h.stands (h.fail f) inLoop
  | some handler =>
    refine h.before (h.bindException scope handler f) fun _ _ => ?_
    exact h.whileHandling (h.execBlock scope (bodies handler rfl)) f allows_endless

/-! ## `try` statements -/

theorem runGuarded (scope : ScopeId) {body : Block} {handlers : List Handler}
    {orElse : Option Block} (body_placed : c.strict → blockPlaced inLoop body = true)
    (handlers_placed : c.strict → handlersPlaced inLoop handlers = true)
    (orElse_placed : c.strict → optionalBlockPlaced inLoop orElse = true) :
    c.Stands inLoop (runGuarded ev scope body handlers orElse) := by
  refine h.before (h.attempt (h.execBlock scope body_placed)) fun result ends => ?_
  split
  · exact h.execOptional scope orElse_placed
  · exact h.handleFault scope handlers_placed _
  · exact .throw ends

theorem runTry (scope : ScopeId) {body : Block} {handlers : List Handler}
    {orElse last : Option Block} (body_placed : c.strict → blockPlaced inLoop body = true)
    (handlers_placed : c.strict → handlersPlaced inLoop handlers = true)
    (orElse_placed : c.strict → optionalBlockPlaced inLoop orElse = true)
    (last_placed : c.strict → optionalBlockPlaced inLoop last = true) :
    c.Stands inLoop (runTry ev scope body handlers orElse last) :=
  h.before (h.attempt (h.runGuarded scope body_placed handlers_placed orElse_placed))
    fun _ ends => (h.execOptional scope last_placed).bind fun _ => Lawful.ofStop ends

theorem raisedFault (scope : ScopeId) (exception : Option Expr) :
    c.Governs (raisedFault ev scope exception) := by
  cases exception with
  | none => exact .read (fun _ => rfl) fun _ _ _ => trivial
  | some e => exact (h.eval e scope).bind fun _ => (h.ofTypeFault _).bind fun _ => .pure _

/-! ## Definitions -/

/-- The body of a function is code of its own, in no loop. -/
theorem defineFunction (scope : ScopeId) (name : String) (parameters : List Parameter)
    {body : Block} (placed : c.strict → blockPlaced false body = true) :
    c.Governs (defineFunction ev scope name parameters body) :=
  have body_placed : c.strict → (FunctionBody.block body).placed = true := placed
  (h.evalParameters scope parameters).bind fun _ => (h.newFunction name body_placed).bind fun _ =>
    h.define scope name _

theorem defineClass (scope : ScopeId) (name : String) {body : Block}
    (placed : c.strict → blockPlaced inLoop body = true) :
    c.Stands inLoop (defineClass ev scope name body) :=
  h.before (h.newScope _ _) fun inner _ => (h.execBlock inner placed).bind fun _ =>
    h.stands (h.define scope name _) inLoop

/-! ## All statements -/

theorem execForm (scope : ScopeId) {form : StmtForm}
    (placed : c.strict → form.placed inLoop = true) :
    c.Stands inLoop (execForm ev scope form) := by
  have governed {x : Eval Unit} (hx : c.Governs x) : c.Stands inLoop x := h.stands hx inLoop
  cases form with
  | expr value => exact governed ((h.eval value scope).bind fun _ => .pure ())
  | assign targets value =>
    exact governed ((h.eval value scope).bind fun v => h.assignAll scope v targets)
  | augmented target op value => exact governed (h.augmentTarget scope target op value)
  | branch condition body orElse =>
    simp only [StmtForm.placed, Bool.and_eq_true, imp_and] at placed
    exact h.before (h.holds scope condition) fun _ _ =>
      .ite (h.execBlock scope placed.1) (h.execOptional scope placed.2)
  | whileLoop condition body orElse =>
    simp only [StmtForm.placed, Bool.and_eq_true, imp_and] at placed
    exact (h.runWhile scope condition placed.1 _).bind fun _ =>
      .ite (h.execOptional scope placed.2) (Stands.pure ())
  | forLoop target iterable body orElse =>
    simp only [StmtForm.placed, Bool.and_eq_true, imp_and] at placed
    refine h.before (h.eval iterable scope) fun v _ =>
      h.before (h.startIteration v) fun cursor _ => ?_
    exact (h.runFor scope target placed.1 cursor).bind fun _ =>
      .ite (h.execOptional scope placed.2) (Stands.pure ())
  | function name parameters body =>
    exact governed (h.defineFunction scope name parameters placed)
  | classDef name body => exact h.defineClass scope name placed
  | returns value =>
    cases value with
    | none => exact .throw fun _ => rfl
    | some e => exact h.before (h.eval e scope) fun _ _ => .throw fun _ => rfl
  | attempt body handlers orElse last =>
    simp only [StmtForm.placed, Bool.and_eq_true, imp_and] at placed
    obtain ⟨⟨⟨body_placed, handlers_placed⟩, orElse_placed⟩, last_placed⟩ := placed
    exact h.runTry scope body_placed handlers_placed orElse_placed last_placed
  | raise exception => exact governed ((h.raisedFault scope exception).bind fun f => h.fail f)
  | select subject cases =>
    exact h.before (h.eval subject scope) fun v _ =>
      h.before (h.selectCase scope v placed) fun _ body_placed => h.execOptional scope body_placed
  | breaks | continues => exact .throw placed
  | pass => exact .pure ()

/-- **Running a statement keeps to a rule**, where the statement is placed if the rule asks for
that. -/
theorem execStmt {s : Stmt} (scope : ScopeId) (placed : c.strict → s.placed inLoop = true) :
    c.Stands inLoop (execStmt ev s scope) := by
  obtain ⟨span, form⟩ := s
  exact h.before h.tick fun _ _ => h.execForm scope placed

/-- So does running a script. -/
theorem execModule (scope : ScopeId) (last : Value) {body : Block}
    (placed : c.strict → blockPlaced inLoop body = true) :
    c.Stands inLoop (execModule ev scope last body) := by
  induction body generalizing last with
  | nil => exact .pure last
  | cons s rest ih =>
    obtain ⟨span, form⟩ := s
    simp only [blockPlaced, Bool.and_eq_true, imp_and] at placed
    cases form with
    | expr e => exact h.before (h.eval e scope) fun v _ => ih v placed.2
    | _ => exact (h.exec scope placed.1).bind fun _ => ih .none placed.2

end Binds

end Conduct

end MeteredScript
