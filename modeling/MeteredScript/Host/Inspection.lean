import MeteredScript.Machine.Scope
import MeteredScript.Text.Literal

/-!
# Looking at scopes

The text that shows a scope to a developer: its kind, the names it binds and
whether it stands in another scope.
-/

namespace MeteredScript

/-- The name of a kind of scope. -/
def ScopeKind.name : ScopeKind → String
  | module => "Module"
  | function => "Function"
  | classBody => "Class"
  | comprehension => "Comprehension"

/-- The kind of scope of a given name. -/
def ScopeKind.ofName? (s : String) : Option ScopeKind :=
  [module, function, classBody, comprehension].find? (·.name == s)

/-- **The text that shows a scope.** -/
def Scope.describe (s : Scope) : String :=
  let names := String.intercalate ", " (s.bindings.names.map Text.literal)
  "Environment \x7b kind: " ++ s.kind.name ++ ", names: [" ++ names ++ "], has_parent: "
    ++ (if s.parent.isSome then "true" else "false") ++ " \x7d"

end MeteredScript
