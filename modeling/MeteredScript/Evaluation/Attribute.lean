import MeteredScript.Evaluation.Monad

/-!
# Attributes

What `object.name` means. Classes of a script have the names that their
bodies bound, functions have a `__name__`, exceptions have the value they
carry and the tuple of what they were made with. Values of the built-in types
have methods; looking one up makes a bound method. Only classes of a script
have attributes that can be set.
-/

namespace MeteredScript

/-- The methods of a value, by the sort of value it is. -/
def Value.methods : Value → List String
  | .list _ => ["append", "extend", "pop"]
  | .set _ => ["add", "update", "remove", "discard"]
  | .dict _ => ["get", "keys", "values", "items"]
  | .str _ => ["count", "join", "upper"]
  | .generator .. => ["send", "throw", "close"]
  | _ => []

/-- Whether a value has a method of a name. -/
def Value.hasMethod (v : Value) (name : String) : Bool := v.methods.contains name

/-- The name of something that can be called, unless it is a class of the
script. -/
def Value.callableName? : Value → Option String
  | .function _ name => some name
  | .builtin b => some b.name
  | .method _ _ name => some name
  | .exceptionClass kind => some kind.name
  | _ => Option.none

/-- What an exception object was made with. -/
def exceptionArguments (message : Option String) (carried : Value) : List Value :=
  match message with
  | some text => [.str text]
  | none => if carried.isNone then [] else [carried]

namespace Eval

/-- The attribute of a class of the script: one that its body or a later
assignment bound. -/
def classAttribute (className : String) (scope : ScopeId) (name : String) : Eval Value := do
  match ← own? scope name with
  | some v => return v
  | none => fail (.noClassAttribute className name)

/-- A method of a value, bound to it. -/
def boundMethod (receiver : Value) (name : String) : Eval Value := do
  if receiver.hasMethod name then return .method (← newSerial) receiver name
  else fail (.noAttribute receiver.typeName name)

/-- **The value of `object.name`.** -/
def getAttribute (object : Value) (name : String) : Eval Value :=
  match object with
  | .classObject className scope =>
    if name = "__name__" then pure (.str className) else classAttribute className scope name
  | .exception _ _ message carried =>
    if name = "value" then pure carried
    else if name = "args" then pure (.tuple (exceptionArguments message carried))
    else boundMethod object name
  | object =>
    match object.callableName?, name with
    | some callable, "__name__" => pure (.str callable)
    | _, _ => boundMethod object name

/-- **Store to `object.name`.** -/
def setAttribute (object : Value) (name : String) (value : Value) : Eval Unit :=
  match object with
  | .classObject _ scope => define scope name value
  | object => fail (.readOnlyAttribute object.typeName name)

end Eval

end MeteredScript
