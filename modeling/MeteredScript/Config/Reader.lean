import MeteredScript.Config.Basic
import MeteredScript.Json.Reader

/-!
# Limits in JSON

Limits are read from an object with the members `gas_limit` and
`max_call_depth`, or from an array with the limits in that order. A limit that
is left out keeps its standard value, and members of other names say nothing.
A limit is a natural number of at most 64 bits, and it may be given only once.
-/

namespace MeteredScript.Config

/-- The limit that a document gives. -/
def limit? : Json → Option Nat
  | .natural n => if n < UInt64.size then some n else none
  | _ => none

/-- The limits that the items of an array give. -/
def ofItems? : List Json → Option Config
  | [] => some .standard
  | [gas] => do return { Config.standard with gasLimit := ← limit? gas }
  | [gas, depth] => do return ⟨← limit? gas, ← limit? depth⟩
  | _ => none

/-- The limit that the members of an object give under a name, which none of
them may give again. -/
def memberLimit? (name : String) (standard : Nat) (members : List (Option String × Json)) :
    Option Nat :=
  match members.filter (·.1 == some name) with
  | [] => some standard
  | [(_, value)] => limit? value
  | _ => none

/-- The limits that the members of an object give. -/
def ofMembers? (members : List (Option String × Json)) : Option Config :=
  if members.all (·.1.isSome) then do
    return ⟨← memberLimit? "gas_limit" standard.gasLimit members,
      ← memberLimit? "max_call_depth" standard.maxCallDepth members⟩
  else none

/-- **The limits that a JSON text gives**, if it gives any. -/
def ofJson? (text : String) : Option Config := do
  match ← Json.parse? text with
  | .object members => ofMembers? members
  | .array items => ofItems? items
  | _ => none

end MeteredScript.Config
