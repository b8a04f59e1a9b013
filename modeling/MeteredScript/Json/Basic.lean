/-!
# JSON documents

The structure of a JSON document, as far as reading limits from one needs it.
Of numbers it only matters whether they are written as natural numbers. A
string can be written with escapes that do not make up characters; it then
has no text, but the document is still well formed.
-/

namespace MeteredScript

/-- **A JSON document.** -/
inductive Json where
  | null
  | bool (b : Bool)
  /-- A number written with decimal digits alone. -/
  | natural (n : Nat)
  /-- Any other number. -/
  | number
  | string (text : Option String)
  | array (items : List Json)
  | object (members : List (Option String × Json))
  deriving Repr

instance : Inhabited Json := ⟨.null⟩

end MeteredScript
