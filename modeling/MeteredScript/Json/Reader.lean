import MeteredScript.Json.Basic

/-!
# Reading JSON

A strict reader for the grammar of RFC 8259: no comments, no trailing commas,
no leading zeros, no control characters in strings, and nothing but blanks
after the document.

Each reader takes the characters that are left and gives what it read with
the characters after it. The readers of documents inside documents are told
how deep they may recurse; `Json.parse?` allows one level for each character,
which is more than there can be.
-/

namespace MeteredScript.Json

/-- The characters after leading blanks. -/
def skipBlanks (cs : List Char) : List Char :=
  cs.dropWhile fun c => c == ' ' || c == '\t' || c == '\n' || c == '\r'

/-! ## Strings -/

/-- What one step of a string stands for: a character, or a 16-bit code unit
given by an escape. -/
inductive Piece where
  | char (c : Char)
  | unit (n : Nat)
  deriving DecidableEq, Repr

/-- The value of a hexadecimal digit. -/
def hexValue? (c : Char) : Option Nat :=
  if '0' ≤ c ∧ c ≤ '9' then some (c.toNat - '0'.toNat)
  else if 'a' ≤ c ∧ c ≤ 'f' then some (c.toNat - 'a'.toNat + 10)
  else if 'A' ≤ c ∧ c ≤ 'F' then some (c.toNat - 'A'.toNat + 10)
  else none

/-- The value of four hexadecimal digits. -/
def hexUnit? (a b c d : Char) : Option Nat := do
  return (((← hexValue? a) * 16 + (← hexValue? b)) * 16 + (← hexValue? c)) * 16 + (← hexValue? d)

/-- The character that a letter after a backslash stands for. -/
def escaped? : Char → Option Char
  | '"' => some '"'
  | '\\' => some '\\'
  | '/' => some '/'
  | 'b' => some '\x08'
  | 'f' => some '\x0c'
  | 'n' => some '\n'
  | 'r' => some '\r'
  | 't' => some '\t'
  | _ => none

/-- Read the rest of a string, up to its closing quote. -/
def readPieces : List Char → Option (List Piece × List Char)
  | [] => none
  | '"' :: rest => some ([], rest)
  | '\\' :: 'u' :: a :: b :: c :: d :: rest => do
    let n ← hexUnit? a b c d
    let (pieces, rest) ← readPieces rest
    return (.unit n :: pieces, rest)
  | '\\' :: letter :: rest => do
    let c ← escaped? letter
    let (pieces, rest) ← readPieces rest
    return (.char c :: pieces, rest)
  | c :: rest =>
    if c.toNat < 0x20 ∨ c = '\\' then none
    else do
      let (pieces, rest) ← readPieces rest
      return (.char c :: pieces, rest)

/-- Whether a code unit is the first of a surrogate pair. -/
def isLeading (n : Nat) : Bool := 0xD800 ≤ n && n < 0xDC00

/-- Whether a code unit is the second of a surrogate pair. -/
def isTrailing (n : Nat) : Bool := 0xDC00 ≤ n && n < 0xE000

/-- The text of a string, if its code units make up characters. -/
def textOf? : List Piece → Option (List Char)
  | [] => some []
  | .char c :: rest => (textOf? rest).map (c :: ·)
  | .unit m :: .unit n :: rest =>
    if isLeading m then
      if isTrailing n then
        (textOf? rest).map (Char.ofNat (0x10000 + (m - 0xD800) * 0x400 + (n - 0xDC00)) :: ·)
      else none
    else if isTrailing m then none
    else (textOf? (.unit n :: rest)).map (Char.ofNat m :: ·)
  | .unit m :: rest =>
    if isLeading m || isTrailing m then none else (textOf? rest).map (Char.ofNat m :: ·)

/-- Read the rest of a string and its text. -/
def readString (cs : List Char) : Option (Option String × List Char) := do
  let (pieces, rest) ← readPieces cs
  return ((textOf? pieces).map String.ofList, rest)

/-! ## Numbers -/

/-- Read one or more digits. -/
def readDigits (cs : List Char) : Option (List Char × List Char) :=
  let digits := cs.takeWhile Char.isDigit
  if digits.isEmpty then none else some (digits, cs.dropWhile Char.isDigit)

/-- Read the whole part of a number, which has no leading zero. -/
def readWhole (cs : List Char) : Option (List Char × List Char) := do
  let (digits, rest) ← readDigits cs
  if digits.length > 1 ∧ digits.head? = some '0' then none else return (digits, rest)

/-- The characters after the fraction of a number, which may be left out, and
whether there was one. -/
def readFraction : List Char → Option (Bool × List Char)
  | '.' :: cs => do
    let (_, rest) ← readDigits cs
    return (true, rest)
  | cs => some (false, cs)

/-- Read a sign, if there is one. -/
def skipSign : List Char → List Char
  | '+' :: cs | '-' :: cs => cs
  | cs => cs

/-- The characters after the exponent of a number, which may be left out, and
whether there was one. -/
def readExponent : List Char → Option (Bool × List Char)
  | 'e' :: cs | 'E' :: cs => do
    let (_, rest) ← readDigits (skipSign cs)
    return (true, rest)
  | cs => some (false, cs)

/-- The number that decimal digits denote. -/
def digitsValue (digits : List Char) : Nat :=
  digits.foldl (fun n c => n * 10 + (c.toNat - '0'.toNat)) 0

/-- Read a number without a sign. -/
def readUnsigned (cs : List Char) : Option (Json × List Char) := do
  let (digits, rest) ← readWhole cs
  let (fraction, rest) ← readFraction rest
  let (exponent, rest) ← readExponent rest
  return (if fraction || exponent then .number else .natural (digitsValue digits), rest)

/-- Read a number. -/
def readNumber : List Char → Option (Json × List Char)
  | '-' :: cs => do
    let (_, rest) ← readUnsigned cs
    return (.number, rest)
  | cs => readUnsigned cs

/-! ## Documents -/

/-- Read a document that is no array or object. -/
def readScalar : List Char → Option (Json × List Char)
  | 'n' :: 'u' :: 'l' :: 'l' :: rest => some (.null, rest)
  | 't' :: 'r' :: 'u' :: 'e' :: rest => some (.bool true, rest)
  | 'f' :: 'a' :: 'l' :: 's' :: 'e' :: rest => some (.bool false, rest)
  | '"' :: cs => do
    let (text, rest) ← readString cs
    return (.string text, rest)
  | cs => readNumber cs

mutual

/-- Read a document after leading blanks. -/
def readDocument : (depth : Nat) → List Char → Option (Json × List Char)
  | 0, _ => none
  | depth + 1, cs =>
    match skipBlanks cs with
    | '[' :: cs =>
      match skipBlanks cs with
      | ']' :: rest => some (.array [], rest)
      | cs => do
        let (items, rest) ← readItems depth cs
        return (.array items, rest)
    | '\x7b' :: cs =>
      match skipBlanks cs with
      | '\x7d' :: rest => some (.object [], rest)
      | cs => do
        let (members, rest) ← readMembers depth cs
        return (.object members, rest)
    | cs => readScalar cs

/-- Read one or more items of an array, up to its closing bracket. -/
def readItems : (depth : Nat) → List Char → Option (List Json × List Char)
  | 0, _ => none
  | depth + 1, cs => do
    let (item, rest) ← readDocument depth cs
    match skipBlanks rest with
    | ']' :: rest => return ([item], rest)
    | ',' :: rest =>
      let (items, rest) ← readItems depth rest
      return (item :: items, rest)
    | _ => none

/-- Read one or more members of an object, up to its closing brace. -/
def readMembers : (depth : Nat) → List Char → Option (List (Option String × Json) × List Char)
  | 0, _ => none
  | depth + 1, cs =>
    match skipBlanks cs with
    | '"' :: cs => do
      let (name, rest) ← readString cs
      match skipBlanks rest with
      | ':' :: rest =>
        let (value, rest) ← readDocument depth rest
        match skipBlanks rest with
        | '\x7d' :: rest => return ([(name, value)], rest)
        | ',' :: rest =>
          let (members, rest) ← readMembers depth rest
          return ((name, value) :: members, rest)
        | _ => none
      | _ => none
    | _ => none

end

/-- **The document that a text is**, if it is one. -/
def parse? (text : String) : Option Json := do
  let cs := text.toList
  let (document, rest) ← readDocument (2 * cs.length + 2) cs
  if (skipBlanks rest).isEmpty then some document else none

end MeteredScript.Json
