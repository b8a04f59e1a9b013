/-!
# Quoted text

How a string is written when a value is printed: between quotes, with a
backslash before what would be misread. Single quotes are the rule; double
quotes are used for a text that has single quotes and no double ones, which
then needs no escapes for them.
-/

namespace MeteredScript.Text

/-- The quote that a text is written between. -/
def quoteMark (cs : List Char) : Char :=
  if cs.contains '\'' && !cs.contains '"' then '"' else '\''

/-- How one character is written between quotes of a kind. -/
def escapeChar (mark c : Char) : List Char :=
  if c = '\\' then ['\\', '\\']
  else if c = '\n' then ['\\', 'n']
  else if c = '\r' then ['\\', 'r']
  else if c = '\t' then ['\\', 't']
  else if c = mark then ['\\', c]
  else [c]

/-- A text between quotes, character by character. -/
def quoteChars (cs : List Char) : List Char :=
  let mark := quoteMark cs
  mark :: (cs.flatMap (escapeChar mark) ++ [mark])

/-- **The quoted form of a string.** -/
def quote (s : String) : String := String.ofList (quoteChars s.toList)

end MeteredScript.Text
