import MeteredScript.Digest.Sha256

/-!
# Transcripts

What a script printed, line by line. Each call of `print` adds one line, even
if the text it prints has line breaks in it. A transcript is compared with an
expected one through its lines, or through a digest of them.
-/

namespace MeteredScript

/-- **The lines printed so far**, oldest first. -/
structure Transcript where
  /-- The lines. -/
  lines : Array String
  deriving Repr

namespace Transcript

/-- The transcript without lines. -/
def empty : Transcript := ⟨#[]⟩

instance : Inhabited Transcript := ⟨empty⟩

/-- Add a line. -/
def push (t : Transcript) (line : String) : Transcript := ⟨t.lines.push line⟩

/-- How many lines there are. -/
def size (t : Transcript) : Nat := t.lines.size

/-- Whether nothing was printed. -/
def isEmpty (t : Transcript) : Bool := t.lines.isEmpty

/-- The lines as one text, with line breaks between them. -/
def golden (t : Transcript) : String := String.intercalate "\n" t.lines.toList

/-- The SHA-256 digest of the text. -/
def digest (t : Transcript) : String := Sha256.hex t.golden.toUTF8

@[simp] theorem lines_push (t : Transcript) (line : String) :
    (t.push line).lines = t.lines.push line := rfl

@[simp] theorem size_push (t : Transcript) (line : String) :
    (t.push line).size = t.size + 1 := by
  simp [size, push]

end Transcript

end MeteredScript
