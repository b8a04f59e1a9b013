/-!
# Source spans

A span says where a piece of a script stands. Scripts that a host builds
node by node have no text behind them, and their nodes carry the
*synthetic* span. No rule of evaluation reads a span: it is there for whoever
reports on a script.
-/

namespace MeteredScript

/-- **A stretch of source text**, by the line and column of its two ends.
Lines and columns count from one, which leaves line zero to mean that there
is no text. -/
structure Span where
  /-- Line of the first character. -/
  line : Nat
  /-- Column of the first character. -/
  column : Nat
  /-- Line of the last character. -/
  endLine : Nat
  /-- Column of the last character. -/
  endColumn : Nat
  deriving DecidableEq, Repr, Inhabited

namespace Span

/-- The span of a node that never came from source text. -/
def synthetic : Span := ⟨0, 0, 0, 0⟩

/-- The span of zero width at one position. -/
def point (line column : Nat) : Span := ⟨line, column, line, column⟩

/-- A span without a line belongs to no text. -/
def isSynthetic (s : Span) : Bool := s.line == 0

/-- The text a report shows for a span: where it starts, if it starts
anywhere. -/
def describe (s : Span) : String :=
  if s.isSynthetic then "<synthetic>" else toString s.line ++ ":" ++ toString s.column

@[simp] theorem isSynthetic_synthetic : synthetic.isSynthetic = true := rfl

theorem isSynthetic_point (line column : Nat) :
    (point line column).isSynthetic = true ↔ line = 0 := by
  simp [isSynthetic, point]

end Span

end MeteredScript
