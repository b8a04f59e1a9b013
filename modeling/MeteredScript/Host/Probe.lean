import MeteredScript.Host.Session
import MeteredScript.Text.Literal

/-!
# Probes

A probe is a script together with what it has to print and how it has to end.
Each probe is run in a session of its own, so that none can disturb another.

`firstDifference?` finds the line that a report of a wrong transcript is
about; `firstDifference?_eq_none_iff` says that it finds none exactly for equal
transcripts.
-/

namespace MeteredScript

/-- **A script with what is expected of it.** -/
structure Probe where
  /-- The name in reports. -/
  name : String
  /-- The script. -/
  body : Block
  /-- The lines it has to print. -/
  expectedOutput : List String
  /-- The class of failure it has to end with; without it the script has to
  end well. -/
  expectedError : Option ErrorKind

/-- **The verdict on a probe.** -/
structure ProbeResult where
  /-- The name of the probe. -/
  name : String
  /-- The lines that were printed. -/
  output : List String
  /-- The digest of the transcript. -/
  digest : String
  /-- What was wrong, if anything was. -/
  failure : Option String
  deriving Repr

/-- Whether everything was as expected. -/
def ProbeResult.passed (r : ProbeResult) : Bool := r.failure.isNone

/-! ## Comparing transcripts -/

/-- The position of the first line in which two lists of lines differ. A
missing line differs from every line. -/
def firstDifference? : List String → List String → Option Nat
  | [], [] => none
  | e :: es, a :: as => if e = a then (firstDifference? es as).map (· + 1) else some 0
  | _, _ => some 0

theorem firstDifference?_eq_none_iff {expected actual : List String} :
    firstDifference? expected actual = none ↔ expected = actual := by
  induction expected generalizing actual with
  | nil => cases actual <;> simp [firstDifference?]
  | cons e es ih =>
    cases actual with
    | nil => simp [firstDifference?]
    | cons a as => by_cases h : e = a <;> simp [firstDifference?, h, ih]

/-- What a report shows in the place of a missing line. -/
def endMarker : String := "<end>"

/-- The report of the first line in which a transcript is not as expected. -/
def differenceReport? (expected actual : List String) : Option String := do
  let line ← firstDifference? expected actual
  return "output line " ++ toString (line + 1) ++ ": expected "
    ++ Text.literal (expected.getD line endMarker) ++ ", got "
    ++ Text.literal (actual.getD line endMarker)

/-! ## Running -/

/-- The report of an ending that is not as expected. -/
def endingReport? (h : Heap) (outcome : Except Stop Value) (expected : Option ErrorKind) :
    Option String :=
  let describe (s : Stop) : String := (h.describeStop? s).getD Stop.endless.kind.name
  match outcome, expected with
  | .ok _, none => none
  | .ok _, some kind => some ("expected " ++ kind.name ++ " error, program completed")
  | .error s, none => some ("uncaught error: " ++ describe s)
  | .error s, some kind =>
    if s.kind = kind then none
    else some ("expected " ++ kind.name ++ " error, got " ++ s.kind.name ++ ": " ++ describe s)

/-- **Run a probe** in a session of its own. A wrong ending is reported before
a wrong transcript. -/
def Probe.run (config : Config) (p : Probe) : ProbeResult :=
  let (outcome, s) := (Session.start config).run p.body
  let output := s.output.lines.toList
  { name := p.name
    output
    digest := s.output.digest
    failure := endingReport? s.machine.heap outcome p.expectedError
      <|> differenceReport? p.expectedOutput output }

/-- **The verdicts on several probes.** -/
structure ProbeSummary where
  /-- The verdicts, in the order of the probes. -/
  results : List ProbeResult
  deriving Repr

namespace ProbeSummary

/-- Run several probes under the same limits. -/
def ofProbes (config : Config) (probes : List Probe) : ProbeSummary :=
  ⟨probes.map (Probe.run config)⟩

/-- How many probes passed. -/
def passed (s : ProbeSummary) : Nat := s.results.countP ProbeResult.passed

/-- How many probes failed. -/
def failed (s : ProbeSummary) : Nat := s.results.length - s.passed

/-- Whether no probe failed. -/
def allPassed (s : ProbeSummary) : Bool := s.failed == 0

end ProbeSummary

/-! ## Reports -/

/-- The line of a report that is about one probe. -/
def ProbeResult.describe (r : ProbeResult) : String :=
  match r.failure with
  | none => "  ✓ " ++ r.name
  | some failure => "  ✗ " ++ r.name ++ ": " ++ failure

/-- The report of several probes: a line for each, and the totals. -/
def ProbeSummary.describe (s : ProbeSummary) : String :=
  String.join (s.results.map fun r => r.describe ++ "\n") ++ "\n" ++ toString s.passed
    ++ " passed, " ++ toString s.failed ++ " failed\n"

end MeteredScript
