import MeteredScript.Host.Probe

/-!
# What a verdict says

A probe passes when its script ends as expected and prints the lines that are
expected, and a failure that is about a line names the first line that is
wrong. Both are said here without the comparison that `Probe.run` makes: an
ending is expected or not (`EndsAs`), and two transcripts have a first
difference (`IsFirstDifference`), where a line that is missing from one of
them differs from every line of the other. Lines are compared as they are, so
a line that is empty, that has line breaks in it, or that reads like the mark
of a missing line is a line like any other.
-/

namespace MeteredScript

/-! ## Endings -/

/-- **A run ends as expected**: well where no error is expected, and otherwise
with an error of the class that is expected. -/
inductive EndsAs : Except Stop Value → Option ErrorKind → Prop
  /-- No error was expected, and there was none. -/
  | well (v : Value) : EndsAs (.ok v) none
  /-- The error is of the class that was expected. -/
  | failing (s : Stop) : EndsAs (.error s) (some s.kind)

/-- An ending is reported exactly if it is not the expected one. -/
theorem endingReport?_eq_none_iff {h : Heap} {outcome : Except Stop Value}
    {expected : Option ErrorKind} :
    endingReport? h outcome expected = none ↔ EndsAs outcome expected := by
  constructor
  · intro silent
    match outcome, expected with
    | .ok v, none => exact .well v
    | .ok _, some _ => simp [endingReport?] at silent
    | .error _, none => simp [endingReport?] at silent
    | .error s, some kind =>
      by_cases same : s.kind = kind
      · exact same ▸ .failing s
      · simp [endingReport?, same] at silent
  · rintro (v | s) <;> simp [endingReport?]

/-! ## Transcripts -/

/-- **The first line in which two transcripts differ.** One of them may have
no line there. -/
structure IsFirstDifference (expected actual : List String) (line : Nat) : Prop where
  /-- The lines before it agree. -/
  before : ∀ i < line, expected[i]? = actual[i]?
  /-- The line itself does not. -/
  differs : expected[line]? ≠ actual[line]?

namespace IsFirstDifference

variable {expected actual : List String} {e a : String} {n m : Nat}

theorem zero (h : expected[0]? ≠ actual[0]?) : IsFirstDifference expected actual 0 :=
  ⟨fun _ before => absurd before (Nat.not_lt_zero _), h⟩

/-- Behind a line that agrees, the first difference is one line further on. -/
theorem cons_iff :
    IsFirstDifference (e :: expected) (e :: actual) (n + 1) ↔
      IsFirstDifference expected actual n := by
  constructor
  · intro h
    exact ⟨fun i before => by simpa using h.before (i + 1) (by omega), by simpa using h.differs⟩
  · intro h
    refine ⟨fun i before => ?_, by simpa using h.differs⟩
    cases i with
    | zero => simp
    | succ i => simpa using h.before i (by omega)

/-- Nothing comes before a first line that differs. -/
theorem eq_zero (h : IsFirstDifference expected actual n)
    (head : expected[0]? ≠ actual[0]?) : n = 0 :=
  Nat.eq_zero_of_not_pos fun later => head (h.before 0 later)

end IsFirstDifference

section comparison

variable {expected actual : List String} {n : Nat}

theorem firstDifference?_of_head (head : expected[0]? ≠ actual[0]?) :
    firstDifference? expected actual = some 0 := by
  cases expected <;> cases actual <;> simp_all [firstDifference?]

theorem firstDifference?_eq_some_iff_of_head (head : expected[0]? ≠ actual[0]?) :
    firstDifference? expected actual = some n ↔ IsFirstDifference expected actual n := by
  have found := firstDifference?_of_head head
  constructor
  · intro h
    obtain rfl : 0 = n := by simpa [found] using h
    exact .zero head
  · intro h
    rw [h.eq_zero head, found]

/-- The comparison finds the first difference. -/
theorem firstDifference?_eq_some_iff :
    firstDifference? expected actual = some n ↔ IsFirstDifference expected actual n := by
  induction expected generalizing actual n with
  | nil =>
    cases actual with
    | nil => exact ⟨fun h => by simp [firstDifference?] at h, fun h => absurd rfl h.differs⟩
    | cons a as => exact firstDifference?_eq_some_iff_of_head (by simp)
  | cons e es ih =>
    cases actual with
    | nil => exact firstDifference?_eq_some_iff_of_head (by simp)
    | cons a as =>
      by_cases same : e = a
      · subst same
        cases n with
        | zero =>
          exact ⟨fun h => by simp [firstDifference?] at h, fun h => absurd (by simp) h.differs⟩
        | succ n => simp [firstDifference?, ih, IsFirstDifference.cons_iff]
      · exact firstDifference?_eq_some_iff_of_head (by simpa using same)

/-- A line that reads like the mark of a missing line is not taken for one. -/
example : firstDifference? [endMarker] [] = some 0 := by decide

/-- Transcripts that are not the same have a first difference. -/
theorem exists_isFirstDifference (h : expected ≠ actual) :
    ∃ n, IsFirstDifference expected actual n := by
  obtain ⟨n, found⟩ := Option.ne_none_iff_exists'.mp (mt firstDifference?_eq_none_iff.mp h)
  exact ⟨n, firstDifference?_eq_some_iff.mp found⟩

/-- A report names the first difference by its number, which counts from one,
and quotes what both transcripts have there. -/
theorem IsFirstDifference.differenceReport? (h : IsFirstDifference expected actual n) :
    differenceReport? expected actual
      = some ("output line " ++ toString (n + 1) ++ ": expected "
        ++ Text.literal (expected.getD n endMarker) ++ ", got "
        ++ Text.literal (actual.getD n endMarker)) := by
  simp [MeteredScript.differenceReport?, firstDifference?_eq_some_iff.mpr h]

theorem differenceReport?_eq_none_iff :
    differenceReport? expected actual = none ↔ expected = actual := by
  rw [← firstDifference?_eq_none_iff]
  cases h : firstDifference? expected actual <;> simp [differenceReport?, h]

end comparison

/-! ## Verdicts -/

namespace Probe

variable (config : Config) (p : Probe)

/-- How the script of a probe ends in a session of its own. -/
def ending : Except Stop Value := ((Session.start config).run p.body).1

/-- The lines that the script of a probe prints in a session of its own. -/
def printed : List String := ((Session.start config).run p.body).2.output.lines.toList

/-- The verdict in terms of the run: the ending is looked at first, and the
transcript only if the ending is the expected one. -/
theorem run_failure :
    (p.run config).failure
      = (endingReport? ((Session.start config).run p.body).2.machine.heap (p.ending config)
          p.expectedError).or (differenceReport? p.expectedOutput (p.printed config)) := by
  simp [Probe.run, ending, printed]

theorem run_failure_of_endsAs (h : EndsAs (p.ending config) p.expectedError) :
    (p.run config).failure = differenceReport? p.expectedOutput (p.printed config) := by
  rw [run_failure, endingReport?_eq_none_iff.mpr h, Option.none_or]

/-- **A probe passes exactly if it should.** -/
theorem passed_run_iff :
    (p.run config).passed ↔
      EndsAs (p.ending config) p.expectedError ∧ p.printed config = p.expectedOutput := by
  rw [ProbeResult.passed, Option.isNone_iff_eq_none, run_failure, Option.or_eq_none_iff,
    endingReport?_eq_none_iff, differenceReport?_eq_none_iff, eq_comm (a := p.expectedOutput)]

/-- **A wrong line is reported where the transcripts first differ.** -/
theorem exists_reported_line (ends : EndsAs (p.ending config) p.expectedError)
    (differ : p.printed config ≠ p.expectedOutput) :
    ∃ n, IsFirstDifference p.expectedOutput (p.printed config) n ∧
      (p.run config).failure
        = some ("output line " ++ toString (n + 1) ++ ": expected "
          ++ Text.literal (p.expectedOutput.getD n endMarker) ++ ", got "
          ++ Text.literal ((p.printed config).getD n endMarker)) := by
  obtain ⟨n, first⟩ := exists_isFirstDifference differ.symm
  exact ⟨n, first, by rw [run_failure_of_endsAs config p ends, first.differenceReport?]⟩

end Probe

namespace ProbeSummary

variable (config : Config) (probes : List Probe)

/-- The verdict on a probe does not depend on the probes around it. -/
theorem results_ofProbes_getElem? (i : Nat) :
    (ofProbes config probes).results[i]? = probes[i]?.map (Probe.run config) := by
  simp [ofProbes]

theorem passed_ofProbes :
    (ofProbes config probes).passed = probes.countP fun p => (p.run config).passed := by
  simp [ofProbes, passed, List.countP_map, Function.comp_def]

/-- Every probe is counted once. -/
theorem passed_add_failed_ofProbes :
    (ofProbes config probes).passed + (ofProbes config probes).failed = probes.length := by
  have counted : (ofProbes config probes).passed ≤ (ofProbes config probes).results.length :=
    List.countP_le_length
  rw [failed, Nat.add_sub_cancel' counted]
  simp [ofProbes]

end ProbeSummary

/-- **Verdicts are sound and complete.** A probe passes exactly if its script
ends as expected in a session of its own and prints the expected lines. Where
only the lines are wrong, the failure names the first that differs. A summary
counts every probe once, and has for each of them the verdict that the probe
gets alone. -/
theorem verdicts_exact (config : Config) :
    (∀ p : Probe,
      ((p.run config).passed ↔
        EndsAs (p.ending config) p.expectedError ∧ p.printed config = p.expectedOutput) ∧
      (EndsAs (p.ending config) p.expectedError → p.printed config ≠ p.expectedOutput →
        ∃ n, IsFirstDifference p.expectedOutput (p.printed config) n ∧
          (p.run config).failure
            = some ("output line " ++ toString (n + 1) ++ ": expected "
              ++ Text.literal (p.expectedOutput.getD n endMarker) ++ ", got "
              ++ Text.literal ((p.printed config).getD n endMarker)))) ∧
    ∀ probes : List Probe,
      let summary := ProbeSummary.ofProbes config probes
      summary.passed + summary.failed = probes.length ∧
      summary.passed = probes.countP (fun p => (p.run config).passed) ∧
      ∀ i : Nat, summary.results[i]? = probes[i]?.map (Probe.run config) :=
  ⟨fun p => ⟨p.passed_run_iff config, p.exists_reported_line config⟩,
    fun probes => ⟨ProbeSummary.passed_add_failed_ofProbes config probes,
      ProbeSummary.passed_ofProbes config probes,
      ProbeSummary.results_ofProbes_getElem? config probes⟩⟩

end MeteredScript
