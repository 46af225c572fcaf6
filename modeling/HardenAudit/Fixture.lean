import HardenAudit.Diagnostic
import HardenAudit.Failure
import HardenAudit.Json.Value
import HardenAudit.Path
import HardenAudit.Text.Basic

/-!
# Fixtures and their results

## Fixtures

A fixture is a named source file with the number of findings expected in it.  The registry is the
fixed list of fixtures that a run judges, in the order in which results are reported.
-/

namespace HardenAudit

/-- A source file with the findings that the analysis has to report for it. -/
structure Fixture where
  name : String
  source : Path
  expected : Expectations
  deriving DecidableEq, Inhabited

namespace Fixture

/-- A fixture from a list of expected counts; of two counts for one key the last one counts. -/
def make (name source : String) (expected : List (String × UInt32)) : Fixture :=
  ⟨name, ⟨source⟩, SortedMap.ofList expected⟩

/-- Where the source is, seen from the root of the fixtures. -/
def sourcePath (f : Fixture) (root : Path) : Path := root.join f.source

/-- The stem of the names of the files that are kept for a fixture. -/
def artifactStem (f : Fixture) : String := f.source.stem?.getD (Text.underscored f.name)

/-- One line of the list of fixtures. -/
def listing (root : Path) (f : Fixture) : String :=
  f.name ++ " -> " ++ (f.sourcePath root).text ++ " ["
    ++ ", ".intercalate (f.expected.entries.map fun e => e.1 ++ "=" ++ toString e.2.toNat) ++ "]\n"

/-- The fixtures of every run. -/
def registry : List Fixture :=
  [make "Vulnerable Function" "fixtures/test_vulnerable.c"
      [("conditional_branch", 1), ("vulnerable_instruction", 1)],
   make "Safe with Equality" "fixtures/test_safe_equality.c"
      [("conditional_branch", 0), ("vulnerable_instruction", 1)],
   make "Safe with Verification" "fixtures/test_safe_verification.c"
      [("vulnerable_instruction", 0)],
   make "Clean Function" "fixtures/test_clean.c"
      [("vulnerable_instruction", 1)]]

end Fixture
end HardenAudit

/-!
## Results of fixtures

What a run learned about one fixture.
-/

namespace HardenAudit

/-- The verdict on a fixture. -/
inductive Outcome where
  | pass
  | fail
  deriving DecidableEq, Repr, Inhabited

namespace Outcome

/-- The verdict as reports name it. -/
def label : Outcome → String
  | pass => "pass"
  | fail => "fail"

end Outcome

/-- What was found when a fixture was analysed to the end. -/
structure Evaluation where
  text : String
  counts : Counts
  discrepancies : List Discrepancy
  diagnosticsPath : Path
  deriving DecidableEq, Repr, Inhabited

/-- Everything that a run learned about one fixture. -/
structure FixtureResult where
  name : String
  source : Path
  outcome : Outcome := .fail
  discrepancies : List Discrepancy := []
  counts : Counts := {}
  failure : Option Failure := none
  /-- The analysed text, kept only when its counts were wrong. -/
  mismatchOutput : Option String := none
  /-- Where the analysed text was stored. -/
  diagnosticsPath : Option Path := none
  deriving DecidableEq, Repr, Inhabited

namespace FixtureResult

/-- Did the fixture pass? -/
def passed (r : FixtureResult) : Bool := r.outcome = .pass

/-- The result of a fixture from its evaluation: it passes if it was analysed to the end and no
count is wrong. -/
def ofEvaluation (f : Fixture) : Except Failure Evaluation → FixtureResult
  | .error e => { name := f.name, source := f.source, failure := some e }
  | .ok ev =>
    if ev.discrepancies = [] then
      { name := f.name
        source := f.source
        outcome := .pass
        counts := ev.counts
        diagnosticsPath := some ev.diagnosticsPath }
    else
      { name := f.name
        source := f.source
        discrepancies := ev.discrepancies
        counts := ev.counts
        failure := some (.countMismatch ev.discrepancies)
        mismatchOutput := some ev.text
        diagnosticsPath := some ev.diagnosticsPath }

end FixtureResult
end HardenAudit
