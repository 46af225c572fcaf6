import HardenAudit.Fixture

/-!
# Reports of a run

The tallies of a run, and its results as text for people and as JSON for machines.
-/

namespace HardenAudit

/-- How many fixtures passed and failed. -/
structure Summary where
  passed : Nat := 0
  failed : Nat := 0
  total : Nat := 0
  deriving DecidableEq, Repr, Inhabited

namespace Summary

/-- The tallies after one more result. -/
def add (s : Summary) (r : FixtureResult) : Summary where
  passed := s.passed + if r.passed then 1 else 0
  failed := s.failed + if r.passed then 0 else 1
  total := s.total + 1

/-- The tallies of a list of results. -/
def ofResults (results : List FixtureResult) : Summary := results.foldl add {}

/-- Did nothing fail? -/
def allPassed (s : Summary) : Bool := s.failed = 0

/-- The exit status that the tallies call for. -/
def exitCode (s : Summary) : Nat := if s.allPassed then 0 else 1

/-- The tallies as JSON in the order passed, failed, total. -/
def json (s : Summary) : Json :=
  .object [("passed", .number s.passed), ("failed", .number s.failed), ("total", .number s.total)]

end Summary

namespace Report

/-- A rule across the page. -/
def rule (c : Char) : String := String.ofList (List.replicate 60 c)

/-- Lines, each with its line break. -/
def lines (ls : List String) : String := String.join (ls.map (· ++ "\n"))

/-- The head of the text report. -/
def banner : String := lines [rule '=', "FIHardeningPass Automated Test Validator", rule '=']

/-- The verdict on a fixture with its reasons. -/
def verdict (r : FixtureResult) : List String :=
  match r.failure with
  | none => ["PASS"]
  | some (.countMismatch discrepancies) =>
    "FAIL: diagnostic counts differ" :: discrepancies.map ("  - " ++ ·.text)
      ++ match r.mismatchOutput with
        | some output => ["", "Actual output:", output]
        | none => []
  | some failure => ["FAIL: " ++ failure.message]

/-- The block of the text report for one fixture. -/
def block (r : FixtureResult) : String :=
  lines (["", "Testing: " ++ r.name, rule '-'] ++ verdict r)

/-- The foot of the text report. -/
def tallies (s : Summary) : String :=
  lines ["", rule '=', "Test Summary", rule '=', "Passed: " ++ toString s.passed,
    "Failed: " ++ toString s.failed, "Total:  " ++ toString s.total]

/-- The whole text report. -/
def text (results : List FixtureResult) : String :=
  banner ++ String.join (results.map block) ++ tallies (.ofResults results)

/-- A text, or null if there is none. -/
def orNull : Option Json → Json
  | some v => v
  | none => .null

/-- A discrepancy in the JSON report. -/
def discrepancyJson (d : Discrepancy) : Json :=
  .object [("actual", .number d.actual.toNat), ("category", .string d.category.key),
    ("expected", .number d.expected.toNat)]

/-- A failure in the JSON report. -/
def failureJson (f : Failure) : Json :=
  .object [("code", .number f.code), ("kind", .string f.kind), ("message", .string f.message)]

/-- A fixture in the JSON report, with its members in alphabetical order. -/
def fixtureJson (r : FixtureResult) : Json :=
  .object
    [("counts", .object (r.counts.toList.map fun e => (e.1.key, .number e.2.toNat))),
     ("diagnostics_path", orNull (r.diagnosticsPath.map fun p => .string p.text)),
     ("discrepancies", .array (r.discrepancies.map discrepancyJson)),
     ("failure", orNull (r.failure.map failureJson)),
     ("name", .string r.name),
     ("outcome", .string r.outcome.label),
     ("source", .string r.source.text)]

/-- The JSON report of a run. -/
def json (results : List FixtureResult) : Json :=
  let s := Summary.ofResults results
  .object
    [("fixtures", .array (results.map fixtureJson)),
     ("summary", .object [("failed", .number s.failed), ("passed", .number s.passed),
        ("total", .number s.total)])]

end Report
end HardenAudit
