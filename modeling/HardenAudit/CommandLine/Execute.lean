import HardenAudit.CommandLine.Arguments
import HardenAudit.Report
import HardenAudit.Settings.Reader
import HardenAudit.Toolchain.External

/-!
# What the program does

From arguments and files to two streams, an exit status and files; or to nothing, if a call of a tool
never returns and so the program never ends.
-/

namespace HardenAudit.CommandLine

open Launch (Machine)

variable {ρ : Type}

/-- Everything that a run of the program leaves behind. -/
structure Outcome where
  exit : Nat
  stdout : String := ""
  /-- For arguments that cannot be understood, only the line that says why. -/
  stderr : String := ""
  files : FileSystem

/-- A failure outside of the audit itself: what was being done, and the cause. -/
structure Trouble where
  context : String
  cause : String
  deriving DecidableEq, Repr, Inhabited

/-- The trouble as it is shown. -/
def Trouble.text (t : Trouble) : String :=
  "fi-validate error: " ++ t.context ++ "\n\nCaused by:\n    " ++ t.cause ++ "\n"

/-- The log as it is shown at a verbosity. -/
def logText (verbosity : Nat) (log : List Record) : String :=
  String.join (log.filterMap (Record.line? verbosity))

/-- Makes the directory for the JSON report, if the path of the report names one. -/
def makeSummaryDirectory (fs : FileSystem) (path : Path) : Option FileError × FileSystem :=
  match path.parent? with
  | some up => fs.makeTree up
  | none => (none, fs)

/-- Writes the JSON report of a run, after making the directory for it. -/
def writeSummary (fs : FileSystem) (path : Path) (results : List FixtureResult) :
    Option Trouble × FileSystem :=
  match makeSummaryDirectory fs path with
  | (some e, fs) => (some ⟨"creating summary output directory", e.message⟩, fs)
  | (none, fs) =>
    match fs.writeText path (Report.json results).pretty with
    | .ok fs' => (none, fs')
    | .error e => (some ⟨"writing run summary to " ++ path.text, e.message⟩, fs)

/-- Reports on a run of fixtures that has come to its end, and left these files. -/
def reportRun (summary : Option Path) (fs : FileSystem) : Except Failure (List FixtureResult) → Outcome
  | .error e => { exit := 1, stdout := Report.banner ++ "Error: " ++ e.message ++ "\n", files := fs }
  | .ok results =>
    let stdout := Report.text results
    let code := (Summary.ofResults results).exitCode
    match summary with
    | none => { exit := code, stdout := stdout, files := fs }
    | some path =>
      match writeSummary fs path results with
      | (none, fs') => { exit := code, stdout := stdout, files := fs' }
      | (some t, fs') => { exit := 1, stdout := stdout, stderr := t.text, files := fs' }

/-- Runs the registry and reports on it, if the run ever comes to its end. -/
def runVerb (machine : Machine ρ) (settings : Settings) (summary : Option Path) (w : World ρ) :
    Option (Outcome × List Record) :=
  let audit : Audit ρ := ⟨settings.paths, External.toolchain machine settings⟩
  let (result, j) := audit.run Fixture.registry w
  if j.returns then some (reportRun summary j.files result, j.log) else none

/-- Lists the registry. -/
def listVerb (settings : Settings) (fs : FileSystem) : Outcome :=
  { exit := 0
    stdout := String.join (Fixture.registry.map (Fixture.listing settings.paths.fixtureRoot))
    files := fs }

/-- Does what was asked for; the log goes to the second stream, before the trouble if there is any. -/
def perform (machine : Machine ρ) (i : Invocation) (w : World ρ) : Option Outcome :=
  let shown (o : Outcome) (log : List Record) : Outcome :=
    { o with stderr := logText i.options.verbosity log ++ o.stderr }
  match Settings.resolve w.files (i.options.config.map Path.mk) with
  | (.error e, log) =>
    some (shown { exit := 1, stderr := Trouble.text ⟨e.context, e.cause⟩, files := w.files } log)
  | (.ok settings, log) =>
    match i.verb with
    | .run =>
      (runVerb machine settings (i.options.summaryJson.map Path.mk) w).map fun (o, more) =>
        shown o (log ++ more)
    | .list => some (shown (listVerb settings w.files) log)

/-- The first line of a text; a carriage return at its end belongs to the line break. -/
def firstLine (text : String) : String :=
  let line := text.toList.takeWhile (· != '\n')
  let ended := line.length < text.length && line.getLast? == some '\r'
  String.ofList (if ended then line.dropLast else line)

/-- The whole program: arguments and files in, streams, exit status and files out; nothing if it never
ends. -/
def execute (machine : Machine ρ) (args : List String) (w : World ρ) : Option Outcome :=
  match parse args with
  | .ok i => perform machine i w
  | .error (.help topic) => some { exit := 0, stdout := topic.text, files := w.files }
  | .error (.usage e) => some { exit := 2, stderr := firstLine e.message, files := w.files }

end HardenAudit.CommandLine
