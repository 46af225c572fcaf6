import HardenAudit.Diagnostic
import HardenAudit.Path
import HardenAudit.Text.Basic

/-!
# Failures

Everything that can go wrong with a fixture or with a whole run, as causes.  Each cause has a
number, a short kind for reports, and one wording.
-/

namespace HardenAudit

/-- Why a fixture, or the run as a whole, failed. -/
inductive Failure where
  /-- The analysis plugin is not there, so no fixture can be judged. -/
  | fatalPrecondition (path : Path)
  | missingSource (path : Path)
  /-- The compiler ended without success; no status means that a signal ended it. -/
  | compileFailed (status : Option Int) (stderr : String)
  | countMismatch (discrepancies : List Discrepancy)
  | toolTimeout (program : String) (milliseconds : UInt64)
  | toolLaunch (program : String) (reason : String)
  | artifactWrite (path : Path) (reason : String)
  deriving DecidableEq, Repr, Inhabited

namespace Failure

/-- The number of the cause. -/
def code : Failure → Nat
  | fatalPrecondition .. => 2001
  | missingSource .. => 2002
  | compileFailed .. => 2003
  | countMismatch .. => 2004
  | toolTimeout .. => 2005
  | toolLaunch .. => 2006
  | artifactWrite .. => 2007

/-- The cause in one word, for machines. -/
def kind : Failure → String
  | fatalPrecondition .. => "fatal_precondition"
  | missingSource .. => "missing_source"
  | compileFailed .. => "compile_failed"
  | countMismatch .. => "count_mismatch"
  | toolTimeout .. => "tool_timeout"
  | toolLaunch .. => "tool_launch"
  | artifactWrite .. => "artifact_io"

/-- The cause in one word, for people. -/
def title : Failure → String
  | fatalPrecondition .. => "FatalPrecondition"
  | missingSource .. => "MissingSource"
  | compileFailed .. => "CompileFailed"
  | countMismatch .. => "CountMismatch"
  | toolTimeout .. => "ToolTimeout"
  | toolLaunch .. => "ToolLaunch"
  | artifactWrite .. => "ArtifactIo"

/-- The wording of a failure. -/
def message : Failure → String
  | fatalPrecondition path =>
    "Plugin not found at " ++ path.text ++ ". Please build the plugin first."
  | missingSource path => "Source file not found: " ++ path.text
  | compileFailed status stderr =>
    let exit := match status with
      | some n => toString n
      | none => "signal"
    let detail := Text.trimBlanks stderr
    "Compilation failed (exit " ++ exit ++ ")" ++ (if detail = "" then "" else ": " ++ detail)
  | countMismatch discrepancies =>
    "Diagnostic counts mismatched: " ++ "; ".intercalate (discrepancies.map Discrepancy.text)
  | toolTimeout program milliseconds =>
    program ++ " did not finish within " ++ toString milliseconds.toNat ++ " ms"
  | toolLaunch program reason => "Failed to launch " ++ program ++ ": " ++ reason
  | artifactWrite path reason => "Failed to write " ++ path.text ++ ": " ++ reason

/-- The failure with its name and number. -/
def display (f : Failure) : String :=
  "HarnessError::" ++ f.title ++ " (code " ++ toString f.code ++ "): " ++ f.message

/-- Does the failure stop the whole run? -/
def isFatal : Failure → Bool
  | fatalPrecondition .. => true
  | _ => false

end Failure
end HardenAudit
