import HardenAudit.Failure
import HardenAudit.Text.Terminal

/-!
# Log records

What a run tells about itself, in order, as values.  Records that concern a fixture carry its name.
-/

namespace HardenAudit

/-- How important a record is. -/
inductive Level where
  | error
  | warn
  | info
  | debug
  deriving DecidableEq, Repr, Inhabited

namespace Level

/-- The level as a log line starts with it. -/
def label : Level → String
  | error => "ERROR"
  | warn => "WARN"
  | info => "INFO"
  | debug => "DEBUG"

/-- Rank of a level; a smaller one is more important. -/
def rank : Level → Nat
  | error => 0
  | warn => 1
  | info => 2
  | debug => 3

/-- The least important level that is shown at a verbosity. -/
def ofVerbosity : Nat → Level
  | 0 => warn
  | 1 => info
  | _ => debug

end Level

/-- One log record; `fixture` names the fixture that was being processed. -/
structure Record where
  level : Level
  message : String
  fixture : Option String := none
  deriving DecidableEq, Repr, Inhabited

namespace Record

/-- The record of a failure in a context. -/
def ofFailure (context : String) (f : Failure) : Record where
  level := .error
  message := "Harness error in " ++ context ++ ": code=" ++ toString f.code ++ ", message=" ++ f.message

/-- The record as part of the processing of a fixture. -/
def within (name : String) (r : Record) : Record := { r with fixture := some name }

/-- Level and message. -/
def text (r : Record) : String := r.level.label ++ " " ++ r.message

/-- A line of the log at a verbosity: nothing if the level is too low, and the fixture is named from
verbosity one on.  The message is shown without letting it command the terminal. -/
def line? (verbosity : Nat) (r : Record) : Option String :=
  if r.level.rank ≤ (Level.ofVerbosity verbosity).rank then
    let place := match r.fixture with
      | some name => if verbosity = 0 then "" else "fixture\x7bname=" ++ name ++ "\x7d: "
      | none => ""
    some (r.level.label ++ " " ++ place ++ Text.Terminal.shielded r.message ++ "\n")
  else none

end Record
end HardenAudit
