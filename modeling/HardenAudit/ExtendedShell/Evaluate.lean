import HardenAudit.ExtendedShell.Jobs
import HardenAudit.ExtendedShell.Loops
import HardenAudit.ExtendedShell.Pipelines

/-!
# Evaluating commands and timing them

## How long a command took

The report follows a format, in which letters behind percent signs stand for times.
-/

namespace HardenAudit.ExtendedShell

namespace Sh

/-- A number with so many places at least, filled with zeros. -/
def zeroPadded (width n : Nat) : String :=
  let ds := toString n
  String.ofList (List.replicate (width - ds.length) '0') ++ ds

/-- A time in thousandths of a second with so many places, perhaps with its minutes apart. -/
def timeText (places : Nat) (long : Bool) (thousandths : Nat) : String :=
  let seconds := thousandths / 1000
  let part := zeroPadded 3 (thousandths % 1000)
  let behind := if places = 0 then "" else "." ++ String.ofList (part.toList.take places)
  if long then toString (seconds / 60) ++ "m" ++ toString (seconds % 60) ++ behind ++ "s"
  else toString seconds ++ behind

/-- The report on a time in a format, or the character in it that has no meaning.  Each round takes a
character, so `limit` may be the length. -/
def formatTime (thousandths : Nat) : (limit : Nat) → List Char → Except Char String
  | 0, _ => .ok ""
  | _, [] => .ok ""
  | _, ['%'] => .ok "%"
  | limit + 1, '%' :: '%' :: rest => ("%" ++ ·) <$> formatTime thousandths limit rest
  | limit + 1, '%' :: 'P' :: rest => ("0.00" ++ ·) <$> formatTime thousandths limit rest
  | limit + 1, '%' :: rest =>
    let (places, rest) := match rest with
      | d :: more => if d.isDigit then (min 3 (d.toNat - 48), more) else (3, rest)
      | [] => (3, [])
    let (long, rest) := match rest with
      | 'l' :: more => (true, more)
      | _ => (false, rest)
    match rest with
    | 'R' :: more | 'E' :: more =>
      (timeText places long thousandths ++ ·) <$> formatTime thousandths limit more
    | 'U' :: more | 'S' :: more => (timeText places long 0 ++ ·) <$> formatTime thousandths limit more
    | c :: _ => .error c
    | [] => .error (Char.ofNat 0)
  | limit + 1, c :: rest => (c.toString ++ ·) <$> formatTime thousandths limit rest

/-- Shows how long a command took. -/
def reportTime (portable : Bool) (micros : Nat) : Sh Unit := do
  let chosen ← lookup "TIMEFORMAT"
  let format := if portable then "real %2R\nuser %2U\nsys %2S"
    else chosen.getD "\nreal\t%3lR\nuser\t%3lU\nsys\t%3lS"
  flush
  if format != "" then
    match formatTime (micros / 1000) (format.length + 1) format.toList with
    | .ok text => printError (text ++ "\n")
    | .error c => warnPlain ("TIMEFORMAT: \x60" ++ c.toString ++ "\x27: invalid format character")

end Sh
end HardenAudit.ExtendedShell

/-!
## Running commands

Every command gives a status; `evaluate` ties the knot between commands and the commands in them.
-/

namespace HardenAudit.ExtendedShell
namespace Sh

/-- Does a failure of such a command count, so that it may end the shell? -/
def isChecked : Command → Bool
  | .simple .. | .pipeline _ | .subshell .. | .arith .. | .condition .. => true
  | _ => false

/-- Runs a command. -/
def runCommand (run : Evaluator) (mode : Mode) (c : Command) : Sh Nat := do
  match c with
  | .nothing => pure 0
  | .simple line assigns arguments ds => runSimple run mode c line assigns arguments ds
  | .redirected line body ds =>
    atLine line
    closingPipes (redirecting (servicesOf run) ds (run { tested := mode.tested } body))
  | .pipeline stages => runPipeline run mode c stages
  | .negation body =>
    let status ← run { tested := true } body
    pure (if status == 0 then 1 else 0)
  | .timed portable body =>
    let start ← ask .now
    let status ← run { tested := mode.tested } body
    let stop ← ask .now
    reportTime portable (stop - start)
    pure status
  | .both first second =>
    let status ← run { tested := true } first
    if status != 0 then pure status else run mode second
  | .either first second =>
    let status ← run { tested := true } first
    if status == 0 then pure status else run mode second
  | .sequence first second =>
    let _ ← run { tested := mode.tested } first
    run mode second
  | .background body => runBackground run body
  | .subshell line body =>
    atLine line
    noteCurrent c
    runSubshell run mode c body
  | .group body => run { tested := mode.tested } body
  | .choice test yes no =>
    let status ← run { tested := true } test
    if status == 0 then run { tested := mode.tested } yes
    else if no.isNothing then pure 0
    else run { tested := mode.tested } no
  | .loop wanted test body => runLoop run mode wanted test body
  | .each line name arguments words body =>
    atLine line
    closingPipes do
      let values ← if arguments then pure (← get).arguments else expandWords (servicesOf run) words
      let shown := if arguments then "\"$@\"" else " ".intercalate (words.map Word.raw)
      runEach run mode c line name shown values body
  | .counting line start test step body => runCounting run mode line start test step body
  | .menu line name arguments words body =>
    atLine line
    let values ← if arguments then pure (← get).arguments else expandWords (servicesOf run) words
    announce run c
    runMenu run mode name values body
  | .arms line word arms =>
    atLine line
    announce run c
    trace (servicesOf run) ("case " ++ word.raw ++ " in")
    let text ← expandText (servicesOf run) { tilde := true } word
    runArms run mode text false 0 arms
  | .arith line body =>
    atLine line
    announce run c
    match ← expressionValue? run body with
    | some n => pure (if n = 0 then 1 else 0)
    | none => pure 1
  | .condition line test =>
    atLine line
    announce run c
    let outer := (← get).running
    modify fun s => { s with running := some "[[" }
    let r ← attempt (conditionStatus (servicesOf run) (trace (servicesOf run)) test)
    modify fun s => { s with running := outer }
    resume r
  | .function line name body =>
    modify fun s =>
      let source := match s.calls with
        | call :: _ => call.source
        | [] => if s.origin == .text then "environment" else if s.origin == .script then s.name else "main"
      let f : Function := { body := body, line := line, source := source }
      { s with functions := s.functions.insert name f }
    pure 0
  | .coprocess _ name body => runCoprocess run name c body

/-- Runs a command; `limit` bounds how deep commands are nested. -/
def evaluate : (limit : Nat) → Evaluator
  | 0, _, _ => pure 0
  | limit + 1, mode, c => do
    let run := evaluate limit
    if c.isNothing || (← hasOption "noexec") then pure (← get).status
    else
      runTraps run
      let status ← runCommand run mode c
      modify fun s => { s with status := status }
      if isChecked c then
        if !(c matches .pipeline _) then modify fun s => { s with stageStatuses := [status] }
        if status != 0 && !mode.tested then
          runEvent run "ERR" "error trap"
          if ← hasOption "errexit" then leave status
      runTraps run
      pure status

end Sh
end HardenAudit.ExtendedShell
