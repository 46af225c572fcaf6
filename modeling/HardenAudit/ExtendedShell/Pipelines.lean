import HardenAudit.ExtendedShell.Commands

/-!
# Pipelines and shells inside the shell

Commands that run in processes of their own, one after another or beside the shell.
-/

namespace HardenAudit.ExtendedShell

namespace Sh

/-- Runs a command in a process that was made for it: a shell in parentheses needs no further one. -/
def runForked (run : Evaluator) (mode : Mode) (c : Command) : Sh Nat := do
  let r ← attempt do
    match c with
    | .subshell _ body =>
      goInside
      run { tested := mode.tested } body
    | .simple .. => run { mode with last := true, announced := true } c
    | _ =>
      goInside
      run { tested := mode.tested } c
  finish run r

/-- The ends of a pipe that a process uses. -/
def usePipe (source : Option Nat) (ends : Option (Nat × Nat)) : Sh Unit := do
  if let some (a, _) := ends then
    let _ ← ask (.close a)
  if let some fd := source then
    let _ ← ask (.assign fd 0)
    let _ ← ask (.close fd)
  if let some (_, b) := ends then
    if b != 1 then
      let _ ← ask (.assign b 1)
      let _ ← ask (.close b)

/-- Starts the stages of a pipeline, each in a process of its own, whose output is the input of the next;
gives the input for what comes behind them, and the last process. -/
def startStages (run : Evaluator) (mode : Mode) (job : Nat) (background openEnd : Bool) :
    List Command → (source : Option Nat) → (pid : Nat) → Sh (Option Nat × Nat)
  | [], source, pid => pure (source, pid)
  | c :: rest, source, _ => do
    let ends ← if rest.isEmpty && !openEnd then pure none else some <$> ask .pipe
    if let .simple line .. := c then
      atLine line
      announce run c
    let asksForJobs := match c with
      | .simple _ _ (.word w :: _) _ => w.raw == "jobs" && (!background || ends.isSome)
      | _ => false
    let child : Sh Nat := do
      usePipe source ends
      runForked run mode c
    let pid ← branchOff job background (background && source.isNone) child asksForJobs
    if let some fd := source then
      let _ ← ask (.close fd)
    if let some (_, b) := ends then
      let _ ← ask (.close b)
    startStages run mode job background openEnd rest (ends.map (·.1)) pid

/-- The status of a pipeline: that of its last stage, or of the last one that failed, if the shell is asked
to look at all. -/
def pipelineStatus (statuses : List Nat) : Sh Nat := do
  modify fun s => { s with stageStatuses := statuses }
  let last := (statuses.getLast?).getD 0
  if ← hasOption "pipefail" then pure (((statuses.filter (· != 0)).getLast?).getD 0)
  else pure last

/-- Runs a pipeline. -/
def runPipeline (run : Evaluator) (mode : Mode) (c : Command) (stages : List Command) : Sh Nat := do
  flush
  let job ← newJob false (c.text (← get).documents)
  let inHere ← hasExtra "lastpipe"
  match inHere, stages.getLast? with
  | true, some final =>
    let (source, _) ← startStages run mode job false true stages.dropLast none 0
    let a ← noted 0
    if let some fd := source then
      let _ ← ask (.assign fd 0)
      let _ ← ask (.close fd)
    let r ← attempt (run { tested := true } final)
    putBack [a]
    let statuses ← awaitJob job
    let status ← resume r
    pipelineStatus (statuses ++ [status])
  | _, _ =>
    let _ ← startStages run mode job false false stages none 0
    let statuses ← awaitJob job
    pipelineStatus statuses

/-- Starts a command beside the shell. -/
def runBackground (run : Evaluator) (c : Command) : Sh Nat := do
  flush
  let job ← newJob true (c.text (← get).documents)
  let stages := match c with
    | .pipeline stages => stages
    | _ => [c]
  let (_, pid) ← startStages run {} job true false stages none 0
  modify fun s => { s with lastBackground := pid }
  pure 0

/-- Runs a command in a shell of its own. -/
def runSubshell (run : Evaluator) (mode : Mode) (c body : Command) : Sh Nat := do
  let job ← newJob false (c.text (← get).documents)
  let _ ← branchOff job false false do
    goInside
    let r ← attempt (run { tested := mode.tested } body)
    finish run r
  let statuses ← awaitJob job
  pure ((statuses.getLast?).getD 0)

/-- Starts a command beside the shell, with pipes to it and from it. -/
def runCoprocess (run : Evaluator) (name : String) (c body : Command) : Sh Nat := do
  flush
  let (fromIt, itsOutput) ← ask .pipe
  let (itsInput, toIt) ← ask .pipe
  if let .simple line .. := body then
    atLine line
    announce run body
  let job ← newJob true (c.text (← get).documents)
  let pid ← branchOff job true false do
    let _ ← ask (.close fromIt)
    let _ ← ask (.close toIt)
    let _ ← ask (.assign itsInput 0)
    let _ ← ask (.close itsInput)
    let _ ← ask (.assign itsOutput 1)
    let _ ← ask (.close itsOutput)
    runForked run {} body
  let _ ← ask (.close itsOutput)
  let _ ← ask (.close itsInput)
  let moved (fd start : Nat) : Sh Nat := do
    let place ← freeDescriptor start
    let _ ← ask (.assign fd place)
    let _ ← ask (.close fd)
    pure place
  let a ← moved fromIt 64
  let b ← moved toIt 61
  modify fun s =>
    let s := s.putVariable name { value := .list (.ofList [toString a, toString b]) }
    { s.putVariable (name ++ "_PID") { value := .text (toString pid) } with lastBackground := pid }
  pure 0

end Sh
end HardenAudit.ExtendedShell
