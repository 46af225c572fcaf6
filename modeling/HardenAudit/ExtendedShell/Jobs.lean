import HardenAudit.ExtendedShell.Variables

/-!
# Jobs

Processes that a shell has started together.  A process that a signal has ended counts with the number
of the signal and 128.
-/

namespace HardenAudit.ExtendedShell

open Kernel (Awaited Ending Signal)

namespace Job

/-- Is a process of the job still running? -/
def isRunning (j : Job) : Bool := j.members.any (·.2.isNone)

/-- Can the end of the job be waited for? -/
def isAwaited (j : Job) : Bool := j.isRunning && !j.foreign

/-- Did a signal end the job? -/
def isKilled (j : Job) : Bool :=
  match j.members.getLast? with
  | some (_, some (.signal _)) => true
  | _ => false

/-- The status that an ending counts as. -/
def statusOf : Ending → Nat
  | .code n => n
  | .signal number => number + 128

/-- The status of each process. -/
def statuses (j : Job) : List Nat := j.members.map fun m => (m.2.map statusOf).getD 0

/-- The status of the job. -/
def status (j : Job) : Nat := (j.statuses.getLast?).getD 0

end Job

namespace Sh

/-- The job with a number. -/
def job? (number : Nat) : Sh (Option Job) := do
  pure ((← get).jobs.find? (·.number == number))

/-- A new job. -/
def newJob (background : Bool) (text : String) : Sh Nat := do
  let s ← get
  let jobs := s.jobs.filter fun j => j.isRunning || !j.waited
  let number := (jobs.foldl (fun n j => max n j.number) 0) + 1
  set { s with jobs := { number := number, text := text, background := background } :: jobs }
  pure number

/-- Changes a job. -/
def modifyJob (number : Nat) (f : Job → Job) : Sh Unit := modify fun s =>
  { s with jobs := s.jobs.map fun j => if j.number == number then f j else j }

/-- Forgets a job. -/
def forgetJob (number : Nat) : Sh Unit := modify fun s =>
  { s with jobs := s.jobs.filter (·.number != number) }

/-- Takes note of signals that have come. -/
def collectSignals : Sh Unit := do
  let signals ← ask .noticed
  modify fun s => { s with pending := s.pending.filter (!signals.contains ·) ++ signals }

/-- Reports a process that a signal has ended; being asked to end is reported in short. -/
def reportSignal (pid : Nat) (text : String) (how : Ending) (background : Bool := false) : Sh Unit := do
  match how with
  | .signal number =>
    if number == Signal.term then
      if !background then
        flush
        printError (Signal.wordingOf number ++ "\n")
    else if number != 2 && number != Signal.pipe then
      let wording := Signal.wordingOf number
      let shown := toString pid
      let gap := String.ofList (List.replicate (5 - shown.length) ' ')
      let fill := String.ofList (List.replicate (24 - wording.length) ' ')
      warnPlain (gap ++ shown ++ " " ++ wording ++ fill ++ text)
  | .code _ => pure ()

/-- Takes note of the end of a process. -/
def recordEnd (pid : Nat) (how : Ending) : Sh Unit := do
  let s ← get
  let owner := s.jobs.find? fun j => j.members.any fun m => m.1 == pid && m.2.isNone
  match owner with
  | none => pure ()
  | some j =>
    modifyJob j.number fun j => { j with
      members := j.members.map fun m => if m.1 == pid then (pid, some how) else m }

/-- Waits until a job has ended, whatever signals come. -/
def finishJob (number : Nat) : Sh Unit :=
  iterate (fun (_ : Unit) => do
    match ← job? number with
    | none => pure (.inr ())
    | some j =>
      if !j.isRunning then pure (.inr ())
      else
        match ← ask (.await true) with
        | .ended pid how =>
          recordEnd pid how
          pure (.inl ())
        | .interrupted =>
          collectSignals
          pure (.inl ())
        | _ => pure (.inr ())) Kernel.endless ()

/-- Takes note of all processes that have ended so far. -/
def reap : Sh Unit := do
  if (← get).jobs.any Job.isAwaited then
    iterate (fun (_ : Unit) => do
      match ← ask (.await false) with
      | .ended pid how =>
        recordEnd pid how
        pure (.inl ())
      | _ => pure (.inr ())) Kernel.endless ()

/-- Reports how a job in the background ended, if a signal ended it. -/
def reportJob (j : Job) : Sh Unit := do
  if !j.waited then
    for (pid, how) in j.members do
      if let some how := how then reportSignal pid j.text how true

/-- Forgets the jobs in the background that have ended, after a report if a signal ended them.  A script keeps
those that have ended by themselves, so that they can be asked about; their statuses are kept in any case. -/
def retire : Sh Unit := do
  let s ← get
  let goes (j : Job) : Bool :=
    j.background && !j.isRunning && (j.waited || s.origin == .text || j.isKilled)
  for j in s.jobs.reverse do
    if goes j then
      reportJob j
      let status := (j.members.getLast?.map fun m => (m.1, j.status)).toList
      modify fun s => { s with
        jobs := s.jobs.filter (·.number != j.number), finished := status ++ s.finished }

/-- Waits for a job and forgets it; gives the statuses of its processes.  A signal that ended the last one
is reported, unless the job is to be quiet. -/
def awaitJob (number : Nat) (quiet : Bool := false) : Sh (List Nat) := do
  finishJob number
  reap
  match ← job? number with
  | none => pure []
  | some j =>
    let s ← get
    if !quiet && !(s.origin == .text && s.substitution) then
      if let some (pid, some how) := j.members.getLast? then reportSignal pid j.text how
    forgetJob number
    if !quiet then retire
    pure j.statuses

/-- The signal that an action is for, if it is for one. -/
def trapSignal? (name : String) : Option Nat := Signal.ofName? (String.ofList (name.toList.drop 3))

/-- What a new process does before anything else: signals have their standard meaning unless they are
ignored, and in the background there is no input and interrupts do not count.  Jobs may stay known. -/
def settleChild (background emptyInput keepsJobs : Bool) : Sh Unit := do
  let s ← get
  for (name, action) in s.traps do
    if action != "" then
      if let some n := trapSignal? name then
        ask (.dispose n .standard)
  if background then
    ask (.dispose 2 .ignore)
    ask (.dispose 3 .ignore)
    if emptyInput then
      let _ ← ask (.close 0)
      let _ ← ask (.openFile "/dev/null" .input)
  let keeps (name : String) (action : String) : Bool :=
    action == "" || (name == "ERR" && s.options.contains "errtrace")
      || ((name == "DEBUG" || name == "RETURN") && s.options.contains "functrace")
  modify fun s => { s with
    jobs := if keepsJobs then (s.jobs.filter (·.background)).map fun j => { j with foreign := true } else []
    finished := [], pending := [], trapping := [], pipes := []
    traps := s.traps.filter fun t => keeps t.1 t.2
    outerTraps := some (s.outerTraps.getD s.traps) }

/-- Splits the shell: the child settles and runs the body, the parent adds the child to the job. -/
def branchOff (number : Nat) (background emptyInput : Bool) (body : Sh Nat) (keepsJobs : Bool := false) :
    Sh Nat := do
  flush
  let pid ← fork do
    settleChild background emptyInput keepsJobs
    body
  modifyJob number fun j => { j with members := j.members ++ [(pid, none)] }
  pure pid

end Sh
end HardenAudit.ExtendedShell
