import HardenAudit.Shell.State

/-!
# Jobs

Processes that a shell has started together.  The status of a job is that of its last process; a
process that a signal has ended counts with the number of the signal and 128.
-/

namespace HardenAudit.Shell

open Kernel (Awaited Disposition Ending Signal)

/-- Why a shell splits in two. -/
inductive Branch where
  | foreground
  | background
  /-- For a command substitution. -/
  | substitution
  deriving DecidableEq, Repr, Inhabited

namespace Job

/-- Is a process of the job still running? -/
def isRunning (j : Job) : Bool := j.members.any (·.2.isNone)

/-- The status that an ending counts as. -/
def statusOf : Ending → Nat
  | .code n => n
  | .signal number => number + 128

/-- The status of the job. -/
def status (j : Job) : Nat :=
  match j.members.getLast? with
  | some (_, some how) => statusOf how
  | _ => 0

end Job

/-- The message about the end of a process that a job waited for, if there is one. -/
def endMessage? : Ending → Option String
  | .signal number =>
    if number == 2 || number == Signal.pipe then none else some (Signal.wordingOf number ++ "\n")
  | .code _ => none

namespace Sh

/-- The job with a number. -/
def job? (number : Nat) : Sh (Option Job) := do
  pure ((← get).jobs.find? (·.number == number))

/-- A new job; ended ones that nobody asks for any more are forgotten. -/
def newJob : Sh Nat := do
  let s ← get
  let jobs := s.jobs.filter fun j => j.isRunning || !j.waited
  let used := jobs.map (·.number)
  let number := ((List.range (used.length + 1)).map (· + 1)).find? (!used.contains ·)
  let number := number.getD 1
  set { s with jobs := { number := number } :: jobs }
  pure number

/-- Changes a job. -/
def modifyJob (number : Nat) (f : Job → Job) : Sh Unit := modify fun s =>
  { s with jobs := s.jobs.map fun j => if j.number == number then f j else j }

/-- Forgets a job. -/
def forget (number : Nat) : Sh Unit := modify fun s =>
  { s with jobs := s.jobs.filter (·.number != number) }

/-- Takes note of signals that have come. -/
def collectSignals : Sh Unit := do
  let signals ← ask .noticed
  modify fun s => { s with pending := s.pending.filter (!signals.contains ·) ++ signals }

/-- Takes note of the end of a process. -/
def record (watched : Option Nat) (pid : Nat) (how : Ending) : Sh Unit := do
  let s ← get
  let owner := s.jobs.find? fun j => j.members.any fun m => m.1 == pid && m.2.isNone
  match owner with
  | none => pure ()
  | some j =>
    modifyJob j.number fun j => { j with
      members := j.members.map fun m => if m.1 == pid then (pid, some how) else m }
    if watched == some j.number then
      if let some text := endMessage? how then printError text

/-- Waits until a job has ended, whatever signals come. -/
def finishJob (number : Nat) : Sh Unit :=
  iterate (fun (_ : Unit) => do
    match ← job? number with
    | none => pure (.inr ())
    | some j =>
      if !j.isRunning then pure (.inr ())
      else
        match ← ask (.await true) with
        | .ended pid how =>
          record (some number) pid how
          pure (.inl ())
        | .interrupted =>
          collectSignals
          pure (.inl ())
        | _ => pure (.inr ())) Kernel.endless ()

/-- Takes note of all processes that have ended so far. -/
def reap : Sh Unit := do
  if (← get).jobs.any Job.isRunning then
    iterate (fun (_ : Unit) => do
      match ← ask (.await false) with
      | .ended pid how =>
        record none pid how
        pure (.inl ())
      | _ => pure (.inr ())) Kernel.endless ()

/-- Waits for a job and forgets it; gives its status. -/
def awaitJob (number : Nat) : Sh Nat := do
  finishJob number
  reap
  let status := ((← job? number).map Job.status).getD 0
  forget number
  pure status

/-- What a new process does before anything else: it has no traps and no jobs of its own, and in the
background it has no input and does not mind interrupts. -/
def settleChild (branch : Branch) (first : Bool) : Sh Unit := do
  let s ← get
  for (signal, action) in s.traps do
    if action != "" && signal != 0 then
      ask (.dispose signal .standard)
  if branch == .background then
    ask (.dispose 2 .ignore)
    ask (.dispose 3 .ignore)
    if first then
      let _ ← ask (.close 0)
      let _ ← ask (.openFile "/dev/null" .input)
  modify fun s => { s with
    jobs := [], pending := [], aside := [], traps := s.traps.filter (·.2 == "") }

/-- Splits the shell: the child settles and runs the body, the parent adds the child to the job. -/
def branchOff (branch : Branch) (number : Nat) (body : Sh Nat) : Sh Nat := do
  let first := ((← job? number).map (·.members.isEmpty)).getD true
  let pid ← fork do
    settleChild branch first
    body
  modifyJob number fun j => { j with members := j.members ++ [(pid, none)] }
  if branch == .background then modify fun s => { s with lastBackground := pid }
  pure pid

end Sh
end HardenAudit.Shell
