import HardenAudit.Shell.Jobs
import HardenAudit.Shell.Options

/-!
# Commands for processes and signals: `kill`, `wait`, `trap`, `jobs`
-/

namespace HardenAudit.Shell.Builtin

open Kernel (Awaited Ending Signal)
open Sh

/-- The signal that a number or a name stands for, from a least one on. -/
def signal? (least : Nat) (text : String) : Option Nat :=
  if text != "" && text.toList.all Char.isDigit then
    let n := (digits 10 text.toList 0 0).1
    if n ≤ Signal.last then some n else none
  else
    let upper := String.ofList (text.toList.map Char.toUpper)
    if least = 0 && upper = "EXIT" then some 0
    else Signal.ofName? upper

/-- The job that a text names. -/
def namedJob (text : String) : Sh Job := do
  let jobs := (← get).jobs
  let found := match text.toList with
    | '%' :: rest =>
      if rest.isEmpty || rest = ['%'] || rest = ['+'] then jobs.head?
      else if rest = ['-'] then jobs[1]?
      else if rest.all Char.isDigit then
        jobs.find? fun j => j.number == (digits 10 rest 0 0).1
      else none
    | _ => none
  match found with
  | some j => pure j
  | none => fail ("No such job: " ++ text)

/-- How `kill` is called. -/
def killUsage : String :=
  "Usage: kill [-s sigspec | -signum | -sigspec] [pid | job]... or\nkill -l [exitstatus]"

/-- Shows the names of signals. -/
def listSignals (args : List String) : Sh Nat := do
  match args with
  | [] =>
    print "0\n"
    for n in (List.range Signal.last).map (· + 1) do
      print ((Signal.name? n).getD (toString n) ++ "\n")
    pure 0
  | text :: _ =>
    let n ← number text
    let n := if n > 128 then n - 128 else n
    if 0 < n && n ≤ Signal.last then
      print ((Signal.name? n).getD (toString n) ++ "\n")
      pure 0
    else fail ("invalid signal number or exit status: " ++ text)

/-- Sends a signal to processes. -/
def sendAll (signal : Nat) (targets : List String) : Sh Nat := do
  let mut status := 0
  for text in targets do
    let target : Int ← match text.toList with
      | '%' :: _ => do
        let j ← namedJob text
        pure (0 - (((j.members.head?.map (·.1)).getD 0 : Nat) : Int))
      | '-' :: rest => do
        let n ← number (String.ofList rest)
        pure (0 - (n : Int))
      | _ => do
        let n ← number text
        pure (n : Int)
    match ← ask (.send target signal) with
    | .ok _ => pure ()
    | .error e =>
      warn (e.text ++ "\n")
      status := 1
  pure status

/-- Sends signals, or shows their names. -/
def kill (args : List String) : Sh Nat := do
  match args with
  | [] => fail killUsage
  | first :: rest =>
    let direct := match first.toList with
      | '-' :: name => signal? 1 (String.ofList name)
      | _ => none
    match direct with
    | some signal => if rest.isEmpty then fail killUsage else sendAll signal rest
    | none =>
      let g ← if first.startsWith "-" then given "ls:" args else pure { rest := args }
      if g.options.any (·.1 == 'l') then listSignals g.rest
      else
        let signal ← match (g.options.filter (·.1 == 's')).getLast? with
          | some (_, name) =>
            match signal? 1 name with
            | some n => pure n
            | none => fail ("invalid signal number or name: " ++ name)
          | none => pure Signal.term
        if g.rest.isEmpty then fail killUsage else sendAll signal g.rest

/-! ## Waiting -/

/-- Waits until a test holds of the jobs; a signal may come first, and is given then. -/
def waitUntil (watched : Option Nat) (test : List Job → Bool) : Sh (Option Nat) :=
  iterate (fun (_ : Unit) => do
    if test (← get).jobs then pure (.inr none)
    else
      match ← ask (.await true) with
      | .ended pid how =>
        record watched pid how
        pure (.inl ())
      | .interrupted =>
        collectSignals
        let last := (← get).pending.getLast?
        pure (.inr (some (last.getD 0)))
      | _ => pure (.inr none)) Kernel.endless ()

/-- Waits for all jobs. -/
def waitForAll : Sh Nat := do
  match ← waitUntil none fun jobs => !jobs.any Job.isRunning with
  | some signal => pure (128 + signal)
  | none =>
    modify fun s => { s with jobs := s.jobs.map fun j => { j with waited := true } }
    pure 0

/-- Waits for the jobs that texts name, and gives the status of the last one. -/
def waitFor : List String → (status : Nat) → Sh Nat
  | [], status => pure status
  | text :: rest, status => do
    let found ←
      if text.startsWith "%" then do
        let j ← namedJob text
        pure (some j)
      else do
        let pid ← number text
        pure ((← get).jobs.find? fun j => (j.members.getLast?.map (·.1)) == some pid)
    match found with
    | none => waitFor rest 127
    | some j =>
      let number := j.number
      let isDone (jobs : List Job) : Bool := !jobs.any fun j => j.number == number && j.isRunning
      match ← waitUntil (some number) isDone with
      | some signal => pure (128 + signal)
      | none =>
        let status := ((← job? number).map Job.status).getD status
        modifyJob number fun j => { j with waited := true }
        waitFor rest status

/-- Waits for jobs. -/
def wait (args : List String) : Sh Nat := do
  let g ← given "" args
  if g.rest.isEmpty then waitForAll else waitFor g.rest 127

/-! ## Actions for signals -/

/-- The name under which a signal is shown. -/
def signalName (n : Nat) : String := if n = 0 then "EXIT" else (Signal.name? n).getD (toString n)

/-- Sets, resets and shows the actions for signals. -/
def trap (args : List String) : Sh Nat := do
  let g ← given "" args
  match g.rest with
  | [] =>
    let traps := (← get).traps.mergeSort fun a b => a.1 ≤ b.1
    for (signal, action) in traps do
      print ("trap -- " ++ inQuotes action ++ " " ++ signalName signal ++ "\n")
    pure 0
  | first :: rest =>
    let alone := rest.isEmpty || (first != "" && first.toList.all Char.isDigit)
    let action : Option String := if alone || first = "-" then none else some first
    let signals := if alone then g.rest else rest
    let rec go : List String → Sh Nat
      | [] => pure 0
      | text :: more => do
        match signal? 0 text with
        | none =>
          printError ("trap: " ++ text ++ ": bad trap\n")
          pure 1
        | some signal =>
          let others := (← get).traps.filter (·.1 != signal)
          modify fun s => { s with traps := match action with
            | some text => (signal, text) :: others
            | none => others }
          if signal != 0 then
            ask (.dispose signal (match action with
              | none => .standard
              | some "" => .ignore
              | some _ => .notice))
          go more
    go signals

/-! ## Jobs -/

/-- What is said about a job. -/
def Job.wording (j : Job) : String :=
  if j.isRunning then "Running"
  else
    match j.members.getLast? with
    | some (_, some (.code 0)) => "Done"
    | some (_, some (.code n)) => "Done(" ++ toString n ++ ")"
    | some (_, some (.signal n)) => Signal.wordingOf n
    | _ => "Done"

/-- Shows jobs. -/
def jobs (args : List String) : Sh Nat := do
  let g ← given "lp" args
  reap
  let chosen ← if g.rest.isEmpty then pure (← get).jobs else g.rest.mapM namedJob
  for j in chosen do
    let all := (← get).jobs
    let letter := (g.options.getLast?.map (·.1)).getD ' '
    if letter == 'p' then
      print (toString ((j.members.head?.map (·.1)).getD 0) ++ "\n")
    else
      let mark := if (all.head?.map (·.number)) == some j.number then "+"
        else if (all[1]?.map (·.number)) == some j.number then "-" else " "
      let start := "[" ++ toString j.number ++ "] " ++ mark ++ " "
      let start := if letter == 'l' then
          start ++ toString ((j.members.head?.map (·.1)).getD 0) ++ " "
        else start
      let text := start ++ Job.wording j
      let gap := String.ofList (List.replicate (33 - text.length) ' ')
      let bars := String.join ((j.members.drop 1).map fun _ => " | ")
      print (text ++ gap ++ bars ++ "\n")
    if !j.isRunning then forget j.number
  pure 0

/-- A job can be brought back only under job control. -/
def bringBack (args : List String) : Sh Nat := do
  let g ← given "" args
  match g.rest with
  | [] =>
    let s ← get
    fail (if s.jobs.isEmpty then "No current job" else "job (null) not created under job control")
  | text :: _ =>
    let _ ← namedJob text
    fail ("job " ++ text ++ " not created under job control")

end HardenAudit.Shell.Builtin
