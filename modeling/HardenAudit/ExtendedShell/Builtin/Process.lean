import HardenAudit.ExtendedShell.Builtin.Input
import HardenAudit.ExtendedShell.Jobs

/-!
# Commands for processes and signals: `kill`, `wait`, `trap`, `jobs`
-/

namespace HardenAudit.ExtendedShell.Builtin

open Kernel (Awaited Ending Signal)
open Sh

/-! ## Signals -/

/-- The name of a signal, without what all names start with. -/
def signalName? (n : Nat) : Option String :=
  if n == 16 then some "STKFLT" else if n == 32 || n == 33 then none else Signal.name? n

/-- Events that are no signals. -/
def eventNames : List String := ["EXIT", "DEBUG", "ERR", "RETURN"]

/-- The signal that a number or a name stands for; zero stands for the end of the shell. -/
def signal? (text : String) : Option Nat :=
  if text != "" && text.toList.all Char.isDigit then
    let n := (Shell.digits 10 text.toList 0 0).1
    if n ≤ Signal.last then some n else none
  else
    let upper := String.ofList (text.toList.map Char.toUpper)
    let name := if upper.startsWith "SIG" then String.ofList (upper.toList.drop 3) else upper
    if upper == "EXIT" then some 0
    else ((List.range (Signal.last + 1)).drop 1).find? fun n => signalName? n == some name

/-- The list of all signals, five in a row. -/
def signalTable : String :=
  let known := ((List.range (Signal.last + 1)).drop 1).filterMap fun n =>
    (signalName? n).map fun name => (n, name)
  let cell (i : Nat) (e : Nat × String) : String :=
    let number := toString e.1
    (if number.length < 2 then " " else "") ++ number ++ ") SIG" ++ e.2
      ++ (if i % 5 == 4 then "\n" else "\t")
  let cells := known.zipIdx.map fun e => cell e.2 e.1
  String.join cells ++ (if known.length % 5 == 0 then "" else "\n")

/-- The job that a text names. -/
def namedJob? (text : String) : Sh (Option Job) := do
  let jobs := (← get).jobs.filter (·.background)
  pure (match text.toList with
    | '%' :: rest =>
      if rest.isEmpty || rest == ['%'] || rest == ['+'] then jobs.head?
      else if rest == ['-'] then jobs[1]?.or jobs.head?
      else if rest.all Char.isDigit then
        jobs.find? fun j => j.number == (Shell.digits 10 rest 0 0).1
      else
        match rest with
        | '?' :: part => jobs.find? fun j => (j.text.splitOn (String.ofList part)).length > 1
        | _ => jobs.find? fun j => j.text.startsWith (String.ofList rest)
    | _ => none)

/-- Shows names and numbers of signals. -/
def listSignals (args : List String) : Sh Nat := do
  if args.isEmpty then
    print signalTable
    return 0
  let mut status := 0
  for text in args do
    let wrong : Sh Unit := warn (text ++ ": invalid signal specification")
    if text.toList.all Char.isDigit && text != "" then
      let n := (Shell.digits 10 text.toList 0 0).1
      let n := if n > 128 then n - 128 else n
      match if n == 0 then some "EXIT" else signalName? n with
      | some name => print (name ++ "\n")
      | none =>
        wrong
        status := 1
    else
      match signal? text with
      | some n => print (toString n ++ "\n")
      | none =>
        wrong
        status := 1
  return status

/-- Sends a signal to processes; the status is zero if one of them got it. -/
def sendAll (signal : Nat) (targets : List String) : Sh Nat := do
  let mut reached := false
  for text in targets do
    let target : Option Int ← match text.toList with
      | '%' :: _ => do
        match ← namedJob? text with
        | some j => pure (some (((j.members.head?.map (·.1)).getD 0 : Nat) : Int))
        | none =>
          warn (text ++ ": no such job")
          pure none
      | _ =>
        match Shell.wholeNumber? 10 text with
        | some n => pure (some n)
        | none => do
          warn (text ++ ": arguments must be process or job IDs")
          pure none
    if let some n := target then
      match ← ask (.send n signal) with
      | .ok _ => reached := true
      | .error e => warn ("(" ++ toString n ++ ") - " ++ e.text)
  return if reached then 0 else 1

/-- Sends signals, or shows their names. -/
def kill (args : List String) : Sh Nat := do
  let usage : Sh Nat := do
    showUsage
    pure 2
  let send (signal : Nat) (targets : List String) : Sh Nat :=
    if targets.isEmpty then usage else sendAll signal targets
  let chosen (text : String) (targets : List String) : Sh Nat := do
    match signal? text with
    | some n => send n targets
    | none =>
      warn (text ++ ": invalid signal specification")
      pure 1
  match args with
  | [] => usage
  | first :: rest =>
    let rest' := if rest.head? == some "--" then rest.drop 1 else rest
    match first.toList with
    | ['-', 'l'] | ['-', 'L'] => listSignals rest
    | ['-', 's'] | ['-', 'n'] =>
      match rest with
      | [] =>
        warn (first ++ ": option requires an argument")
        pure 1
      | name :: rest => chosen name (if rest.head? == some "--" then rest.drop 1 else rest)
    | ['-', '-'] => send Signal.term rest
    | '-' :: 's' :: c :: cs =>
      if (signal? (String.ofList ('s' :: c :: cs))).isSome then chosen (String.ofList ('s' :: c :: cs)) rest'
      else chosen (String.ofList (c :: cs)) rest'
    | '-' :: 'n' :: c :: cs => chosen (String.ofList (c :: cs)) rest'
    | '-' :: c :: cs => chosen (String.ofList (c :: cs)) rest'
    | _ => send Signal.term args

/-! ## Waiting -/

/-- Waits until a test holds of the jobs; a signal may come first, and is given then. -/
def waitUntil (test : List Job → Bool) : Sh (Option Nat) :=
  iterate (fun (_ : Unit) => do
    if test (← get).jobs then pure (.inr none)
    else
      match ← ask (.await true) with
      | .ended pid how =>
        recordEnd pid how
        pure (.inl ())
      | .interrupted =>
        collectSignals
        let last := (← get).pending.getLast?
        match last with
        | some n => pure (.inr (some n))
        | none => pure (.inl ())
      | _ => pure (.inr none)) Kernel.endless ()

/-- Notes the end of a job that was waited for; gives its status. -/
def settleJob (number : Nat) : Sh Nat := do
  match ← job? number with
  | some j =>
    reportJob j
    modifyJob number fun j => { j with waited := true }
    retire
    pure j.status
  | none => pure 127

/-- Waits for all jobs. -/
def waitForAll : Sh Nat := do
  match ← waitUntil fun jobs => !jobs.any Job.isAwaited with
  | some signal => pure (128 + signal)
  | none =>
    for j in (← get).jobs do
      reportJob j
    modify fun s => { s with jobs := s.jobs.map fun j => { j with waited := true } }
    retire
    pure 0

/-- Waits for the jobs that texts name, and gives the status of the last one. -/
def waitFor : List String → (status : Nat) → Sh Nat
  | [], status => pure status
  | text :: rest, _ => do
    let found : Except Nat Job ← do
      if text.startsWith "%" then do
        match ← namedJob? text with
        | some j => pure (.ok j)
        | none =>
          warn (text ++ ": no such job")
          pure (.error 127)
      else
        match Shell.wholeNumber? 10 text with
        | none => do
          warn ("\x60" ++ text ++ "\x27: not a pid or valid job spec")
          pure (.error 1)
        | some n =>
          let s ← get
          match s.jobs.find? fun j => !j.foreign && j.members.any fun m => (m.1 : Int) == n with
          | some j => pure (.ok j)
          | none =>
            match s.finished.find? fun f => (f.1 : Int) == n with
            | some (_, status) => pure (.error status)
            | none => do
              warn ("pid " ++ text ++ " is not a child of this shell")
              pure (.error 127)
    match found with
    | .error status => waitFor rest status
    | .ok j =>
      let number := j.number
      let isDone (jobs : List Job) : Bool := !jobs.any fun j => j.number == number && j.isRunning
      match ← waitUntil isDone with
      | some signal => pure (128 + signal)
      | none =>
        let status ← settleJob number
        waitFor rest status

/-- Waits for one of some jobs to end. -/
def waitForNext (names : List String) (keep : Option String) : Sh Nat := do
  let chosen ← if names.isEmpty then pure ((← get).jobs.filter fun j => j.background && !j.waited && !j.foreign)
    else do
      let mut found : List Job := []
      for name in names do
        let j? ← if name.startsWith "%" then namedJob? name
          else pure ((← get).jobs.find? fun j => j.members.any fun m => toString m.1 == name)
        match j? with
        | some j => found := found ++ [j]
        | none => warn (name ++ ": no such job")
      pure found
  if chosen.isEmpty then return 127
  let numbers := chosen.map (·.number)
  let isDone (jobs : List Job) : Bool := jobs.any fun j => numbers.contains j.number && !j.isRunning
  match ← waitUntil isDone with
  | some signal => return 128 + signal
  | none =>
    match (← get).jobs.reverse.find? fun j => numbers.contains j.number && !j.isRunning with
    | some j =>
      if let some name := keep then
        let _ ← assignNamed name (toString ((j.members.getLast?.map (·.1)).getD 0))
      settleJob j.number
    | none => return 127

/-- Waits for jobs. -/
def wait (args : List String) : Sh Nat :=
  withOptions "fnp:" args fun g => do
    match g.value? 'p' with
    | some name =>
      if !isReference name then return ← badName name
      modify fun s => s.removeVariable name
    | none => pure ()
    if g.has 'n' then waitForNext g.rest (g.value? 'p')
    else if g.rest.isEmpty then waitForAll
    else waitFor g.rest 0

/-! ## Actions for signals and events -/

/-- The name under which the action for a signal or an event is kept. -/
def trapName? (text : String) : Option String :=
  let upper := String.ofList (text.toList.map Char.toUpper)
  if eventNames.contains upper then some upper
  else
    match signal? text with
    | some 0 => some "EXIT"
    | some n => (signalName? n).map ("SIG" ++ ·)
    | none => none

/-- The names under which actions are kept, in the order in which they are shown. -/
def trapOrder : List String :=
  "EXIT" :: (((List.range (Signal.last + 1)).drop 1).filterMap fun n => (signalName? n).map ("SIG" ++ ·))
    ++ ["DEBUG", "ERR", "RETURN"]

/-- An action as it is shown. -/
def shownTrap (name action : String) : String :=
  "trap -- " ++ Quoting.single action ++ " " ++ name ++ "\n"

/-- Changes the action for a signal or an event; none resets it. -/
def setTrap (name : String) (action : Option String) : Sh Unit := do
  let others := (← get).traps.filter (·.1 != name)
  modify fun s => { s with
    traps := match action with
      | some text => (name, text) :: others
      | none => others
    outerTraps := none }
  if let some n := trapSignal? name then
    if !Signal.isFirm n then
      ask (.dispose n (match action with
        | none => .standard
        | some "" => .ignore
        | some _ => .notice))

/-- Sets, resets and shows actions. -/
def trap (args : List String) : Sh Nat :=
  withOptions "lp" args fun g => do
    if g.has 'l' then
      print signalTable
      return 0
    let wrong (text : String) : Sh Unit := warn (text ++ ": invalid signal specification")
    if g.has 'p' || g.rest.isEmpty then
      let traps := (← get).outerTraps.getD (← get).traps
      if g.rest.isEmpty then
        for name in trapOrder do
          if let some action := traps.lookup name then print (shownTrap name action)
        return 0
      let mut status := 0
      for text in g.rest do
        match trapName? text with
        | some name =>
          if let some action := traps.lookup name then print (shownTrap name action)
        | none =>
          wrong text
          status := 1
      return status
    match g.rest with
    | [] => return 0
    | first :: rest =>
      let numeric := first != "" && first.toList.all Char.isDigit && (trapName? first).isSome
      let alone := rest.isEmpty && (trapName? first).isSome
      if rest.isEmpty && !alone then
        showUsage
        return 2
      let resets := numeric || alone
      let action := if resets || first == "-" then none else some first
      let mut status := 0
      for text in (if resets then g.rest else rest) do
        match trapName? text with
        | some name => setTrap name action
        | none =>
          wrong text
          status := 1
      return status

/-! ## Jobs -/

/-- What is said about a job. -/
def jobWording (j : Job) : String :=
  if j.isRunning then "Running"
  else
    match j.members.getLast? with
    | some (_, some (.code 0)) => "Done"
    | some (_, some (.code n)) => "Exit " ++ toString n
    | some (_, some (.signal n)) => Signal.wordingOf n
    | _ => "Done"

/-- Shows jobs. -/
def jobs (args : List String) : Sh Nat :=
  withOptions "lnprs" args fun g => do
    reap
    let known := (← get).jobs.filter fun j => j.background && !j.waited
    let mut chosen : List Job := []
    let mut status := 0
    if g.rest.isEmpty then chosen := known.mergeSort fun a b => a.number ≤ b.number
    else
      for text in g.rest do
        match ← namedJob? text with
        | some j => chosen := chosen ++ [j]
        | none =>
          warn (text ++ ": no such job")
          status := 1
    for j in chosen do
      let wanted := (!g.has 'r' || j.isRunning) && !g.has 's'
      if wanted then
        let pid := toString ((j.members.head?.map (·.1)).getD 0)
        if g.has 'p' then print (pid ++ "\n")
        else
          let sign := if (known.head?.map (·.number)) == some j.number then "+"
            else if (known[1]?.map (·.number)) == some j.number then "-" else " "
          let wording := jobWording j
          let fill := String.ofList (List.replicate (24 - wording.length) ' ')
          print ("[" ++ toString j.number ++ "]" ++ sign ++ (if g.has 'l' then " " ++ String.ofList (List.replicate (5 - pid.length) ' ') ++ pid ++ " " else "  ")
            ++ wording ++ fill ++ j.text ++ (if j.isRunning then " &" else "") ++ "\n")
      if !j.isRunning then modifyJob j.number fun j => { j with waited := true }
    return status

/-- Forgets jobs. -/
def disown (args : List String) : Sh Nat :=
  withOptions "har" args fun g => do
    if g.has 'h' then return 0
    if g.has 'a' || (g.has 'r' && g.rest.isEmpty) then
      modify fun s => { s with jobs := s.jobs.filter fun j => !j.background }
      return 0
    let names := if g.rest.isEmpty then ["%+"] else g.rest
    let mut status := 0
    for text in names do
      let found ← if text.startsWith "%" then namedJob? text
        else pure ((← get).jobs.find? fun j => j.members.any fun m => toString m.1 == text)
      match found with
      | some j => forgetJob j.number
      | none =>
        warn ((if g.rest.isEmpty then "current" else text) ++ ": no such job")
        status := 1
    return status

/-- A job can be brought back only under job control. -/
def bringBack (_ : List String) : Sh Nat := do
  warn "no job control"
  pure 1

end HardenAudit.ExtendedShell.Builtin
