import HardenAudit.ExtendedShell.Jobs
import HardenAudit.ExtendedShell.Parser
import HardenAudit.ExtendedShell.Redirect

/-!
# Running texts

A text is read unit by unit, and each unit is carried out before the next one is read.  Texts come from
scripts, from variables, from actions for signals, and from command substitutions.  All definitions here
take the evaluator of commands as an argument.
-/

namespace HardenAudit.ExtendedShell

/-- How a command is run. -/
structure Mode where
  /-- May the process become the program of the command? -/
  last : Bool := false
  /-- Is the status looked at, so that a failure does not end the shell? -/
  tested : Bool := false
  /-- Was the command noted as the one that runs? -/
  announced : Bool := false
  deriving Repr, Inhabited

/-- An evaluator of commands. -/
abbrev Evaluator := Mode → Command → Sh Nat

namespace Command

/-- The line of the first command that notes one. -/
def firstLine? : Command → Option Nat
  | simple line .. | redirected line .. | subshell line _ | each line .. | counting line ..
  | menu line .. | arms line .. | arith line _ | condition line _ | function line .. | coprocess line .. =>
    some line
  | pipeline stages => stages.head?.bind firstStage?
  | negation c | timed _ c | background c | group c => firstLine? c
  | both a _ | either a _ | sequence a _ => firstLine? a
  | choice a _ _ | loop _ a _ => firstLine? a
  | nothing => none
where
  /-- The line of the first stage of a pipeline. -/
  firstStage? : Command → Option Nat
    | simple line .. | redirected line .. | subshell line _ | each line .. | counting line ..
    | menu line .. | arms line .. | arith line _ | condition line _ | function line .. =>
      some line
    | _ => none

/-- May the last part of the command take the place of the shell? -/
def endsPlainly : Command → Bool
  | simple _ _ _ redirects => redirects.isEmpty
  | both _ c | either _ c | sequence _ c => endsPlainly c
  | _ => false

end Command

namespace Sh

/-! ## Reading -/

/-- A text without the characters zero. -/
def withoutNul (text : String) : String := String.ofList (text.toList.filter (·.toNat != 0))

/-- A reader for a text. -/
def readerFor (text : String) (line : Nat) : Reader := { chars := text.toList.toArray, line := line }

/-- A script under way. -/
structure Script where
  reader : Reader
  /-- The descriptor from which more text comes. -/
  source : Option Nat := none
  /-- What complaints about the text start with, behind the name of the shell. -/
  label : String := ""
  status : Nat := 0
  deriving Inhabited

/-- More text for a script: it is read character by character up to the end of a line, so that commands find
the rest of the input. -/
def refill (s : Script) : Sh Script := do
  match s.source with
  | none => pure { s with reader := { s.reader with more := false } }
  | some fd =>
    let line ← iterate (fun (cs : List Char) => do
      match ← ask (.read fd 1) with
      | .ok [b] =>
        let c := Char.ofNat b.toNat
        if c == '\n' then pure (.inr (c :: cs, false))
        else if c.toNat == 0 then pure (.inl cs)
        else pure (.inl (c :: cs))
      | _ => pure (.inr (cs, true))) Kernel.endless ([] : List Char)
    let (cs, ended) := line
    pure { s with reader := { s.reader with
      chars := s.reader.chars ++ cs.reverse.toArray, more := !ended } }

/-- Everything that can be read from a descriptor. -/
def readAll (fd : Nat) : Sh String :=
  iterate (fun (parts : List String) => do
    match ← ask (.read fd 8192) with
    | .ok (b :: bytes) => pure (.inl (Text.Raw.ofBytes (b :: bytes) :: parts))
    | _ => pure (.inr (String.join parts.reverse))) Kernel.endless []

/-- Reports what is wrong with a text. -/
def reportTrouble (label : String) (messages : List (Nat × String)) : Sh Unit := do
  let who ← speaker
  let start := who ++ ": " ++ (if label == "" then "" else label ++ ": ")
  flush
  for (line, message) in messages do
    printError (start ++ "line " ++ toString line ++ ": " ++ message ++ "\n")

/-- Shows the text that was read, if the shell is asked to. -/
def showRead (before after : Reader) : Sh Unit := do
  if ← hasOption "verbose" then
    let text := String.ofList (after.chars.extract before.place after.place).toList
    flush
    printError (if text == "" || text.endsWith "\n" then text else text ++ "\n")

/-- Runs a script unit by unit.  A unit that is given up is the end in a subshell only. -/
def runScript (run : Evaluator) (mode : Mode) (script : Script) : Sh Nat :=
  iterate (fun (script : Script) => do
    let s ← get
    let reader := { script.reader with
      aliases := if s.extras.contains "expand_aliases" then s.aliases else []
      documents := s.documents, groups := s.extras.contains "extglob" }
    match readUnit reader with
    | .error .short =>
      let script ← refill script
      pure (.inl script)
    | .error (.malformed status messages) =>
      showRead reader { reader with place := reader.chars.size }
      reportTrouble script.label messages
      modify fun s => { s with status := status }
      pure (.inr status)
    | .ok (none, after) =>
      showRead reader after
      pure (.inr script.status)
    | .ok (some c, after) =>
      showRead reader after
      reportTrouble "" after.warnings
      modify fun s => { s with documents := after.documents }
      let after := { after with warnings := [] }
      let ended := !after.more && decide (after.place ≥ after.chars.size)
      let outer ← get
      let r ← attempt (run { mode with last := mode.last && ended && c.endsPlainly } c)
      match r with
      | .ok code =>
        pure (.inl { script with reader := after, status := if c.isNothing then script.status else code })
      | .error .discard =>
        if outer.subshell > 0 then throw .discard
        else
          modify fun s => { s with running := outer.running, loops := outer.loops }
          pure (.inl { script with reader := after, status := (← get).status })
      | .error j => throw j) Kernel.endless script

/-- Runs a text whose first line has a number. -/
def runText (run : Evaluator) (label : String) (line : Nat) (text : String) (mode : Mode) : Sh Nat := do
  let outer ← get
  modify fun s => { s with shift := 0, depth := s.depth + 1 }
  let r ← attempt (runScript run mode { reader := readerFor text line, label := label })
  modify fun s => { s with shift := outer.shift, depth := outer.depth }
  resume r

/-! ## Actions for signals and events -/

/-- Runs an action; the status is the same afterwards. -/
def runAction (run : Evaluator) (name label : String) (line : Nat) (action : String) : Sh Unit := do
  let outer ← get
  modify fun s => { s with trapping := name :: s.trapping, running := none }
  let r ← attempt (runText run label line action {})
  modify fun s => { s with
    trapping := outer.trapping, running := outer.running, line := outer.line
    stageStatuses := outer.stageStatuses }
  match r with
  | .ok _ => modify fun s => { s with status := outer.status }
  | .error j => throw j

/-- Runs the action for an event, if there is one that is not running already. -/
def runEvent (run : Evaluator) (name label : String) : Sh Unit := do
  let s ← get
  match s.traps.lookup name with
  | some action =>
    if action != "" && !s.trapping.contains name then runAction run name label s.line action
  | none => pure ()

/-- Carries out the actions for signals that have come. -/
def runTraps (run : Evaluator) : Sh Unit := do
  if (← get).traps.any (fun t => t.2 != "" && (trapSignal? t.1).isSome) then collectSignals
  let s ← get
  if !s.pending.isEmpty then
    for signal in s.pending.mergeSort fun a b => a ≤ b do
      modify fun s => { s with pending := s.pending.filter (· != signal) }
      let action := (← get).traps.find? fun t => trapSignal? t.1 == some signal
      match action with
      | some (name, text) => if text != "" then runAction run name "trap handler" 1 text
      | none => pure ()

/-- The end of a shell: the action for it is carried out, and the status is settled. -/
def finish (run : Evaluator) (how : Except Jump Nat) : Sh Nat := do
  match how with
  | .ok n => modify fun s => { s with status := n }
  | .error (.return n) => modify fun s => { s with status := n }
  | .error _ => pure ()
  modify fun s => { s with running := none, loops := 0 }
  let s ← get
  match s.traps.lookup "EXIT" with
  | some action =>
    modify fun s => { s with traps := s.traps.filter (·.1 != "EXIT") }
    if action != "" then
      match ← attempt (runAction run "EXIT" "exit trap" 1 action) with
      | .ok _ => pure ()
      | .error .exit => pure ()
      | .error _ => modify fun t => { t with status := s.status }
  | none => pure ()
  flush
  pure (← get).status

/-! ## Shells inside the shell -/

/-- Makes the shell one inside another. -/
def goInside : Sh Unit := modify fun s => { s with subshell := s.subshell + 1 }

/-- The output of a part that runs in a shell of its own, without line ends at its end. -/
def captured (run : Evaluator) (body : Sh Nat) : Sh String := do
  let (source, drain) ← ask .pipe
  let job ← newJob false ""
  let child : Sh Nat := do
    goInside
    modify fun s => { s with
      substitution := true, depth := s.depth + 1
      options := if s.extras.contains "inherit_errexit" || s.options.contains "posix" then s.options
        else s.options.filter (· != "errexit") }
    let _ ← ask (.close source)
    if drain != 1 then
      let _ ← ask (.assign drain 1)
      let _ ← ask (.close drain)
    let r ← attempt body
    finish run r
  let _ ← branchOff job false false child true
  let _ ← ask (.close drain)
  let text ← readAll source
  let _ ← ask (.close source)
  let statuses ← awaitJob job true
  modify fun s => { s with substituted := (statuses.getLast?).getD 0 }
  let clean := withoutNul text
  if clean.length != text.length then
    warnPlain "warning: command substitution: ignored null byte in input"
  pure (String.ofList (clean.toList.reverse.dropWhile (· == '\n')).reverse)

/-- The highest free descriptor that is used for a pipe with a path. -/
def freeDescriptor : (candidate : Nat) → Sh Nat
  | 0 => pure 10
  | candidate + 1 => do
    match ← ask (.statusOf candidate) with
    | .ok _ => freeDescriptor candidate
    | .error _ => pure candidate

/-- The path of a pipe to or from commands, which run beside the shell. -/
def pathOfPipe (run : Evaluator) (reads : Bool) (body : Command) : Sh String := do
  let (source, drain) ← ask .pipe
  let job ← newJob true ""
  let child : Sh Nat := do
    goInside
    if reads then
      let _ ← ask (.close source)
      let _ ← ask (.assign drain 1)
      let _ ← ask (.close drain)
    else
      let _ ← ask (.close drain)
      let _ ← ask (.assign source 0)
      let _ ← ask (.close source)
    let r ← attempt (run { last := body.endsPlainly } body)
    finish run r
  let pid ← branchOff job false false child true
  forgetJob job
  let (kept, other) := if reads then (source, drain) else (drain, source)
  let _ ← ask (.close other)
  let place ← freeDescriptor 64
  let _ ← ask (.assign kept place)
  let _ ← ask (.close kept)
  modify fun s => { s with pipes := place :: s.pipes, lastBackground := pid }
  pure ("/dev/fd/" ++ toString place)

/-- Closes the pipes with paths that were made since there were so many of them. -/
def closePipes (before : List Nat) : Sh Unit := do
  let s ← get
  for fd in s.pipes.take (s.pipes.length - before.length) do
    let _ ← ask (.close fd)
  modify fun s => { s with pipes := before }

/-- What expansion needs. -/
def servicesOf (run : Evaluator) : Services where
  output body := do
    let s ← get
    match body with
    | .simple _ [] [] [.file (.number 0) .input w] =>
      -- the output is what a file holds
      let inner : Services := {
        output := fun b => captured run (run {} b)
        outputOf := fun text => captured run (runText run "command substitution" s.line text {})
        pipe := pathOfPipe run }
      match ← redirectPath? inner w with
      | none => pure ""
      | some path =>
        match ← openTarget? .input path with
        | none =>
          modify fun s => { s with substituted := 1 }
          pure ""
        | some fd =>
          let text ← readAll fd
          let _ ← ask (.close fd)
          modify fun s => { s with substituted := 0 }
          pure (String.ofList ((withoutNul text).toList.reverse.dropWhile (· == '\n')).reverse)
    | .nothing =>
      modify fun s => { s with substituted := 0 }
      pure ""
    | _ =>
      let first := (body.firstLine?).getD s.line
      captured run do
        modify fun t => { t with shift := (s.line : Int) - (first : Int) }
        run {} body
  outputOf text := do
    let s ← get
    captured run (runText run "command substitution" s.line text {})
  pipe := pathOfPipe run

/-! ## The trace -/

/-- A word as the trace shows it. -/
def tracedWord (text : String) : String :=
  if text == "" then "\x27\x27"
  else if Quoting.needsQuotes text then Quoting.single text
  else if Quoting.isUnprintable text then Quoting.dollar text
  else text

/-- The text in front of each line of the trace; its first character shows how deep the shell is. -/
def traceStart (services : Services) : Sh String := do
  let s ← get
  let text := (← lookup "PS4").getD ""
  let shown ←
    if !text.toList.any fun c => c == '$' || c == '\x60' || c == '\\' then pure text
    else do
      modify fun s => { s with tracing := true }
      let shown ← match readPieces .document (readerFor text s.line) with
        | .ok (pieces, _) => do
          let cells ← cellsOf services { quoted := true } pieces
          pure (Cell.text cells)
        | .error _ => pure text
      modify fun t => { t with tracing := s.tracing, status := s.status }
      pure shown
  pure (match shown.toList with
    | [] => ""
    | c :: cs => String.ofList (List.replicate (max s.depth 1) c ++ cs))

/-- Shows a line of the trace, if the shell is asked to. -/
def trace (services : Services) (text : String) : Sh Unit := do
  let s ← get
  if s.options.contains "xtrace" && !s.tracing then
    let start ← traceStart services
    flush
    printError (start ++ text ++ "\n")

end Sh
end HardenAudit.ExtendedShell
