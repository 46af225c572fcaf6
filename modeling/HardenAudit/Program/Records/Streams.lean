import HardenAudit.Program.Records.State
import HardenAudit.Program.Records.Token
import HardenAudit.Shell.Syntax

/-!
# Where records come from and where output goes

Files and commands are opened when they are first used and stay open until they are closed or the
script ends.
-/

namespace HardenAudit.Program.Records.Rec

open Kernel (Ending Opening Refusal)

/-! ## Writing -/

/-- Bytes of output that wait at most before they are passed on. -/
def waitLimit : Nat := 4096

/-- Writes a raw text; says why not, if that fails. -/
def writeAll (fd : Nat) (text : String) : Rec (Option Refusal) :=
  iterate (fun (bytes : Text.Bytes) => do
    if bytes.isEmpty then pure (.inr none)
    else
      match ← ask (.write fd bytes) with
      | .ok count => pure (.inl (bytes.drop count))
      | .error e => pure (.inr (some e))) Kernel.endless (Text.Raw.toBytes text)

/-- Passes on what waits; gives the drain afterwards and why that failed. -/
def pass (d : Drain) : Rec (Drain × Option Refusal) := do
  if d.size = 0 then pure (d, none)
  else
    let e ← writeAll d.fd (String.join d.waiting.reverse)
    pure ({ d with waiting := [], size := 0 }, e)

/-- Adds to what waits, and passes it on if it is too much. -/
def add (d : Drain) (text : String) : Rec Drain := do
  let d := { d with waiting := text :: d.waiting, size := d.size + text.length }
  if d.size < waitLimit && d.fd != 2 then pure d
  else
    match ← pass d with
    | (d, none) => pure d
    | (_, some e) => do
      printError ((← get).name ++ ": write failure (" ++ e.text ++ ")\n")
      modify fun s => { s with status := 2 }
      throw .failed

/-- Passes on all output. -/
def flushAll : Rec Unit := do
  let s ← get
  let (out, _) ← pass s.output
  let drains ← s.drains.mapM fun (name, d) => do
    let (d, _) ← pass d
    pure (name, d)
  modify fun s => { s with output := out, drains := drains }

/-- Adds to the standard output. -/
def put (text : String) : Rec Unit := do
  let s ← get
  let d ← add s.output text
  modify fun s => { s with output := d }

/-! ## Commands -/

/-- Starts a command; `adjust` is done first in its process. -/
def start (command : String) (adjust : Rec Unit) : Rec Nat := do
  let env := (← get).env
  Kernel.Course.fork (fun _ _ => 127) do
    adjust
    let _ ← ask (.execute "/bin/sh" ["/bin/sh", "-c", command] env)
    (Kernel.Course.exit 127 : Rec Nat)

/-- The status of an ending. -/
def statusOf : Ending → Nat
  | .code n => n
  | .signal n => 256 + n

/-- Waits for a command. -/
def await (pid : Nat) : Rec Nat :=
  iterate (fun (_ : Unit) => do
    match ← ask (.await true) with
    | .ended p how => pure (if p == pid then .inr (statusOf how) else .inl ())
    | .childless => pure (.inr 0)
    | _ => pure (.inl ())) Kernel.endless ()

/-- A descriptor that commands do not get. -/
def withhold (fd : Nat) : Rec Nat := do
  match ← ask (.duplicate fd 10 true) with
  | .ok other =>
    let _ ← ask (.close fd)
    pure other
  | .error _ => pure fd

/-- Makes one descriptor the same as another, which is closed. -/
def lead (fd target : Nat) : Rec Unit := do
  if fd != target then
    let _ ← ask (.assign fd target)
    let _ ← ask (.close fd)

/-- Runs a command and gives its status. -/
def runCommand (command : String) : Rec Nat := do
  flushAll
  let pid ← start command (pure ())
  await pid

/-! ## Output -/

/-- Where output goes. -/
inductive Way where
  | file
  | append
  | command
  deriving DecidableEq, Repr, Inhabited

/-- Opens something for output. -/
def openDrain (way : Way) (name : String) : Rec Drain := do
  let file (how : Opening) : Rec Drain := do
    match ← ask (.openFile name how) with
    | .ok fd =>
      let fd ← withhold fd
      pure { fd := fd }
    | .error e => giveUp ("cannot open \"" ++ name ++ "\" for output (" ++ e.text ++ ")")
  match way with
  | .file =>
    if name = "/dev/stdout" || name = "-" then pure { fd := 1 }
    else if name = "/dev/stderr" then pure { fd := 2 }
    else file .output
  | .append => if name = "/dev/stdout" then pure { fd := 1 } else if name = "/dev/stderr" then pure { fd := 2 } else file .extension
  | .command =>
    flushAll
    let (source, drain) ← ask .pipe
    let pid ← start name do
      let _ ← ask (.close drain)
      lead source 0
    let _ ← ask (.close source)
    let fd ← withhold drain
    pure { fd := fd, pid := some pid }

/-- Writes to a file or a command. -/
def putTo (way : Way) (name text : String) : Rec Unit := do
  if way != .command && (name = "/dev/stdout" || name = "-") then put text
  else
    let d ← match (← get).drains.lookup name with
      | some d => pure d
      | none => openDrain way name
    let d ← add d text
    modify fun s => { s with drains := (name, d) :: s.drains.filter (·.1 != name) }

/-- Ends a drain: passes on what waits, and waits for the command. -/
def closeDrain (d : Drain) : Rec Int := do
  let _ ← pass d
  if d.fd > 2 then
    let _ ← ask (.close d.fd)
  match d.pid with
  | some pid =>
    let status ← await pid
    pure status
  | none => pure 0

/-! ## Input -/

/-- Bytes that are read at once. -/
def readSize : Nat := 4096

/-- More of the input. -/
def refill (s : Supply) : Rec Supply := do
  match ← ask (.read s.fd readSize) with
  | .ok [] => pure { s with ended := true }
  | .ok bytes => pure { s with left := s.left ++ (Text.Raw.ofBytes bytes).toList }
  | .error e => giveUp ("read error (" ++ e.text ++ ")")

/-- All of the input. -/
def refillAll (s : Supply) : Rec Supply :=
  iterate (fun (s : Supply) => do
    if s.ended then pure (.inr s)
    else
      let s ← refill s
      pure (.inl s)) Kernel.endless s

/-- The next record up to a character. -/
def takeUpTo (c : Char) (s : Supply) : Rec (Option String × Supply) :=
  iterate (fun (s : Supply) => do
    let front := s.left.takeWhile (· != c)
    match s.left.drop front.length with
    | _ :: rest => pure (.inr (some (String.ofList front), { s with left := rest }))
    | [] =>
      if !s.ended then
        let s ← refill s
        pure (.inl s)
      else if s.left.isEmpty then pure (.inr (none, s))
      else pure (.inr (some (String.ofList s.left), { s with left := [] }))) Kernel.endless s

/-- The next record up to an empty line. -/
def takeParagraph (s : Supply) : Rec (Option String × Supply) := do
  let s ← refillAll s
  let start := s.left.dropWhile (· == '\n')
  if start.isEmpty then pure (none, { s with left := [] })
  else
    let lines := (String.ofList start).splitOn "\n\n"
    let first := lines.head?.getD ""
    let rest := (start.drop (first.length + 2)).dropWhile (· == '\n')
    let text := if lines.length > 1 then first
      else if first.endsWith "\n" then String.ofList (first.toList.dropLast) else first
    pure (some text, { s with left := rest })

/-- The next record up to a match. -/
def takeUpToMatch (r : Regex) (s : Supply) : Rec (Option String × Supply) := do
  let s ← refillAll s
  if s.left.isEmpty then pure (none, s)
  else
    let t : Regex.Subject := { chars := s.left.toArray }
    match r.search? t (fun a b => b > a) 0 with
    | some m =>
      pure (some (String.ofList (t.slice 0 m.start)), { s with left := s.left.drop m.finish })
    | none => pure (some (String.ofList s.left), { s with left := [] })

/-- The next record of a supply. -/
def takeRecord (s : Supply) : Rec (Option String × Supply) := do
  let rs ← specialText "RS"
  match rs.toList with
  | [] => takeParagraph s
  | [c] => takeUpTo c s
  | _ => do
    let r ← regexOf rs
    takeUpToMatch r s

/-! ## The main input -/

/-- Opens a file that is named as an argument. -/
def openArgument (name : String) : Rec Supply := do
  if name = "-" || name = "/dev/stdin" then pure { fd := 0 }
  else
    match ← ask (.openFile name .input) with
    | .ok fd =>
      let fd ← withhold fd
      pure { fd := fd }
    | .error e => giveUp ("cannot open " ++ name ++ " (" ++ e.text ++ ")")

/-- Assigns a text from outside to a variable of the script; others do not matter. -/
def assignGiven (name text : String) : Rec Unit := do
  match (← get).script.names.findIdx? (· == name) with
  | some i => setVariable (.shared i) (.input text)
  | none => pure ()

/-- The next argument that is a file, or the standard input if there are none; nothing at the end.
Arguments that are assignments are carried out on the way. -/
def nextInput : Rec (Option Supply) := do
  have : Inhabited (Option Supply) := ⟨none⟩
  iterate (fun (_ : Unit) => do
    let s ← get
    let total ← specialValue "ARGC"
    if s.argument ≥ (wholeOf total.toNumber).toNat then
      if s.anyFile then pure (.inr none)
      else
        modify fun s => { s with anyFile := true }
        pure (.inr (some { fd := 0 }))
    else
      let n ← tableNumber (.shared (special "ARGV"))
      let arguments ← table n
      modify fun s => { s with argument := s.argument + 1 }
      match arguments.get? (.number s.argument) with
      | none => pure (.inl ())
      | some v =>
        let text ← textOf v
        let name := text.toList.takeWhile (· != '=')
        if text = "" then pure (.inl ())
        else if Shell.isName (String.ofList name) && name.length < text.length then
          assignGiven (String.ofList name)
            (unescaped (String.ofList (text.toList.drop (name.length + 1))))
          pure (.inl ())
        else
          modify fun s => { s with anyFile := true }
          let supply ← openArgument text
          setSpecial "FILENAME" (.text text)
          setSpecial "FNR" (.number 0)
          pure (.inr (some supply))) Kernel.endless ()

/-- Ends the file that is being read. -/
def endInput : Rec Unit := do
  let s ← get
  if let some i := s.input then
    if i.fd > 2 then
      let _ ← ask (.close i.fd)
  set { s with input := none }

/-- The next record of the main input; nothing at the end. -/
def nextMain : Rec (Option String) :=
  iterate (fun (_ : Unit) => do
    let s ← get
    if s.finished then pure (.inr none)
    else
      match s.input with
      | none =>
        match ← nextInput with
        | some i =>
          modify fun s => { s with input := some i }
          pure (.inl ())
        | none =>
          modify fun s => { s with finished := true }
          pure (.inr none)
      | some i =>
        let (r, i) ← takeRecord i
        match r with
        | some text =>
          modify fun s => { s with input := some i }
          pure (.inr (some text))
        | none =>
          endInput
          pure (.inl ())) Kernel.endless ()

/-! ## Other input -/

/-- The supply for a file or a command; none if it cannot be opened. -/
def supplyFor (command : Bool) (name : String) : Rec (Option Supply) := do
  match (← get).supplies.lookup name with
  | some s => pure (some s)
  | none =>
    if command then
      flushAll
      let (source, drain) ← ask .pipe
      let pid ← start name do
        let _ ← ask (.close source)
        lead drain 1
      let _ ← ask (.close drain)
      let fd ← withhold source
      pure (some { fd := fd, pid := some pid })
    else if name = "-" || name = "/dev/stdin" then pure (some { fd := 0 })
    else
      match ← ask (.openFile name .input) with
      | .ok fd =>
        let fd ← withhold fd
        pure (some { fd := fd })
      | .error _ => pure none

/-- The next record of a file or a command: none if it cannot be opened, nothing in it at the end. -/
def nextFrom (command : Bool) (name : String) : Rec (Option (Option String)) := do
  match ← supplyFor command name with
  | none => pure none
  | some s =>
    let (r, s) ← takeRecord s
    modify fun st => { st with supplies := (name, s) :: st.supplies.filter (·.1 != name) }
    pure (some r)

/-- Closes a supply. -/
def closeSupply (s : Supply) : Rec Int := do
  if s.fd > 2 then
    let _ ← ask (.close s.fd)
  match s.pid with
  | some pid =>
    let status ← await pid
    pure status
  | none => pure 0

/-- Closes all that has a name; gives a status, or one below zero if there is nothing. -/
def closeNamed (name : String) : Rec Int := do
  let s ← get
  match s.drains.lookup name, s.supplies.lookup name with
  | some d, _ =>
    modify fun s => { s with drains := s.drains.filter (·.1 != name) }
    flushAll
    closeDrain d
  | none, some i =>
    modify fun s => { s with supplies := s.supplies.filter (·.1 != name) }
    closeSupply i
  | none, none => pure (-1)

/-- Closes everything at the end; fails if the standard output cannot be written. -/
def closeAll : Rec Unit := do
  let s ← get
  for (_, d) in s.drains do
    if d.pid.isSome then
      let _ ← closeDrain d
  for (_, d) in s.drains do
    if d.pid.isNone then
      let _ ← closeDrain d
  let (out, e) ← pass (← get).output
  modify fun s => { s with output := out, drains := [] }
  if let some e := e then
    printError (s.name ++ ": close failed on file \"/dev/stdout\" (" ++ e.text ++ ")\n")
    modify fun s => { s with status := 2 }

end HardenAudit.Program.Records.Rec
