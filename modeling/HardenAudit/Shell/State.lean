import HardenAudit.Kernel.Course
import HardenAudit.Kernel.Signal
import HardenAudit.Shell.Source
import HardenAudit.SortedMap

/-!
# The state of a shell

Variables, functions, options and everything else that commands change, and the monad in which they
run: each may ask the kernel for something, change the state, and break off.
-/

namespace HardenAudit.Shell

open Kernel (Ending Refusal Request Routine Work)

/-- A variable; one that was only marked has no value. -/
structure Variable where
  value : Option String := none
  exported : Bool := false
  readOnly : Bool := false
  deriving Repr, Inhabited

/-- A function. -/
structure Function where
  line : Nat
  body : Command
  deriving Inhabited

/-- What is skipped after a command. -/
inductive Skip where
  | nothing
  /-- The rest of so many loops. -/
  | break (loops : Nat)
  /-- The rest of this turn of so many loops. -/
  | continue (loops : Nat)
  /-- The rest of the function or the script; was a status given? -/
  | return (given : Bool)
  deriving DecidableEq, Repr, Inhabited

/-- Why commands break off. -/
inductive Jump where
  /-- An error, which was reported already. -/
  | error
  /-- The command to leave the shell. -/
  | exit
  /-- The shell has done its last command. -/
  | finished
  deriving DecidableEq, Repr, Inhabited

/-- Processes that were started together. -/
structure Job where
  number : Nat
  members : List (Nat × Option Ending) := []
  text : String := ""
  /-- Has the end of the job been taken note of, so that it may be forgotten? -/
  waited : Bool := false
  deriving Inhabited

/-- Where `getopts` is: the argument that comes next, and the letter in it. -/
structure OptionPlace where
  next : Nat := 1
  letter : Option Nat := none
  deriving Repr, Inhabited

/-- The arguments of a shell or a function. -/
structure Arguments where
  words : List String := []
  place : OptionPlace := {}
  deriving Repr, Inhabited

/-- A descriptor that was set aside: its number, and where its file is kept, if it was open. -/
structure Aside where
  fd : Nat
  kept : Option Nat
  deriving Repr, Inhabited

/-- The state. -/
structure State where
  name : String
  arguments : Arguments := {}
  vars : SortedMap String Variable := .empty
  /-- What local variables were before, for each function and command that made some. -/
  scopes : List (List (String × Option Variable)) := []
  functions : List (String × Function) := []
  aliases : List (String × String) := []
  documents : Array Word := #[]
  /-- The letters of the options that are set. -/
  options : List Char := []
  /-- The number of the shell, and of the last process in the background. -/
  pid : Nat := 0
  lastBackground : Nat := 0
  status : Nat := 0
  /-- The status of the last command substitution. -/
  substituted : Nat := 0
  /-- The status to end with, once that is settled. -/
  settled : Option Nat := none
  line : Nat := 0
  /-- The builtin command that is running. -/
  running : Option String := none
  skip : Skip := .nothing
  loops : Nat := 0
  depth : Nat := 0
  jobs : List Job := []
  /-- Actions for signals; the signal zero is the end of the shell, and no text means to ignore. -/
  traps : List (Nat × String) := []
  /-- Signals that have come and wait for their actions. -/
  pending : List Nat := []
  /-- What a builtin has written and not yet passed on, in reverse. -/
  output : List String := []
  /-- Could not all output be written? -/
  unwritten : Bool := false
  /-- The descriptor for the trace of commands. -/
  traceTo : Nat := 2
  /-- Is the prompt of the trace being expanded? -/
  tracing : Bool := false
  /-- Descriptors that were set aside, for each command that redirects. -/
  aside : List (List Aside) := []
  /-- Programs that were found before. -/
  hashed : List String := []
  /-- The current directory as it was reached. -/
  directory : String := "/"
  deriving Inhabited

/-- Commands of the shell. -/
abbrev Sh (α : Type) : Type := Kernel.Course State Jump α

namespace Sh

/-- Asks the kernel for something. -/
def ask (request : Request) : Sh request.Answer := Kernel.Course.ask request

/-- Runs a command and gives what became of it instead of breaking off. -/
def attempt {α : Type} (m : Sh α) : Sh (Except Jump α) := Kernel.Course.attempt m

/-- Goes on with what became of a command. -/
def resume {α : Type} (r : Except Jump α) : Sh α := Kernel.Course.resume r

/-- Runs a part as another process, and goes on with the number of that process. -/
def fork (child : Sh Nat) : Sh Nat :=
  Kernel.Course.fork (fun r s => match r with
    | .ok status => status
    | .error _ => s.status) child

/-- Repeats a step until it gives a result; `limit` bounds the repetitions. -/
def iterate {σ α : Type} [Inhabited α] (step : σ → Sh (σ ⊕ α)) (limit : Nat) (x : σ) : Sh α :=
  Kernel.Course.iterate step limit x

/-- Is an option set? -/
def hasOption (letter : Char) : Sh Bool := do
  pure ((← get).options.contains letter)

/-! ## Writing -/

/-- Writes all of a raw text to a descriptor; says why not, if that fails. -/
def writeAll (fd : Nat) (text : String) : Sh (Option Refusal) :=
  iterate (fun (bytes : Text.Bytes) => do
    if bytes.isEmpty then pure (.inr none)
    else
      match ← ask (.write fd bytes) with
      | .ok count => pure (.inl (bytes.drop count))
      | .error e => pure (.inr (some e))) Kernel.endless (Text.Raw.toBytes text)

/-- Adds to the output of a builtin. -/
def print (text : String) : Sh Unit := modify fun s => { s with output := text :: s.output }

/-- Passes on the output of a builtin. -/
def flush : Sh Unit := do
  let s ← get
  if !s.output.isEmpty then
    let text := String.join s.output.reverse
    set { s with output := [] }
    if text != "" then
      if let some _ ← writeAll 1 text then modify fun s => { s with unwritten := true }

/-- Writes to the second stream. -/
def printError (text : String) : Sh Unit := do
  let _ ← writeAll 2 text

/-! ## Complaints -/

/-- Reports something, with the name of the shell, the line and the running builtin. -/
def warn (message : String) : Sh Unit := do
  let s ← get
  let who := match s.running with
    | some name => name ++ ": "
    | none => ""
  printError (s.name ++ ": " ++ toString s.line ++ ": " ++ who ++ message ++ "\n")

/-- Reports an error and breaks off. -/
def fail {α : Type} (message : String) : Sh α := do
  modify fun s => { s with status := 2 }
  warn message
  throw .error

end Sh
end HardenAudit.Shell
