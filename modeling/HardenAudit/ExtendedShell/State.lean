import HardenAudit.ExtendedShell.Arrays
import HardenAudit.ExtendedShell.Source
import HardenAudit.Kernel.Course
import HardenAudit.Kernel.Signal
import HardenAudit.Shell.State
import HardenAudit.SortedMap

/-!
# The state of an extended shell

Variables, functions, options and everything else that commands change, and the monad in which they
run: each may ask the kernel for something, change the state, and break off.
-/

namespace HardenAudit.ExtendedShell

open Kernel (Ending Refusal Request Routine Work)

/-- What a variable holds. -/
inductive Value where
  | text (s : String)
  | list (s : Sparse)
  | table (t : Keyed)
  deriving Repr, Inhabited

/-- A variable with its attributes. -/
structure Variable where
  value : Value := .text ""
  /-- Has it a value at all? -/
  isSet : Bool := true
  exported : Bool := false
  readOnly : Bool := false
  integer : Bool := false
  lower : Bool := false
  upper : Bool := false
  capital : Bool := false
  /-- Does it stand for the one that its value names? -/
  reference : Bool := false
  traced : Bool := false
  deriving Repr, Inhabited

/-- Variables that last as long as a function or a command. -/
structure Scope where
  /-- Is it one of a function? -/
  isFunction : Bool
  vars : SortedMap String Variable := .empty
  /-- Options to be put back afterwards. -/
  options : Option (List String) := none
  deriving Inhabited

/-- A function. -/
structure Function where
  body : Command
  line : Nat
  /-- The name of the script that it was defined in. -/
  source : String
  exported : Bool := false
  deriving Inhabited

/-- A function or a script under way. -/
structure Call where
  name : String
  source : String
  /-- The line from which it was called. -/
  line : Nat
  isFunction : Bool := true
  deriving Repr, Inhabited

/-- Why commands break off. -/
inductive Jump where
  /-- The rest of the unit is passed over. -/
  | discard
  /-- The shell ends. -/
  | exit
  /-- So many loops are left. -/
  | break (loops : Nat)
  /-- The turn of so many loops is over. -/
  | continue (loops : Nat)
  /-- A function or a script is left. -/
  | return (status : Nat)
  deriving DecidableEq, Repr, Inhabited

/-- Processes that were started together. -/
structure Job where
  number : Nat
  members : List (Nat × Option Ending) := []
  text : String := ""
  background : Bool := false
  /-- Was its end reported or waited for? -/
  waited : Bool := false
  /-- Was it started by the shell from which this one comes? -/
  foreign : Bool := false
  deriving Inhabited

/-- A descriptor that was set aside: its number, and where its file is kept, if it was open. -/
structure Aside where
  fd : Nat
  kept : Option Nat
  deriving Repr, Inhabited

/-- Where `getopts` is: the argument that comes next, and the letter in it. -/
structure OptionPlace where
  next : Nat := 1
  letter : Nat := 0
  deriving Repr, Inhabited

/-- Where the commands of a shell come from. -/
inductive Origin where
  /-- A text that the shell is given. -/
  | text
  | input
  | script
  deriving DecidableEq, Repr, Inhabited

/-- The state. -/
structure State where
  name : String
  origin : Origin := .input
  arguments : List String := []
  globals : SortedMap String Variable := .empty
  /-- The innermost scope first. -/
  scopes : List Scope := []
  functions : SortedMap String Function := .empty
  aliases : List (String × String) := []
  documents : Array Document := #[]
  /-- The names of the options that are set, of both kinds. -/
  options : List String := []
  extras : List String := []
  pid : Nat := 0
  lastBackground : Nat := 0
  status : Nat := 0
  stageStatuses : List Nat := [0]
  /-- The status of the last command substitution. -/
  substituted : Nat := 0
  line : Nat := 0
  /-- What is added to the lines of commands. -/
  shift : Int := 0
  /-- The command that is running, for its messages. -/
  running : Option String := none
  loops : Nat := 0
  calls : List Call := []
  subshell : Nat := 0
  /-- How often texts are run inside each other, which the trace shows. -/
  depth : Nat := 0
  /-- Is the shell one for the output of commands? -/
  substitution : Bool := false
  jobs : List Job := []
  /-- The statuses of processes in the background whose jobs are forgotten. -/
  finished : List (Nat × Nat) := []
  /-- Actions by the names of signals and events. -/
  traps : List (String × String) := []
  /-- Actions of an outer shell, which are only shown, until one is set. -/
  outerTraps : Option (List (String × String)) := none
  pending : List Nat := []
  /-- The action that is running. -/
  trapping : List String := []
  /-- What a builtin has written and not yet passed on, in reverse. -/
  output : List String := []
  unwritten : Option Refusal := none
  /-- Is the trace being prepared? -/
  tracing : Bool := false
  /-- Builtin commands that are not to be used. -/
  disabled : List String := []
  /-- Programs that were found, with how often they were used. -/
  hashed : List (String × String × Nat) := []
  directory : String := "/"
  /-- Further directories of the stack. -/
  stack : List String := []
  optionPlace : OptionPlace := {}
  randomSeed : Nat := 1
  lastRandom : Nat := 0
  startTime : Int := 0
  lastArgument : String := ""
  /-- The simple command that runs, for its text. -/
  current : Command := .nothing
  /-- Descriptors of pipes to commands that a word named. -/
  pipes : List Nat := []
  mask : Nat := 0
  deriving Inhabited

/-- Commands of the extended shell. -/
abbrev Sh (α : Type) : Type := Kernel.Course State Jump α

namespace Sh

/-- Asks the kernel for something. -/
def ask (request : Request) : Sh request.Answer := Kernel.Course.ask request

/-- Runs a part and gives what became of it instead of breaking off. -/
def attempt {α : Type} (m : Sh α) : Sh (Except Jump α) := Kernel.Course.attempt m

/-- Goes on with what became of a part. -/
def resume {α : Type} (r : Except Jump α) : Sh α := Kernel.Course.resume r

/-- Runs a part as another process, and goes on with the number of that process. -/
def fork (child : Sh Nat) : Sh Nat :=
  Kernel.Course.fork (fun r s => match r with
    | .ok status => status
    | .error _ => s.status) child

/-- Repeats a step until it gives a result; `limit` bounds the repetitions. -/
def iterate {σ α : Type} [Inhabited α] (step : σ → Sh (σ ⊕ α)) (limit : Nat) (x : σ) : Sh α :=
  Kernel.Course.iterate step limit x

/-- Is an option set? -/
def hasOption (name : String) : Sh Bool := do
  pure ((← get).options.contains name)

/-- Is an option of the second kind set? -/
def hasExtra (name : String) : Sh Bool := do
  pure ((← get).extras.contains name)

/-! ## Writing -/

/-- Writes all of a raw text to a descriptor; says why not, if that fails. -/
def writeAll (fd : Nat) (text : String) : Sh (Option Refusal) :=
  iterate (fun (bytes : Text.Bytes) => do
    if bytes.isEmpty then pure (.inr none)
    else
      match ← ask (.write fd bytes) with
      | .ok count => pure (.inl (bytes.drop count))
      | .error e => pure (.inr (some e))) Kernel.endless (Text.Raw.toBytes text)

/-- Adds to the output of a builtin. -/
def print (text : String) : Sh Unit := modify fun s => { s with output := text :: s.output }

/-- Passes on the output of a builtin. -/
def flush : Sh Unit := do
  let s ← get
  if !s.output.isEmpty then
    let text := String.join s.output.reverse
    set { s with output := [] }
    if text != "" then
      if let some e ← writeAll 1 text then modify fun s => { s with unwritten := some e }

/-- Writes to the second stream. -/
def printError (text : String) : Sh Unit := do
  let _ ← writeAll 2 text

/-! ## Complaints -/

/-- The name under which the shell complains. -/
def speaker : Sh String := do
  let s ← get
  match s.calls with
  | c :: _ => pure (if c.source == "" then s.name else c.source)
  | [] => pure s.name

/-- Reports something with the name of the shell and the line. -/
def warnPlain (message : String) : Sh Unit := do
  let s ← get
  let who ← speaker
  flush
  printError (who ++ ": line " ++ toString s.line ++ ": " ++ message ++ "\n")

/-- Reports something, also with the name of the running builtin. -/
def warn (message : String) : Sh Unit := do
  match (← get).running with
  | some name => warnPlain (name ++ ": " ++ message)
  | none => warnPlain message

/-- Gives up the unit with a status. -/
def discard {α : Type} (status : Nat := 1) : Sh α := do
  modify fun s => { s with status := status }
  throw .discard

/-- Ends the shell with a status. -/
def leave {α : Type} (status : Nat) : Sh α := do
  modify fun s => { s with status := status }
  throw .exit

end Sh
end HardenAudit.ExtendedShell
