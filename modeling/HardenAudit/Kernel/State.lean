import HardenAudit.Kernel.Request
import HardenAudit.Kernel.Signal
import HardenAudit.Launch.Bounded

/-!
# Processes and what they share

The kernel keeps the processes, the descriptions of open files that their descriptors refer to, the
pipes, the files, and everything that was written to the two streams of the launched program.  Times
are microseconds.  A later launch finds the processes that are left from the launches before it.
-/

namespace HardenAudit.Kernel

open Text (Bytes)
open Launch (Emission)

/-- The streams of the launched program. -/
inductive Stream where
  | out
  | err
  deriving DecidableEq, Repr, Inhabited

/-- What an open file leads to. -/
inductive Channel where
  /-- A file by the number under which it is shared, and where it was found. -/
  | file (number : Nat) (loc : Location)
  | directory (loc : Location)
  /-- The reading end of a pipe. -/
  | source (pipe : Nat)
  /-- The writing end of a pipe. -/
  | drain (pipe : Nat)
  /-- Both ends of a pipe. -/
  | duplex (pipe : Nat)
  | null
  | zero
  | full
  /-- A stream of the program that was launched in a round. -/
  | stream (s : Stream) (round : Nat)
  deriving DecidableEq, Repr, Inhabited

/-- Can a pipe be read through the channel? -/
def Channel.isSourceOf (pipe : Nat) : Channel → Bool
  | source p | duplex p => p == pipe
  | _ => false

/-- Can a pipe be written through the channel? -/
def Channel.isDrainOf (pipe : Nat) : Channel → Bool
  | drain p | duplex p => p == pipe
  | _ => false

/-- An open file; descriptors of several processes may refer to the same one. -/
structure Description where
  channel : Channel
  how : Opening
  offset : Nat := 0
  deriving Repr, Inhabited

/-- A descriptor of a process. -/
structure Slot where
  fd : Nat
  description : Nat
  /-- Is the descriptor closed when the process becomes another program? -/
  withheld : Bool := false
  deriving Repr, Inhabited

/-- What a process is up to. -/
inductive Phase where
  | ready (time : Nat)
  /-- It waits until its request can be answered. -/
  | waiting
  | ended (time : Nat) (how : Ending)
  deriving Repr, Inhabited

/-- A process. -/
structure Process where
  pid : Nat
  parent : Nat
  phase : Phase
  routine : Routine
  slots : List Slot := []
  here : Location := []
  ignored : List Nat := []
  noticing : List Nat := []
  noticed : List Nat := []
  mask : Nat := 0o022
  limits : List Limit := []
  stopped : Bool := false
  deriving Inhabited

/-- The kernel. -/
structure State where
  files : FileSystem
  clock : Nat := 0
  processes : List Process := []
  descriptions : List (Nat × Description) := []
  pipes : List (Nat × Bytes) := []
  /-- The pipes behind those that have names, by the numbers under which these are shared. -/
  fifos : List (Nat × Nat) := []
  /-- Next number for a process, and for a description or pipe. -/
  nextPid : Nat := 0
  nextNumber : Nat := 0
  /-- What was written to the streams, the latest first. -/
  written : List (Stream × Emission) := []
  /-- The launched process, the round of its launch, and when it was launched. -/
  root : Nat := 0
  round : Nat := 0
  base : Nat := 0
  /-- When and how the launched program ended. -/
  outcome : Option (Nat × Ending) := none
  /-- How many bytes were written to files and streams. -/
  volume : Nat := 0
  /-- Has something happened that a waiting process may wait for? -/
  stirred : Bool := false
  deriving Inhabited

namespace State

/-- The number of the first process. -/
def firstPid : Nat := 4000

/-- The process with a number. -/
def process? (k : State) (pid : Nat) : Option Process := k.processes.find? (·.pid == pid)

/-- The kernel with one process changed. -/
def modify (k : State) (pid : Nat) (f : Process → Process) : State :=
  { k with processes := k.processes.map fun p => if p.pid == pid then f p else p }

/-- The description that a descriptor refers to, with its number. -/
def description? (k : State) (pid fd : Nat) : Option (Nat × Description) := do
  let p ← k.process? pid
  let slot ← p.slots.find? (·.fd == fd)
  let d ← k.descriptions.lookup slot.description
  pure (slot.description, d)

/-- Does some descriptor refer to the description? -/
def isReferred (k : State) (number : Nat) : Bool :=
  k.processes.any fun p => p.slots.any (·.description == number)

/-- Does some process hold a channel open? -/
def isHeld (k : State) (test : Channel → Bool) : Bool :=
  k.descriptions.any fun d => test d.2.channel

/-- Without the descriptions and pipes that no descriptor refers to any more. -/
def tidy (k : State) : State :=
  let k := { k with descriptions := k.descriptions.filter fun d => k.isReferred d.1, stirred := true }
  { k with pipes := k.pipes.filter fun p =>
      k.isHeld fun c => c.isSourceOf p.1 || c.isDrainOf p.1 }

/-- Is a stream of the launched program still held open? -/
def streamsHeld (k : State) : Bool :=
  k.isHeld fun c => match c with
    | .stream _ round => round == k.round
    | _ => false

/-- A new description. -/
def describe (k : State) (d : Description) : Nat × State :=
  (k.nextNumber,
    { k with descriptions := (k.nextNumber, d) :: k.descriptions, nextNumber := k.nextNumber + 1 })

/-- The lowest number from `least` on that is no descriptor yet. -/
def freeFrom (slots : List Slot) : (limit least : Nat) → Nat
  | 0, least => least
  | limit + 1, least =>
    if slots.any (·.fd == least) then freeFrom slots limit (least + 1) else least

/-- A new descriptor of a process, the lowest free one from a number on. -/
def attach (k : State) (pid least description : Nat) (withheld : Bool) : Nat × State :=
  match k.process? pid with
  | none => (0, k)
  | some p =>
    let fd := freeFrom p.slots p.slots.length least
    (fd, k.modify pid fun p => { p with slots := ⟨fd, description, withheld⟩ :: p.slots })

/-- The kernel with the files changed. -/
def setFiles (k : State) (files : FileSystem) : State :=
  { k with files := { files with here := k.files.here, time := k.clock } }

/-- A process that has noticed a signal. -/
def Process.notice (p : Process) (signal : Nat) : Process :=
  { p with noticed := p.noticed.filter (· != signal) ++ [signal] }

/-- The end of a process: its parent may notice, its descriptors are closed, and its children are on
their own. -/
def finish (k : State) (pid : Nat) (how : Ending) : State :=
  let parent := ((k.process? pid).map (·.parent)).getD 0
  let k := k.modify pid fun p => { p with phase := .ended k.clock how, slots := [] }
  let k := k.modify parent fun p =>
    if p.noticing.contains Signal.child then Process.notice p Signal.child else p
  let adopted := k.processes.filterMap fun p =>
    if p.parent == pid then
      match p.phase with
      | .ended .. => none
      | _ => some { p with parent := 1 }
    else some p
  let kept := adopted.filter fun p => p.pid != pid || (adopted.any (·.pid == p.parent))
  let outcome := if pid == k.root then some (k.clock, how) else k.outcome
  { k with processes := kept, outcome := outcome }.tidy

/-- The arrival of a signal at a process. -/
def deliver (k : State) (pid signal : Nat) : State :=
  match k.process? pid with
  | none => k
  | some p =>
    match p.phase with
    | .ended .. => k
    | _ =>
      if signal == 0 then k
      else if signal == Signal.kill then k.finish pid (.signal signal)
      else
        let k := if signal == Signal.cont then k.modify pid ({ · with stopped := false }) else k
        if Signal.isFirm signal then k.modify pid ({ · with stopped := true })
        else if p.ignored.contains signal then k
        else if p.noticing.contains signal then
          { k.modify pid fun p => Process.notice p signal with stirred := true }
        else if Signal.isQuiet signal then k
        else if Signal.isStop signal then k.modify pid ({ · with stopped := true })
        else k.finish pid (.signal signal)

end State
end HardenAudit.Kernel
