import HardenAudit.Kernel.Serve
import HardenAudit.Kernel.State

/-!
# Executing and running programs

## Which program a file comes down to

A file that may be executed is a program of the system, or a script whose first line names the
program that reads it, with one argument at most.  Only the beginning of the file is looked at.
-/

namespace HardenAudit.Kernel

open Text (Bytes)

/-- Bytes at the beginning of a script in which its first line has to end. -/
def lineLimit : Nat := 255

/-- Blanks between the words of the first line. -/
def isGap (c : Char) : Bool := c == ' ' || c == '\t'

/-- The program that the first line of a script names, with the argument that it may give. -/
def interpreter? (content : Bytes) : Option (String × List String) :=
  match (Text.Raw.ofBytes (content.take (lineLimit + 1))).toList with
  | '#' :: '!' :: rest =>
    let ends (c : Char) : Bool := isGap c || c.toNat == 0
    let whole := rest.take (lineLimit - 2)
    let line := if rest.contains '\n' then rest.takeWhile (· != '\n') else whole
    let bounded := rest.contains '\n' || content.length ≤ lineLimit
      || (whole.dropWhile isGap).any ends
    let line := ((line.dropWhile isGap).reverse.dropWhile isGap).reverse
    let program := line.takeWhile (!ends ·)
    let arg := match line.dropWhile (!ends ·) with
      | [] => []
      | c :: more => if c.toNat == 0 then [] else (more.dropWhile isGap).takeWhile (·.toNat != 0)
    if program.isEmpty || !bounded then none
    else some (String.ofList program, if arg.isEmpty then [] else [String.ofList arg])
  | _ => none

/-- The node at a path, if it may be executed. -/
def executable (fs : FileSystem) (path : String) : Except FileError Matter := do
  let loc ← fs.locate (← Route.ofRaw path)
  let n ← fs.found loc
  match n.matter with
  | .file _ | .program _ => if n.grants .execute then .ok n.matter else .error .permissionDenied
  | _ => .error .permissionDenied

/-- Scripts that may read each other in a chain, and the program at its end. -/
def chainLimit : Nat := 6

/-- The program of the system that an executable file comes down to, and its arguments, the name it
is called by included.  `limit` bounds the chain of scripts. -/
def resolve (fs : FileSystem) : (limit : Nat) → (path : String) → (argv : List String) →
    Except FileError (String × List String)
  | 0, _, _ => .error .tooManyLinks
  | limit + 1, path, argv =>
    match executable fs path with
    | .error e => .error e
    | .ok (.program name) => .ok (name, argv)
    | .ok (.file content) =>
      match interpreter? content with
      | some (program, extra) => resolve fs limit program (program :: extra ++ path :: argv.drop 1)
      | none => .error .execFormat
    | .ok _ => .error .permissionDenied

end HardenAudit.Kernel

/-!
## Running processes

Of all processes that are ready, the one that has been ready longest makes its next step.  A step is
one request, and takes a little time.  A run ends when the launched program has ended and nobody
holds its streams any more, when the program has not ended at its deadline, or when nothing can
happen.  The processes that are left go on during later runs.

A run of very many steps, or one that writes very much, is taken to go on for ever, since what it comes
to has to be found out in the end: its program does not end, and one that has ended leaves its streams
open.  This is an assumption on the programs, and none on how long they wait: a pause is one step.
-/

namespace HardenAudit.Kernel

open Launch (Behaviour ExitStatus)

/-- The programs of a system: what a program does with its arguments and variables. -/
abbrev Loader := String → List String → Environment → Routine

/-- Microseconds that it takes to answer a request. -/
def Request.cost : Request → Nat
  | .execute .. => 500
  | .pause time => time
  | .openFile .. => 5
  | .write .. => 3
  | .read .. => 2
  | _ => 1

/-- Microseconds until the parent of a new process goes on, and until the new process starts. -/
def forkCost : Nat × Nat := (100, 300)

/-- Microseconds until a process notices that its request can be answered. -/
def wakeCost : Nat := 20

/-- Steps after which a run is taken to last for ever. -/
def stepLimit : Nat := 3000000

/-- Bytes after which a run is taken to write for ever. -/
def volumeLimit : Nat := 4194304

namespace State

/-- The process goes on with a routine after some time. -/
def resume (k : State) (pid : Nat) (routine : Routine) (delay : Nat) : State :=
  k.modify pid fun p =>
    match p.phase with
    | .ended .. => p
    | _ => { p with routine := routine, phase := .ready (k.clock + delay) }

/-- Tries to answer the request of a waiting process. -/
def retry (k : State) (p : Process) : State :=
  match p.phase, p.routine with
  | .waiting, .ask request next =>
    match k.serve p.pid request with
    | some (answer, k) => k.resume p.pid (next answer) wakeCost
    | none => k
  | _, _ => k

/-- Gives every waiting process a chance. -/
def wake (k : State) : State :=
  if k.stirred then k.processes.foldl retry { k with stirred := false } else k

/-- Becomes another program. -/
def become (load : Loader) (k : State) (p : Process) (path : String) (argv : List String)
    (env : Environment) (next : Refusal → Routine) : State :=
  match resolve (k.seenBy p.pid) chainLimit path argv with
  | .error e => k.resume p.pid (next (.file e)) 1
  | .ok (program, argv) =>
    let k := k.modify p.pid fun p =>
      { p with slots := p.slots.filter (!·.withheld), noticing := [], noticed := [] }
    k.tidy.resume p.pid (load program argv env) (Request.execute path argv env).cost

/-- Splits a process in two. -/
def split (k : State) (p : Process) (child : Routine) (next : Nat → Routine) : State :=
  let pid := k.nextPid
  let new : Process :=
    { p with pid := pid, parent := p.pid, routine := child, noticed := [],
             phase := .ready (k.clock + forkCost.2) }
  { k with processes := k.processes ++ [new], nextPid := pid + 1 }.resume p.pid (next pid) forkCost.1

/-- One step of a process. -/
def step (load : Loader) (k : State) (p : Process) : State :=
  match p.routine with
  | .exit status => k.finish p.pid (.code (status % 256))
  | .fork child next => k.split p child next
  | .ask (.execute path argv env) next => k.become load p path argv env next
  | .ask request next =>
    match k.serve p.pid request with
    | some (answer, k) => k.resume p.pid (next answer) request.cost
    | none => k.modify p.pid ({ · with phase := .waiting })

/-- The time at which a process is ready; one that waits no longer than up to a time is ready then. -/
def readyTime? (p : Process) : Option Nat :=
  match p.phase, p.routine with
  | .ready time, _ => if p.stopped then none else some time
  | .waiting, .ask (.ready _ until_) _ => if p.stopped then none else some until_
  | _, _ => none

/-- The process that is ready first. -/
def first? (processes : List Process) : Option (Nat × Process) :=
  processes.foldl (fun best p =>
    match readyTime? p, best with
    | some time, some (least, _) => if time < least then some (time, p) else best
    | some time, none => some (time, p)
    | none, _ => best) none

/-- Is there nothing left that anyone would notice? -/
def isOver (k : State) : Bool := k.outcome.isSome && !k.streamsHeld

/-- One step of the process that is ready first, at its time. -/
def proceed (load : Loader) (k : State) (time : Nat) (p : Process) : State :=
  ({ k with clock := max k.clock time }.step load p).wake

/-- Runs for so many steps at most, until the run is over, or until a time if the launched program
has not ended then. -/
def run (load : Loader) (horizon : Nat) : (steps : Nat) → State → State
  | 0, k => { k with clock := max k.clock horizon }
  | steps + 1, k =>
    if k.isOver then k
    else
      match first? k.processes with
      | none => { k with clock := max k.clock horizon }
      | some (time, p) =>
        if (k.outcome.isNone && time > horizon) || k.volume > volumeLimit then
          { k with clock := max k.clock horizon }
        else run load horizon steps (k.proceed load time p)

/-- Runs up to a time. -/
def advance (load : Loader) (until_ : Nat) : (steps : Nat) → State → State
  | 0, k => { k with clock := max k.clock until_ }
  | steps + 1, k =>
    match first? k.processes with
    | none => { k with clock := max k.clock until_ }
    | some (time, p) =>
      if time > until_ then { k with clock := max k.clock until_ }
      else advance load until_ steps (k.proceed load time p)

/-- Microseconds from a launch until the program starts. -/
def startDelay : Nat := 1000

/-- The limits of a launched process. -/
def startLimits : List Limit :=
  [⟨'t', none, none⟩, ⟨'f', none, none⟩, ⟨'d', none, none⟩, ⟨'s', some 8388608, none⟩,
   ⟨'c', some 0, none⟩, ⟨'m', none, none⟩, ⟨'l', some 8388608, some 8388608⟩,
   ⟨'p', some 128597, some 128597⟩, ⟨'n', some 20000, some 20000⟩, ⟨'v', none, none⟩,
   ⟨'w', none, none⟩, ⟨'r', some 0, some 0⟩]

/-- The kernel with a new process, whose input is empty and whose streams are the observed ones. -/
def boot (k : State) (files : FileSystem) (routine : Routine) : State :=
  let pid := max k.nextPid firstPid
  let number := k.nextNumber
  let round := k.round + 1
  let writing : Opening := { writable := true }
  let new : Process :=
    { pid := pid, parent := 1, phase := .ready (k.clock + startDelay), routine := routine,
      slots := [⟨0, number, false⟩, ⟨1, number + 1, false⟩, ⟨2, number + 2, false⟩],
      here := files.here, limits := startLimits }
  { k with
    files := files
    base := k.clock
    round := round
    root := pid
    processes := k.processes ++ [new]
    descriptions := [(number, ⟨.null, .input, 0⟩), (number + 1, ⟨.stream .out round, writing, 0⟩),
      (number + 2, ⟨.stream .err round, writing, 0⟩)] ++ k.descriptions
    nextPid := pid + 1
    nextNumber := number + 3
    written := []
    outcome := none
    volume := 0
    stirred := true }

/-- The status of a program that ended. -/
def statusOf : Ending → ExitStatus
  | .code n => .code n.toUInt8
  | .signal number => .signal number

/-- The world when a run is left at a time: the launched program is killed if it still runs. -/
def leave (load : Loader) (k : State) (time : Nat) : World State :=
  let k := k.advance load (k.base + time) stepLimit
  let k := k.deliver k.root Signal.kill
  let k := { k with processes := k.processes.filter (·.pid != k.root), written := [] }
  { files := { k.files with time := k.clock }, rest := k }

/-- What a run came to, as the behaviour of a program.  The kernel can always tell whether a program has
ended. -/
def behaviour (load : Loader) (k : State) : Behaviour State where
  exit := k.outcome.map fun o => (o.1 - k.base, .ok (statusOf o.2))
  stdout := (k.written.reverse.filter (·.1 == .out)).map (·.2)
  stderr := (k.written.reverse.filter (·.1 == .err)).map (·.2)
  closed := if k.isOver then some (k.clock - k.base) else none
  after := k.leave load

end State

/-- Launches a program of the system. -/
def launch (load : Loader) (w : World State) (program : String) (argv : List String)
    (env : Environment) (horizon : Nat) : Behaviour State :=
  let k := w.rest.boot w.files (load program argv env)
  State.behaviour load (k.run load (k.base + horizon) stepLimit)

end HardenAudit.Kernel
