import HardenAudit.Kernel.Files

/-!
# Answers to requests

A request is answered at once, or not yet: then the process that made it waits until something
happens that may change that.
-/

namespace HardenAudit.Kernel

open Text (Bytes)
open Launch (Emission)

/-- Bytes that a pipe holds at most. -/
def pipeCapacity : Nat := 65536

/-- Bytes that are written into a pipe in one piece. -/
def pipePiece : Nat := 4096

namespace State

/-- The kernel with a description moved to an offset. -/
def moveTo (k : State) (number offset : Nat) : State :=
  { k with descriptions := k.descriptions.map fun d =>
      if d.1 == number then (d.1, { d.2 with offset := offset }) else d }

/-- The kernel with the content of a pipe replaced. -/
def setPipe (k : State) (pipe : Nat) (bytes : Bytes) : State :=
  { k with pipes := k.pipes.map fun p => if p.1 == pipe then (pipe, bytes) else p, stirred := true }

/-- Can something be read from a descriptor without waiting?  The end of the input and a refusal count. -/
def isReadable (k : State) (pid fd : Nat) : Bool :=
  match k.description? pid fd with
  | none => true
  | some (_, d) =>
    match d.channel with
    | .source pipe | .duplex pipe =>
      !((k.pipes.lookup pipe).getD []).isEmpty || !k.isHeld (Channel.isDrainOf pipe)
    | _ => true

/-- Reads from a descriptor. -/
def read (k : State) (pid fd count : Nat) : Option (Except Refusal Bytes × State) :=
  match k.description? pid fd with
  | none => some (.error .badDescriptor, k)
  | some (number, d) =>
    if !d.how.readable then some (.error .badDescriptor, k)
    else
      match d.channel with
      | .file number' _ =>
        let bytes := ((k.contentOf number').drop d.offset).take count
        some (.ok bytes, k.moveTo number (d.offset + bytes.length))
      | .directory _ => some (.error (.file .isDirectory), k)
      | .null => some (.ok [], k)
      | .zero | .full => some (.ok (List.replicate count 0), k)
      | .source pipe | .duplex pipe =>
        let held := (k.pipes.lookup pipe).getD []
        if !held.isEmpty || count = 0 then some (.ok (held.take count), k.setPipe pipe (held.drop count))
        else if k.isHeld (Channel.isDrainOf pipe) then none
        else some (.ok [], k)
      | .drain _ | .stream .. => some (.error .badDescriptor, k)

/-- The largest size that a process may give to a file. -/
def sizeLimit? (k : State) (pid : Nat) : Option Nat :=
  ((k.process? pid).bind fun p => p.limits.find? (·.resource == 'f')).bind (·.current)

/-- Writes to a file; a process that tries to make it too large gets a signal. -/
def writeFile (k : State) (pid number file : Nat) (d : Description) (bytes : Bytes) :
    Except Refusal Nat × State :=
  let content := k.contentOf file
  let offset := if d.how.append then content.length else d.offset
  let room := (k.sizeLimit? pid).map (· - offset)
  if bytes.isEmpty then (.ok 0, k)
  else if room == some 0 then (.error .tooLarge, k.deliver pid Signal.fileSize)
  else
    let bytes := match room with
      | some n => bytes.take n
      | none => bytes
    let k := (k.setContent file (spliced content offset bytes)).moveTo number (offset + bytes.length)
    (.ok bytes.length, { k with volume := k.volume + bytes.length })

/-- Writes to a descriptor. -/
def write (k : State) (pid fd : Nat) (bytes : Bytes) : Option (Except Refusal Nat × State) :=
  match k.description? pid fd with
  | none => some (.error .badDescriptor, k)
  | some (number, d) =>
    if !d.how.writable then some (.error .badDescriptor, k)
    else
      match d.channel with
      | .file file _ => some (k.writeFile pid number file d bytes)
      | .directory _ => some (.error .badDescriptor, k)
      | .null | .zero => some (.ok bytes.length, k)
      | .full => some (.error .noSpace, k)
      | .source _ => some (.error .badDescriptor, k)
      | .drain pipe | .duplex pipe =>
        if !k.isHeld (Channel.isSourceOf pipe) then
          some (.error .brokenPipe, k.deliver pid Signal.pipe)
        else
          let held := (k.pipes.lookup pipe).getD []
          let room := pipeCapacity - held.length
          if bytes.length ≤ room then some (.ok bytes.length, k.setPipe pipe (held ++ bytes))
          else if bytes.length ≤ pipePiece || room = 0 then none
          else some (.ok room, k.setPipe pipe (held ++ bytes.take room))
      | .stream s round =>
        if round == k.round then
          some (.ok bytes.length,
            { k with
              written := (s, ⟨k.clock - k.base, bytes⟩) :: k.written
              volume := k.volume + bytes.length })
        else some (.ok bytes.length, k)

/-- Closes a descriptor. -/
def close (k : State) (pid fd : Nat) : Except Refusal Unit × State :=
  match k.description? pid fd with
  | none => (.error .badDescriptor, k)
  | some _ =>
    (.ok (), (k.modify pid fun p => { p with slots := p.slots.filter (·.fd != fd) }).tidy)

/-- Makes a descriptor the same as another one. -/
def assign (k : State) (pid fd target : Nat) : Except Refusal Unit × State :=
  match k.description? pid fd with
  | none => (.error .badDescriptor, k)
  | some (number, _) =>
    if fd = target then (.ok (), k)
    else
      (.ok (), (k.modify pid fun p =>
        { p with slots := ⟨target, number, false⟩ :: p.slots.filter (·.fd != target) }).tidy)

/-- A new pipe, with a descriptor for each end. -/
def makePipe (k : State) (pid : Nat) : (Nat × Nat) × State :=
  let pipe := k.nextNumber
  let k := { k with pipes := (pipe, []) :: k.pipes, nextNumber := k.nextNumber + 1 }
  let (source, k) := k.describe ⟨.source pipe, .input, 0⟩
  let (drain, k) := k.describe ⟨.drain pipe, { writable := true }, 0⟩
  let (a, k) := k.attach pid 0 source false
  let (b, k) := k.attach pid 0 drain false
  ((a, b), k)

/-- Microseconds until the end of a child shows without waiting for it. -/
def endDelay : Nat := 100

/-- What has become of the children of a process. -/
def await (k : State) (pid : Nat) (patient : Bool) : Option (Awaited × State) :=
  let children := k.processes.filter (·.parent == pid)
  let dead := children.filterMap fun p =>
    match p.phase with
    | .ended time how => if patient || time + endDelay ≤ k.clock then some (time, p.pid, how) else none
    | _ => none
  match dead.mergeSort fun a b => a.1 ≤ b.1 with
  | (_, child, how) :: _ =>
    some (.ended child how, { k with processes := k.processes.filter (·.pid != child) })
  | [] =>
    if children.isEmpty then some (.childless, k)
    else if !patient then some (.running, k)
    else
      match k.process? pid with
      | some p => if p.noticed.isEmpty then none else some (.interrupted, k)
      | none => none

/-- Sends a signal. -/
def send (k : State) (target : Int) (signal : Nat) : Except Refusal Unit × State :=
  if signal > Signal.last then (.error .invalid, k)
  else
    -- all processes belong to one group, which has the number of none of them
    let found := if target > 0 then (k.process? target.toNat).isSome else target ≥ -1
    if !found then (.error .noProcess, k)
    else if target > 0 then (.ok (), { k.deliver target.toNat signal with stirred := true })
    else
      let all := k.processes.map (·.pid)
      (.ok (), { all.foldl (fun k pid => k.deliver pid signal) k with stirred := true })

/-- Notes what a process does with a signal. -/
def dispose (k : State) (pid signal : Nat) (d : Disposition) : State :=
  k.modify pid fun p =>
    let ignored := p.ignored.filter (· != signal)
    let noticing := p.noticing.filter (· != signal)
    match d with
    | .standard => { p with ignored := ignored, noticing := noticing }
    | .ignore => { p with ignored := signal :: ignored, noticing := noticing }
    | .notice => { p with ignored := ignored, noticing := signal :: noticing }

/-- The path of a location. -/
def pathTo (loc : Location) : String := "/" ++ "/".intercalate loc

/-- The path that a link holds. -/
def readLink (k : State) (pid : Nat) (path : String) : Except Refusal String := do
  let fs := k.seenBy pid
  let loc ← refuse (fs.locateLink (← routeOf path))
  let n ← refuse (fs.found loc)
  match n.matter with
  | .link target => .ok target
  | _ => .error .invalid

/-- Sets a limit of a process; the highest value can only be lowered. -/
def setLimit (k : State) (pid : Nat) (l : Limit) : Except Refusal Unit × State :=
  let within (a b : Option Nat) : Bool := match a, b with
    | _, none => true
    | none, some _ => false
    | some x, some y => x ≤ y
  let old := (k.process? pid).bind fun p => p.limits.find? (·.resource == l.resource)
  let old := old.getD ⟨l.resource, none, none⟩
  if !within l.current l.highest then (.error .invalid, k)
  else if !within l.highest old.highest then (.error (.file .notPermitted), k)
  else
    (.ok (), k.modify pid fun p =>
      { p with limits := p.limits.map fun o => if o.resource == l.resource then l else o })

/-- Answers a request of a process, or leaves it waiting. -/
def serve (k : State) (pid : Nat) : (r : Request) → Option (r.Answer × State)
  | .tick => some ((), k)
  | .identity => some ((pid, ((k.process? pid).map (·.parent)).getD 1), k)
  | .ready fd until_ =>
    if k.isReadable pid fd then some (true, k) else if until_ ≤ k.clock then some (false, k) else none
  | .read fd count => k.read pid fd count
  | .write fd bytes => k.write pid fd bytes
  | .seek fd offset =>
    match k.description? pid fd with
    | none => some (.error .badDescriptor, k)
    | some (number, d) =>
      match d.channel with
      | .file .. => some (.ok (), k.moveTo number offset)
      | .null | .zero | .full => some (.ok (), k)
      | _ => some (.error .illegalSeek, k)
  | .offset fd =>
    match k.description? pid fd with
    | none => some (.error .badDescriptor, k)
    | some (_, d) =>
      match d.channel with
      | .file .. => some (.ok d.offset, k)
      | .null | .zero | .full => some (.ok 0, k)
      | _ => some (.error .illegalSeek, k)
  | .openFile path how =>
    match k.openPath pid path how with
    | none => none
    | some (.error e) => some (.error e, k)
    | some (.ok (channel, k)) =>
      let (number, k) := k.describe ⟨channel, how, 0⟩
      let (fd, k) := k.attach pid 0 number false
      some (.ok fd, k)
  | .close fd => some (k.close pid fd)
  | .duplicate fd least withheld =>
    match k.description? pid fd with
    | none => some (.error .badDescriptor, k)
    | some (number, _) =>
      let (new, k) := k.attach pid least number withheld
      some (.ok new, k)
  | .assign fd target => some (k.assign pid fd target)
  | .pipe => some (k.makePipe pid)
  | .statusOf fd =>
    match k.description? pid fd with
    | none => some (.error .badDescriptor, k)
    | some (_, d) => some (.ok (k.statusOfChannel d.channel), k)
  | .inspect path => some (k.inspect pid path true, k)
  | .inspectLink path => some (k.inspect pid path false, k)
  | .readLink path => some (k.readLink pid path, k)
  | .entries path =>
    match k.inspect pid path true with
    | .error e => some (.error e, k)
    | .ok status =>
      match status.kind, status.location with
      | .directory, some loc =>
        if status.grants .read then some (.ok (k.files.names loc), k)
        else some (.error (.file .permissionDenied), k)
      | _, _ => some (.error (.file .notDirectory), k)
  | .change c =>
    match k.applyChange pid c with
    | .ok k => some (.ok (), k)
    | .error e => some (.error e, k)
  | .enter path =>
    match k.inspect pid path true with
    | .error e => some (.error e, k)
    | .ok status =>
      match status.kind, status.location with
      | .directory, some loc =>
        if status.grants .execute then some (.ok (), k.modify pid ({ · with here := loc }))
        else some (.error (.file .permissionDenied), k)
      | _, _ => some (.error (.file .notDirectory), k)
  | .here =>
    let loc := ((k.process? pid).map (·.here)).getD []
    some (if (k.files.node? loc).isSome then .ok (pathTo loc) else .error .notFound, k)
  | .execute .. => some (.notFound, k)
  | .await patient => k.await pid patient
  | .send target signal => some (k.send target signal)
  | .dispose signal d => some ((), k.dispose pid signal d)
  | .noticed =>
    some (((k.process? pid).map (·.noticed)).getD [], k.modify pid ({ · with noticed := [] }))
  | .pause _ => some ((), k)
  | .rest => none
  | .mask new =>
    let old := ((k.process? pid).map (·.mask)).getD 0
    some (old, match new with
      | some m => k.modify pid ({ · with mask := m })
      | none => k)
  | .limits => some (((k.process? pid).map (·.limits)).getD [], k)
  | .setLimit l => some (k.setLimit pid l)
  | .now => some (k.clock, k)

end State
end HardenAudit.Kernel
