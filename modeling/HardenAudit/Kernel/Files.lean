import HardenAudit.Kernel.State

/-!
# Files as processes see them

Opening, reading, writing and changing files, with the devices and pipes that stand among them.
-/

namespace HardenAudit.Kernel.State

open Text (Bytes)

/-- The files seen from where a process is. -/
def seenBy (k : State) (pid : Nat) : FileSystem :=
  match k.process? pid with
  | some p => { k.files with here := p.here, time := k.clock }
  | none => { k.files with time := k.clock }

/-- An answer of the file system as an answer of the kernel. -/
def refuse {α : Type} : Except FileError α → Except Refusal α
  | .ok a => .ok a
  | .error e => .error (.file e)

/-- The route of a raw path. -/
def routeOf (raw : String) : Except Refusal Route := refuse (Route.ofRaw raw)

/-! ## Status -/

/-- The identity of what stands at a location. -/
def identityAt (fs : FileSystem) (loc : Location) : Identity :=
  match fs.entries.find? loc with
  | some (.shared number) => .number number
  | _ => .place loc

/-- The size that a program of the system is said to have. -/
def programSize : Nat := 100000

/-- The kind and the size of a node. -/
def measure : Matter → Kind × Nat
  | .directory => (.directory, 4096)
  | .file content => (.file, content.length)
  | .link target => (.link, target.length)
  | .fifo => (.pipe, 0)
  | .device => (.device, 0)
  | .program _ => (.file, programSize)

/-- The number of names of a directory: its own, the dot in it, and the two dots in those below. -/
def directoryLinks (fs : FileSystem) (loc : Location) : Nat :=
  2 + ((fs.names loc).filter fun n =>
    ((fs.node? (loc ++ [n])).map Node.isDirectory).getD false).length

/-- What is known of a node. -/
def statusOfNode (n : Node) : Status :=
  let (kind, size) := measure n.matter
  { kind := kind, size := size, mode := n.mode, own := n.own, changed := n.changed }

/-- What is known of the node at a location. -/
def statusAt (fs : FileSystem) (loc : Location) (n : Node) : Status :=
  { statusOfNode n with
    location := some loc
    identity := some (identityAt fs loc)
    links := if n.isDirectory then directoryLinks fs loc else fs.linkCount loc }

/-- The descriptor that a path names by its number or its role. -/
def descriptorNamed? (path : String) : Option Nat :=
  if path = "/dev/stdin" then some 0
  else if path = "/dev/stdout" then some 1
  else if path = "/dev/stderr" then some 2
  else
    match ["/dev/fd/", "/proc/self/fd/"].find? (path.startsWith ·) with
    | some start =>
      let digits := path.toList.drop start.length
      if !digits.isEmpty && digits.all Char.isDigit then (String.ofList digits).toNat? else none
    | none => none

/-- What is known of what a channel leads to. -/
def statusOfChannel (k : State) : Channel → Status
  | .file number loc =>
    match k.files.shared.find? number with
    | some n =>
      { statusOfNode n with
        location := some loc
        identity := some (.number number)
        links := (k.files.entries.entries.filter fun e => e.2 == .shared number).length }
    | none => { kind := .file }
  | .directory loc =>
    match k.files.node? loc with
    | some n => statusAt k.files loc n
    | none => { kind := .directory, mode := FileSystem.directoryMode }
  | .source pipe | .drain pipe | .duplex pipe =>
    { kind := .pipe, mode := 0o600, identity := some (.place ["pipe", toString pipe]) }
  | .stream _ _ => { kind := .pipe, mode := 0o600 }
  | .null => device "null"
  | .zero => device "zero"
  | .full => device "full"
where
  device (name : String) : Status :=
    let loc := ["dev", name]
    { kind := .device, mode := 0o666, own := false, location := some loc,
      identity := some (.place loc) }

/-- What a path leads to, or names if it is a link that shall not be passed `through`. -/
def inspect (k : State) (pid : Nat) (path : String) (through : Bool) : Except Refusal Status :=
  match descriptorNamed? path with
  | some fd =>
    match k.description? pid fd with
    | some (_, d) => .ok (k.statusOfChannel d.channel)
    | none => .error .notFound
  | none => do
    let fs := k.seenBy pid
    let r ← routeOf path
    let loc ← refuse (if through then fs.locate r else fs.locateLink r)
    let n ← refuse (fs.found loc)
    .ok (statusAt fs loc n)

/-! ## Opening -/

/-- The channel of a device. -/
def deviceChannel (loc : Location) : Except Refusal Channel :=
  match loc.getLast? with
  | some "null" => .ok .null
  | some "zero" | some "random" | some "urandom" => .ok .zero
  | some "full" => .ok .full
  | _ => .error .noDevice

/-- The number under which the node at a location is shared, from now on if it was not before. -/
def pin (k : State) (loc : Location) : Except Refusal (Nat × State) :=
  match k.files.share loc with
  | some (number, fs) => .ok (number, k.setFiles fs)
  | none => .error .notFound

/-- Does a process wait to open one end of the pipe at a location? -/
def awaitsOpening (k : State) (loc : Location) (reading : Bool) : Bool :=
  k.processes.any fun p =>
    match p.phase, p.routine with
    | .waiting, .ask (.openFile path how) _ =>
      how.readable == reading && how.writable != reading
        && match (do (k.seenBy p.pid).locate (← Route.ofRaw path) : Except FileError Location) with
          | .ok l => l == loc
          | .error _ => false
    | _, _ => false

/-- Opens an end of the pipe at a location, which has to wait until somebody opens the other end. -/
def openFifo (k : State) (loc : Location) (how : Opening) :
    Option (Except Refusal (Channel × State)) :=
  match k.pin loc with
  | .error e => some (.error e)
  | .ok (number, k) =>
    let known := (k.fifos.lookup number).bind fun pipe =>
      if (k.pipes.lookup pipe).isSome then some pipe else none
    let (pipe, k) := match known with
      | some pipe => (pipe, k)
      | none =>
        let pipe := k.nextNumber
        (pipe, { k with
          pipes := (pipe, []) :: k.pipes
          fifos := (number, pipe) :: k.fifos.filter (·.1 != number)
          nextNumber := pipe + 1 })
    let k := { k with stirred := true }
    if how.readable && how.writable then some (.ok (.duplex pipe, k))
    else if how.readable then
      if k.isHeld (Channel.isDrainOf pipe) || k.awaitsOpening loc false then
        some (.ok (.source pipe, k)) else none
    else if k.isHeld (Channel.isSourceOf pipe) || k.awaitsOpening loc true then
      some (.ok (.drain pipe, k)) else none

/-- The kernel in which the directory above a location is noted as changed. -/
def noteAbove (k : State) (loc : Location) : State :=
  match k.files.entries.find? loc.dropLast with
  | some (.sole n) => { k with files := k.files.put loc.dropLast { n with changed := k.clock } }
  | _ => k

/-- Opens what is at a location, or makes a file there. -/
def openAt (k : State) (fs : FileSystem) (loc : Location) (how : Opening) (mask : Nat) :
    Option (Except Refusal (Channel × State)) :=
  let opened (k : State) : Except Refusal (Channel × State) := do
    let (number, k) ← k.pin loc
    .ok (.file number loc, k)
  match fs.found loc with
  | .error e =>
    if how.create then
      some do
        let fs ← refuse (fs.create loc (.file []) (how.mode &&& (0o7777 ^^^ mask)))
        opened ((k.setFiles fs).noteAbove loc)
    else some (.error (.file e))
  | .ok n =>
    if how.create && how.exclusive then some (.error (.file .alreadyExists))
    else if n.isDirectory && how.writable then some (.error (.file .isDirectory))
    else if (how.readable && !n.grants .read) || (how.writable && !n.grants .write) then
      some (.error (.file .permissionDenied))
    else
      match n.matter with
      | .directory => some (.ok (.directory loc, k))
      | .device => some ((deviceChannel loc).map (·, k))
      | .fifo => k.openFifo loc how
      | .file _ =>
        let k := if how.truncate && how.writable then
            k.setFiles (fs.update loc { n with matter := .file [], changed := k.clock })
          else k
        some (opened k)
      | _ => some (opened k)

/-- The channel that a path opens; the answer may have to wait. -/
def openPath (k : State) (pid : Nat) (path : String) (how : Opening) :
    Option (Except Refusal (Channel × State)) :=
  let fs := k.seenBy pid
  let mask := ((k.process? pid).map (·.mask)).getD 0
  match descriptorNamed? path with
  | some fd =>
    match k.description? pid fd with
    | none => some (.error .notFound)
    | some (_, d) =>
      match d.channel with
      | .file number loc =>
        if identityAt fs loc == .number number then k.openAt fs loc how mask
        else some (.ok (.file number loc, k))
      | .source pipe => some (.ok (if how.writable then .drain pipe else .source pipe, k))
      | .drain pipe => some (.ok (if how.writable then .drain pipe else .source pipe, k))
      | channel => some (.ok (channel, k))
  | none =>
    let place : Except Refusal Location := do
      let r ← routeOf path
      if how.create then
        if how.exclusive then
          match ← refuse (fs.target r) with
          | .present => .error (.file .alreadyExists)
          | .entry loc slash => if slash then .error (.file .isDirectory) else .ok loc
        else refuse (fs.writable r)
      else refuse (fs.locate r)
    match place with
    | .error e => some (.error e)
    | .ok loc => k.openAt fs loc how mask

/-! ## Contents -/

/-- The content of a file with bytes written at an offset; a gap is filled with zeros. -/
def spliced (content : Bytes) (offset : Nat) (bytes : Bytes) : Bytes :=
  let size := content.length
  if offset = size then content ++ bytes
  else
    content.take offset ++ List.replicate (offset - size) 0 ++ bytes
      ++ content.drop (offset + bytes.length)

/-- The content of a file by its number. -/
def contentOf (k : State) (number : Nat) : Bytes :=
  match k.files.shared.find? number with
  | some n => match n.matter with
    | .file content => content
    | _ => []
  | none => []

/-- The kernel with the content of a file replaced. -/
def setContent (k : State) (number : Nat) (content : Bytes) : State :=
  match k.files.shared.find? number with
  | some n =>
    let n := { n with matter := .file content, changed := k.clock }
    { k with files := { k.files with shared := k.files.shared.insert number n } }
  | none => k

/-! ## Changes -/

/-- The location of an entry that a route names. -/
def entryOf (fs : FileSystem) (r : Route) : Except Refusal Location := do
  match ← refuse (fs.target r) with
  | .present => .error .invalid
  | .entry loc slash =>
    match fs.node? loc with
    | none => .error .notFound
    | some n => if slash && !n.isDirectory then .error (.file .notDirectory) else .ok loc

/-- The files with everything at or below one location moved below another one. -/
def moved (fs : FileSystem) (source target : Location) : FileSystem :=
  let entries := fs.entries.entries.filter fun e => source.isPrefixOf e.1
  let rest := fs.entries.filter fun l => !source.isPrefixOf l && !target.isPrefixOf l
  { fs with
    entries := entries.foldl (fun m e => m.insert (target ++ e.1.drop source.length) e.2) rest }

/-- The processes with their places moved along. -/
def movePlaces (k : State) (source target : Location) : State :=
  { k with processes := k.processes.map fun p =>
      if source.isPrefixOf p.here then { p with here := target ++ p.here.drop source.length } else p }

/-- Moves an entry: the locations of old and new, or nothing if they are the same. -/
def relocation (fs : FileSystem) (source target : Route) :
    Except Refusal (Option (Location × Location)) := do
  let a ← entryOf fs source
  match ← refuse (fs.target target) with
  | .present => .error .busy
  | .entry b slash =>
    refuse (fs.requireAccess a)
    refuse (fs.requireAccess b)
    let isDirectory (l : Location) : Bool := ((fs.node? l).map Node.isDirectory).getD false
    if a = b || identityAt fs a == identityAt fs b then .ok none
    else if isDirectory a && a.isPrefixOf b then .error .invalid
    else if !isDirectory a && slash then .error (.file .notDirectory)
    else if (fs.node? b).isNone then .ok (some (a, b))
    else if isDirectory b then
      if !isDirectory a then .error (.file .isDirectory)
      else if (fs.names b).isEmpty then .ok (some (a, b))
      else .error .notEmpty
    else if isDirectory a then .error (.file .notDirectory)
    else .ok (some (a, b))

/-- Carries out a change, seen from where a process is. -/
def applyChange (k : State) (pid : Nat) (c : Change) : Except Refusal State := do
  let fs := k.seenBy pid
  let mask := ((k.process? pid).map (·.mask)).getD 0
  let make (path : String) (matter : Matter) (mode : Nat) : Except Refusal State := do
    let r ← routeOf path
    let made ← refuse (fs.make r matter mode)
    let k := k.setFiles made
    match fs.target r with
    | .ok (.entry loc _) => .ok (k.noteAbove loc)
    | _ => .ok k
  let remove (loc : Location) : Except Refusal State := do
    refuse (fs.requireAccess loc)
    .ok ((k.setFiles (fs.removeAt loc)).noteAbove loc)
  let update (path : String) (f : Location → Node → Except Refusal Node) : Except Refusal State := do
    let loc ← refuse (fs.locate (← routeOf path))
    let n ← refuse (fs.found loc)
    let n ← f loc n
    .ok (if loc = [] then k else k.setFiles (fs.update loc n))
  match c with
  | .makeDirectory path mode => make path .directory (mode &&& (0o7777 ^^^ mask))
  | .makeFifo path mode => make path .fifo (mode &&& (0o7777 ^^^ mask))
  | .makeLink target path =>
    if target = "" then .error .notFound else make path (.link target) 0o777
  | .addName source path =>
    let a ← entryOf fs (← routeOf source)
    match ← refuse (fs.target (← routeOf path)) with
    | .present => .error (.file .alreadyExists)
    | .entry b slash =>
      if (fs.node? b).isSome then .error (.file .alreadyExists)
      else if ((fs.node? a).map Node.isDirectory).getD true then .error (.file .notPermitted)
      else if slash then .error .notFound
      else
        refuse (fs.requireAccess b)
        match fs.share a with
        | none => .error .notFound
        | some (number, fs) =>
          let fs := { fs with entries := fs.entries.insert b (.shared number) }
          .ok ((k.setFiles fs).noteAbove b)
  | .removeDirectory path =>
    let loc ← entryOf fs (← routeOf path)
    if !((fs.node? loc).map Node.isDirectory).getD false then .error (.file .notDirectory)
    else if (fs.names loc).isEmpty then remove loc
    else .error .notEmpty
  | .unlink path =>
    let loc ← entryOf fs (← routeOf path)
    if ((fs.node? loc).map Node.isDirectory).getD false then .error (.file .isDirectory)
    else remove loc
  | .rename source target =>
    match ← relocation fs (← routeOf source) (← routeOf target) with
    | none => .ok k
    | some (a, b) =>
      .ok ((((k.setFiles (moved fs a b)).movePlaces a b).noteAbove a).noteAbove b)
  | .setMode path mode =>
    update path fun _ n =>
      if n.own then .ok { n with mode := mode % 0o10000 } else .error (.file .notPermitted)
  | .resize path size =>
    update path fun _ n =>
      if !n.grants .write then .error (.file .permissionDenied)
      else
        match n.matter with
        | .file content =>
          .ok { n with
            matter := .file (content.take size ++ List.replicate (size - content.length) 0)
            changed := k.clock }
        | .directory => .error (.file .isDirectory)
        | _ => .error .invalid
  | .touch path time =>
    match descriptorNamed? path with
    | some _ => .ok k
    | none =>
      update path fun _ n =>
        if n.own || n.grants .write then .ok { n with changed := time.getD k.clock }
        else .error (.file .permissionDenied)

end HardenAudit.Kernel.State
