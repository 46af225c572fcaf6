import HardenAudit.Path
import HardenAudit.SortedMap
import HardenAudit.Text.Utf8

/-!
# File systems as values

A file system maps locations (the names on the way from the root) to nodes.  Several locations may
share one node.  A path is resolved piece by piece: every piece but the last has to lead through a
directory that may be searched, a piece after the last name (a trailing slash, a dot) demands that
the name is a directory, and a link on the way is replaced by the path that it holds.  Names are raw
texts, one character for a byte.

What is written to a device or to a pipe with a name is gone at once, and reading one gives nothing at
once.  A named pipe really keeps whoever opens it waiting until somebody opens its other end, for ever
if nobody does.  So it is an assumption that no path that is read or written as a whole leads to a named
pipe without somebody at its other end.
-/

namespace HardenAudit

open Text (Bytes)

/-- Why an operation on files was refused. -/
inductive FileError where
  | notPermitted
  | notFound
  | noDevice
  | execFormat
  | permissionDenied
  | alreadyExists
  | notDirectory
  | isDirectory
  | noSpace
  | nameTooLong
  | tooManyLinks
  /-- A path holds the character NUL. -/
  | nulInPath
  /-- A program name or an argument holds the character NUL. -/
  | nulInData
  | notUtf8
  deriving DecidableEq, Repr, Inhabited

namespace FileError

/-- The wording of a refusal. -/
def message : FileError → String
  | notPermitted => "Operation not permitted (os error 1)"
  | notFound => "No such file or directory (os error 2)"
  | noDevice => "No such device or address (os error 6)"
  | execFormat => "Exec format error (os error 8)"
  | permissionDenied => "Permission denied (os error 13)"
  | alreadyExists => "File exists (os error 17)"
  | notDirectory => "Not a directory (os error 20)"
  | isDirectory => "Is a directory (os error 21)"
  | noSpace => "No space left on device (os error 28)"
  | nameTooLong => "File name too long (os error 36)"
  | tooManyLinks => "Too many levels of symbolic links (os error 40)"
  | nulInPath => "file name contained an unexpected NUL byte"
  | nulInData => "nul byte found in provided data"
  | notUtf8 => "stream did not contain valid UTF-8"

end FileError

/-- The names on the way from the root to a node. -/
abbrev Location := List String

/-- What a node is. -/
inductive Matter where
  | directory
  | file (content : Bytes)
  /-- A path that stands for another one. -/
  | link (target : String)
  /-- A pipe with a name. -/
  | fifo
  | device
  /-- A program of the system, known by its name. -/
  | program (name : String)
  deriving DecidableEq, Repr, Inhabited

/-- What may be done with a node. -/
inductive Right where
  | read
  | write
  /-- To execute a file, or to search a directory. -/
  | execute
  deriving DecidableEq, Repr, Inhabited

/-- The bit of a right in a digit of a mode. -/
def Right.bit : Right → Nat
  | read => 4
  | write => 2
  | execute => 1

/-- What stands at a location. -/
structure Node where
  matter : Matter
  /-- The rights of the owner, the group and all others, each an octal digit, behind three special
  bits. -/
  mode : Nat
  /-- Does the node belong to the user, or to the system? -/
  own : Bool := true
  /-- When the node was changed last. -/
  changed : Nat := 0
  deriving DecidableEq, Repr, Inhabited

namespace Node

/-- Has the user a right? -/
def grants (n : Node) (r : Right) : Bool :=
  let digit := if n.own then n.mode / 64 % 8 else n.mode % 8
  digit / r.bit % 2 == 1

/-- Is the node a directory? -/
def isDirectory (n : Node) : Bool :=
  match n.matter with
  | .directory => true
  | _ => false

/-- Is the node an ordinary file? -/
def isOrdinary (n : Node) : Bool :=
  match n.matter with
  | .file _ | .program _ => true
  | _ => false

/-- A node with its content replaced; a device swallows everything, unless it is full, and so does a pipe,
whose reader is assumed to be there. -/
def filled (n : Node) (loc : Location) (content : Bytes) (time : Nat) : Except FileError Node :=
  match n.matter with
  | .file _ | .program _ => .ok { n with matter := .file content, changed := time }
  | _ => if loc = ["dev", "full"] ∧ content ≠ [] then .error .noSpace else .ok n

end Node

/-- What a location holds: a node of its own, or one that it shares, known by a number. -/
inductive Entry where
  | sole (n : Node)
  | shared (number : Nat)
  deriving DecidableEq, Repr, Inhabited

/-- Nodes by location, the location that relative paths start from, and the time. -/
structure FileSystem where
  entries : SortedMap Location Entry := .empty
  shared : SortedMap Nat Node := .empty
  here : Location := []
  /-- The time that is noted when a node is changed. -/
  time : Nat := 0
  deriving DecidableEq, Inhabited

/-- A path taken apart: where it starts, and the pieces between its slashes. -/
structure Route where
  isAbsolute : Bool
  pieces : List String
  deriving DecidableEq, Repr, Inhabited

namespace Route

/-- Bytes that a whole path may have. -/
def pathLimit : Nat := 4095

/-- Refuses a path that no file system accepts. -/
def acceptable (raw : String) : Except FileError Unit :=
  if raw.toList.contains (Char.ofNat 0) then .error .nulInPath
  else if raw = "" then .error .notFound
  else if raw.length > pathLimit then .error .nameTooLong
  else .ok ()

/-- The pieces of a raw path. -/
def split (raw : String) : List String := (Path.splitSlash raw.toList).map String.ofList

/-- The route of a raw path. -/
def ofRaw (raw : String) : Except FileError Route := do
  acceptable raw
  .ok ⟨raw.toList.head? == some '/', split raw⟩

end Route

/-- The route of a path. -/
def Path.route (p : Path) : Except FileError Route := Route.ofRaw (Text.Raw.ofText p.text)

namespace FileSystem

/-- Bytes that one name may have. -/
def nameLimit : Nat := 255

/-- Links that may be followed on the way of one path. -/
def linkLimit : Nat := 40

/-- The mode of a new directory. -/
def directoryMode : Nat := 0o755

/-- The mode of a new file. -/
def fileMode : Nat := 0o644

/-! ## Nodes -/

/-- The node at a location; the root is always a directory. -/
def node? (fs : FileSystem) (loc : Location) : Option Node :=
  if loc = [] then some { matter := .directory, mode := directoryMode, own := false }
  else
    match fs.entries.find? loc with
    | some (.sole n) => some n
    | some (.shared number) => fs.shared.find? number
    | none => none

/-- The file system with a new node at a location, over what was there. -/
def put (fs : FileSystem) (loc : Location) (n : Node) : FileSystem :=
  { fs with entries := fs.entries.insert loc (.sole n) }

/-- The file system with the node at a location replaced, for all who share it. -/
def update (fs : FileSystem) (loc : Location) (n : Node) : FileSystem :=
  match fs.entries.find? loc with
  | some (.shared number) => { fs with shared := fs.shared.insert number n }
  | _ => fs.put loc n

/-- The target of a link at a location. -/
def link? (fs : FileSystem) (loc : Location) : Option String :=
  match fs.node? loc with
  | some n => match n.matter with
    | .link target => some target
    | _ => none
  | none => none

/-- The names in the directory at a location, in ascending order. -/
def names (fs : FileSystem) (loc : Location) : List String :=
  fs.entries.keys.filterMap fun l => if l.dropLast = loc then l.getLast? else none

/-! ## Resolving paths -/

/-- Succeeds if there is a directory at the location that may be searched.  The current directory
stays one when it was removed, and then has nothing in it. -/
def requireDirectory (fs : FileSystem) (loc : Location) : Except FileError Unit :=
  match fs.node? loc with
  | none => if loc = fs.here then .ok () else .error .notFound
  | some n =>
    if !n.isDirectory then .error .notDirectory
    else if n.grants .execute then .ok ()
    else .error .permissionDenied

/-- The location reached from a directory by one piece of a path. -/
def step (fs : FileSystem) (loc : Location) (piece : String) : Except FileError Location := do
  fs.requireDirectory loc
  if Path.isIdle piece.toList then pure loc
  else if piece = ".." then pure loc.dropLast
  else if piece.length > nameLimit then .error .nameTooLong
  else pure (loc ++ [piece])

/-- The location reached by several pieces.  A link is followed by `follow`, unless it is the last
piece and shall not be passed `through`. -/
def walkWith (fs : FileSystem) (through : Bool)
    (follow : Location → List String → Except FileError Location) :
    Location → List String → Except FileError Location
  | loc, [] => .ok loc
  | loc, piece :: rest =>
    match fs.step loc piece with
    | .error e => .error e
    | .ok next =>
      match fs.link? next with
      | none => fs.walkWith through follow next rest
      | some target =>
        if rest.isEmpty && !through then .ok next
        else follow (if target.startsWith "/" then [] else loc) (Route.split target ++ rest)

/-- The location reached by several pieces, with so many links on the way at most. -/
def walk (fs : FileSystem) (through : Bool) :
    (links : Nat) → Location → List String → Except FileError Location
  | 0 => fs.walkWith through fun _ _ => .error .tooManyLinks
  | links + 1 => fs.walkWith through (fs.walk through links)

/-- Where a route starts. -/
def origin (fs : FileSystem) (r : Route) : Location := if r.isAbsolute then [] else fs.here

/-- The location that a route leads to, whether or not something stands there. -/
def locate (fs : FileSystem) (r : Route) : Except FileError Location :=
  fs.walk true linkLimit (fs.origin r) r.pieces

/-- The location of what a route names, which may be a link. -/
def locateLink (fs : FileSystem) (r : Route) : Except FileError Location :=
  fs.walk false linkLimit (fs.origin r) r.pieces

/-- The node at a location that was reached. -/
def found (fs : FileSystem) (loc : Location) : Except FileError Node :=
  match fs.node? loc with
  | some n => .ok n
  | none =>
    if loc = fs.here then .ok { matter := .directory, mode := directoryMode } else .error .notFound

/-- The node that a path leads to. -/
def stat (fs : FileSystem) (p : Path) : Except FileError Node := do
  let loc ← fs.locate (← p.route)
  fs.found loc

/-- Does the path lead to something? -/
def pathExists (fs : FileSystem) (p : Path) : Bool :=
  match fs.stat p with
  | .ok _ => true
  | .error _ => false

/-- Does the path lead to a directory? -/
def isDirectory (fs : FileSystem) (p : Path) : Bool :=
  match fs.stat p with
  | .ok n => n.isDirectory
  | .error _ => false

/-- Does the path lead to an ordinary file? -/
def isFile (fs : FileSystem) (p : Path) : Bool :=
  match fs.stat p with
  | .ok n => n.isOrdinary
  | .error _ => false

/-- Does the path lead to an ordinary file that may be read? -/
def isReadable (fs : FileSystem) (p : Path) : Bool :=
  match fs.stat p with
  | .ok n => n.isOrdinary && n.grants .read
  | .error _ => false

/-! ## Contents -/

/-- The content of the file at a path; a device and a pipe have none, and a writer of the pipe is assumed
to be there and gone. -/
def read (fs : FileSystem) (p : Path) : Except FileError Bytes := do
  let n ← fs.stat p
  if !n.grants .read then .error .permissionDenied
  else
    match n.matter with
    | .file content => .ok content
    | .directory => .error .isDirectory
    | _ => .ok []

/-- The text of the file at a path. -/
def readText (fs : FileSystem) (p : Path) : Except FileError String := do
  match Text.Utf8.decode? (← fs.read p) with
  | some text => .ok text
  | none => .error .notUtf8

/-- Where a route would put a new entry: in a directory under a name, with or without a slash behind
it; a route that ends in dots, and the root, only lead to what is there. -/
inductive Target where
  | entry (loc : Location) (slash : Bool)
  | present
  deriving DecidableEq, Repr

/-- Finds out where a route would put a new entry. -/
def target (fs : FileSystem) (r : Route) : Except FileError Target := do
  let named := (r.pieces.reverse.dropWhile (· == "")).reverse
  match named.getLast? with
  | none => .ok .present
  | some last =>
    let parent ← fs.walk true linkLimit (fs.origin r) named.dropLast
    let loc ← fs.step parent last
    if last = "." ∨ last = ".." then .ok .present
    else .ok (.entry loc (r.pieces.length != named.length))

/-- Succeeds if entries of the directory above a location may be made and removed. -/
def requireAccess (fs : FileSystem) (loc : Location) : Except FileError Unit :=
  match fs.node? loc.dropLast with
  | none => .error .notFound
  | some n => if n.grants .write && n.grants .execute then .ok () else .error .permissionDenied

/-- The file system with a new node at a location where nothing is. -/
def create (fs : FileSystem) (loc : Location) (matter : Matter) (mode : Nat) :
    Except FileError FileSystem := do
  fs.requireAccess loc
  .ok (fs.put loc { matter := matter, mode := mode, changed := fs.time })

/-- The file system with a new node under a name that nothing has; only a directory may be named with
a slash behind. -/
def make (fs : FileSystem) (r : Route) (matter : Matter) (mode : Nat) :
    Except FileError FileSystem := do
  match ← fs.target r with
  | .present => .error .alreadyExists
  | .entry loc slash =>
    if (fs.node? loc).isSome then .error .alreadyExists
    else if slash && matter != .directory then .error .notFound
    else fs.create loc matter mode

/-- The file system with a new directory. -/
def makeDirectory (fs : FileSystem) (p : Path) : Except FileError FileSystem := do
  fs.make (← p.route) .directory directoryMode

/-- Succeeds if there is no directory at the location. -/
def requireNoDirectory (fs : FileSystem) (loc : Location) : Except FileError Unit :=
  match fs.node? loc with
  | some n => if n.isDirectory then .error .isDirectory else .ok ()
  | none => .ok ()

/-- The location that a route opens for writing; it is not sure that it may be written. -/
def writable (fs : FileSystem) (r : Route) : Except FileError Location := do
  match ← fs.target r with
  | .present => .error .isDirectory
  | .entry _ true => .error .isDirectory
  | .entry loc false =>
    let loc ← (if (fs.link? loc).isSome then fs.locate r else .ok loc)
    fs.requireNoDirectory loc
    .ok loc

/-- Replaces the content of the file at a path, or makes the file. -/
def write (fs : FileSystem) (p : Path) (content : Bytes) : Except FileError FileSystem := do
  let loc ← fs.writable (← p.route)
  match fs.node? loc with
  | none => fs.create loc (.file content) fileMode
  | some n =>
    if n.grants .write then
      let n ← n.filled loc content fs.time
      .ok (fs.update loc n)
    else .error .permissionDenied

/-- Replaces the content of the file at a path by a text. -/
def writeText (fs : FileSystem) (p : Path) (text : String) : Except FileError FileSystem :=
  fs.write p (Text.Utf8.encode text)

/-! ## Other changes -/

/-- The file system without the entry at a location and everything below it. -/
def removeAt (fs : FileSystem) (loc : Location) : FileSystem :=
  { fs with entries := fs.entries.filter fun l => !loc.isPrefixOf l }

/-- The file system without what a path names and everything below it. -/
def remove (fs : FileSystem) (p : Path) : FileSystem :=
  match (do fs.locateLink (← p.route) : Except FileError Location) with
  | .error _ => fs
  | .ok loc => fs.removeAt loc

/-- The file system with the mode of what a path leads to replaced. -/
def setMode (fs : FileSystem) (p : Path) (mode : Nat) : FileSystem :=
  match (do fs.locate (← p.route) : Except FileError Location) with
  | .error _ => fs
  | .ok loc =>
    match fs.node? loc with
    | some n => fs.update loc { n with mode := mode }
    | none => fs

/-- A number that no shared node has. -/
def freeNumber (fs : FileSystem) : Nat := fs.shared.keys.foldl (fun n k => max n (k + 1)) 0

/-- The number under which the node at a location is shared, in a file system in which it is. -/
def share (fs : FileSystem) (loc : Location) : Option (Nat × FileSystem) :=
  match fs.entries.find? loc with
  | some (.shared number) => some (number, fs)
  | some (.sole n) =>
    let number := fs.freeNumber
    some (number,
      { fs with
        entries := fs.entries.insert loc (.shared number)
        shared := fs.shared.insert number n })
  | none => none

/-- The number of locations that hold the same node as one location. -/
def linkCount (fs : FileSystem) (loc : Location) : Nat :=
  match fs.entries.find? loc with
  | some (.shared number) => (fs.entries.entries.filter fun e => e.2 == .shared number).length
  | _ => 1

end FileSystem
end HardenAudit
