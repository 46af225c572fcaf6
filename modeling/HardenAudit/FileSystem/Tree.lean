import HardenAudit.FileSystem.Basic

/-!
# Making a directory together with its ancestors

A directory is tried first; only if something on the way is missing is the parent made, and then the
directory is tried again.  A path that already is a directory is fine at either attempt.
-/

namespace HardenAudit.FileSystem

/-- A path and its lexical ancestors, nearest first. -/
def lineageFrom : Nat → Path → List Path
  | 0, p => [p]
  | n + 1, p =>
    match p.parent? with
    | none => [p]
    | some up => p :: lineageFrom n up

/-- A path and all its lexical ancestors, nearest first; each is shorter than the one before. -/
def lineage (p : Path) : List Path := lineageFrom p.text.length p

/-- One attempt to make a directory; one that is there already is fine, unless it was missed. -/
def attempt (fs : FileSystem) (p : Path) : Except FileError FileSystem :=
  match fs.makeDirectory p with
  | .ok fs' => .ok fs'
  | .error e => if fs.isDirectory p then .ok fs else .error e

/-- Makes the first directory of a lineage, and as many of the others as that takes.  The file
system is returned in any case: a failure may leave new ancestors behind. -/
def makeLineage : List Path → FileSystem → Option FileError × FileSystem
  | [], fs => (none, fs)
  | p :: up, fs =>
    if p.text = "" then (none, fs)
    else
      match fs.makeDirectory p with
      | .ok fs' => (none, fs')
      | .error .notFound =>
        match makeLineage up fs with
        | (some e, fs') => (some e, fs')
        | (none, fs') =>
          match fs'.attempt p with
          | .ok fs'' => (none, fs'')
          | .error e => (some e, fs')
      | .error e => if fs.isDirectory p then (none, fs) else (some e, fs)

/-- Makes a directory with all its ancestors.  The empty path asks for nothing. -/
def makeTree (fs : FileSystem) (p : Path) : Option FileError × FileSystem :=
  makeLineage (lineage p) fs

end HardenAudit.FileSystem
