import HardenAudit.FileSystem.Basic
import HardenAudit.FileSystem.Tree

/-!
# Setting up a file system

Files and directories supplied from outside, together with the directories that lead to them.
-/

namespace HardenAudit.FileSystem

open Text (Bytes)

/-- Directories that every system has. -/
def commonDirectories : List Location :=
  [["boot"], ["dev"], ["etc"], ["home"], ["media"], ["mnt"], ["opt"], ["proc"], ["run"], ["srv"],
   ["sys"], ["usr"], ["usr", "bin"], ["usr", "lib"], ["usr", "lib64"], ["usr", "local"],
   ["usr", "local", "bin"], ["usr", "local", "sbin"], ["usr", "sbin"], ["usr", "share"], ["var"]]

/-- Directories into which everybody may write. -/
def openDirectories : List Location := [["tmp"], ["var", "tmp"]]

/-- Names that lead to directories elsewhere. -/
def commonLinks : List (Location × String) :=
  [(["bin"], "usr/bin"), (["lib"], "usr/lib"), (["lib64"], "usr/lib64"), (["sbin"], "usr/sbin")]

/-- A node of the system. -/
def systemNode (matter : Matter) (mode : Nat) : Node := { matter := matter, mode := mode, own := false }

/-- The accounts of the system: name, number, group, remark, home and shell. -/
def accounts : List (String × Nat × Nat × String × String × String) :=
  let none_ := "/usr/sbin/nologin"
  [("root", 0, 0, "root", "/root", "/bin/bash"), ("daemon", 1, 1, "daemon", "/usr/sbin", none_),
   ("bin", 2, 2, "bin", "/bin", none_), ("sys", 3, 3, "sys", "/dev", none_),
   ("sync", 4, 65534, "sync", "/bin", "/bin/sync"), ("games", 5, 60, "games", "/usr/games", none_),
   ("man", 6, 12, "man", "/var/cache/man", none_), ("lp", 7, 7, "lp", "/var/spool/lpd", none_),
   ("mail", 8, 8, "mail", "/var/mail", none_), ("news", 9, 9, "news", "/var/spool/news", none_),
   ("uucp", 10, 10, "uucp", "/var/spool/uucp", none_), ("proxy", 13, 13, "proxy", "/bin", none_),
   ("www-data", 33, 33, "www-data", "/var/www", none_),
   ("backup", 34, 34, "backup", "/var/backups", none_),
   ("list", 38, 38, "Mailing List Manager", "/var/list", none_), ("irc", 39, 39, "ircd", "/run/ircd", none_),
   ("_apt", 42, 65534, "", "/nonexistent", none_),
   ("nobody", 65534, 65534, "nobody", "/nonexistent", none_), ("user", 1000, 1000, "", "/home/user", "/bin/sh")]

/-- The accounts as a file keeps them. -/
def accountsText : String :=
  String.join (accounts.map fun (name, number, group, remark, home, shell) =>
    ":".intercalate [name, "x", toString number, toString group, remark, home, shell] ++ "\n")

/-- Files of the system that are no programs, with their rights. -/
def systemFiles : List (Location × Nat × String) :=
  [(["etc", "passwd"], 0o644, accountsText), (["etc", "shadow"], 0o640, "")]

/-- A system without programs and with an empty directory to work in. -/
def bare : FileSystem :=
  let add (mode : Nat) (fs : FileSystem) (loc : Location) : FileSystem :=
    fs.put loc (systemNode .directory mode)
  let fs : FileSystem := commonDirectories.foldl (add 0o755) default
  let fs := openDirectories.foldl (add 0o1777) (add 0o700 fs ["root"])
  let fs := commonLinks.foldl (fun fs l => fs.put l.1 (systemNode (.link l.2) 0o777)) fs
  let fs := fs.put ["dev", "null"] (systemNode .device 0o666)
  let fs := systemFiles.foldl (fun fs f =>
    fs.put f.1 (systemNode (.file f.2.2.toUTF8.toList) f.2.1)) fs
  { fs.put ["tmp", "work"] { matter := .directory, mode := directoryMode } with
    here := ["tmp", "work"] }

/-- Something that is put into a file system before a run. -/
structure Supply where
  path : Path
  /-- The content of a file; a directory has none. -/
  content : Option Bytes
  executable : Bool := false
  deriving DecidableEq, Repr, Inhabited

/-- The file system with a file or a directory supplied, and the directories that lead there.  What
cannot be put is left out. -/
def supply (fs : FileSystem) (s : Supply) : FileSystem :=
  match s.content with
  | none => (fs.makeTree s.path).2
  | some content =>
    let fs := match s.path.parent? with
      | some up => (fs.makeTree up).2
      | none => fs
    match fs.write s.path content with
    | .ok fs' => if s.executable then fs'.setMode s.path directoryMode else fs'
    | .error _ => fs

/-- What a path leads to, seen from outside. -/
inductive View where
  | text (content : String)
  | names (entries : List String)
  deriving DecidableEq, Repr

/-- Looks at a path. -/
def view? (fs : FileSystem) (p : Path) : Option View :=
  match (do fs.locate (← p.route) : Except FileError Location) with
  | .error _ => none
  | .ok loc =>
    match fs.found loc with
    | .error _ => none
    | .ok n =>
      match n.matter with
      | .directory =>
        some (.names (((fs.names loc).map Text.Raw.toText).mergeSort fun a b => a ≤ b))
      | .file content =>
        if n.grants .read then some (.text (Text.Utf8.decodeLossy content)) else none
      | _ => none

end HardenAudit.FileSystem

/-!
## Differences between file systems

What a run has changed below the directory it worked in, in an order in which the changes can be
carried out one by one: first what is gone, contents before their directories, and then what is new
or different, directories before their contents.
-/

namespace HardenAudit.FileSystem

open Text (Bytes)

/-- One change, at a path that starts from the directory of the run. -/
inductive Change where
  | removeFile (path : String)
  | removeDirectory (path : String)
  | makeDirectory (path : String)
  | writeFile (path : String) (content : Bytes)
  deriving DecidableEq, Repr, Inhabited

/-- A location as a path from a directory above it. -/
def relative? (base loc : Location) : Option String :=
  if base.isPrefixOf loc && base.length < loc.length then
    some (Text.Raw.toText ("/".intercalate (loc.drop base.length)))
  else none

/-- The removal of a node. -/
def removal? (path : String) : Matter → Option Change
  | .file .. => some (.removeFile path)
  | .directory => some (.removeDirectory path)
  | _ => none

/-- The making of a node. -/
def creation? (path : String) : Matter → Option Change
  | .file content => some (.writeFile path content)
  | .directory => some (.makeDirectory path)
  | _ => none

/-- The nodes of a file system by their locations. -/
def population (fs : FileSystem) : List (Location × Matter) :=
  fs.entries.keys.filterMap fun loc => (fs.node? loc).map fun n => (loc, n.matter)

/-- The changes that lead from one file system to another. -/
def changes (before after : FileSystem) : List Change :=
  let matter? (fs : FileSystem) (loc : Location) : Option Matter := (fs.node? loc).map (·.matter)
  let gone := before.population.reverse.filterMap fun (loc, matter) =>
    if (matter? after loc).isNone then (relative? before.here loc).bind (removal? · matter) else none
  let new := after.population.filterMap fun (loc, matter) =>
    if matter? before loc = some matter then none
    else (relative? before.here loc).bind (creation? · matter)
  gone ++ new

end HardenAudit.FileSystem
