import HardenAudit.ExtendedShell.Builtin.Options
import HardenAudit.ExtendedShell.Parser
import HardenAudit.ExtendedShell.Printing
import HardenAudit.Shell.Lookup

/-!
# What a command name stands for

A name is an alias, a reserved word, a function, a builtin command, or a program that is found in the
directories of the search path.
-/

namespace HardenAudit.ExtendedShell

open Kernel (Refusal)

/-- What a name stands for, aliases and reserved words apart. -/
inductive Meaning where
  | function (f : Function)
  | builtin
  /-- A program at a path. -/
  | program (path : String)
  | unknown
  deriving Inhabited

namespace Sh

/-- The search path. -/
def searchPath : Sh String := do
  pure ((← lookup "PATH").getD "")

/-- The programs at some paths: those that may be run, and other files. -/
def programsAt : List String → Sh (List String × List String)
  | [] => pure ([], [])
  | path :: rest => do
    let (good, poor) ← programsAt rest
    match ← ask (.inspect path) with
    | .ok status =>
      if status.kind == .directory then pure (good, poor)
      else if status.executable then pure (path :: good, poor)
      else pure (good, path :: poor)
    | .error _ => pure (good, poor)

/-- The places where a program may be. -/
def placesOf (path name : String) : List String :=
  if path == "" then [] else
    (path.splitOn ":").map fun dir => if dir == "" || dir == "." then "./" ++ name
      else if dir.endsWith "/" then dir ++ name else dir ++ "/" ++ name

/-- Looks for a program in the directories of a path; a file that may not be run is better than none. -/
def findProgram? (path name : String) : Sh (Option String) := do
  let (good, poor) ← programsAt (placesOf path name)
  pure (good.head?.or poor.head?)

/-- Is a builtin command in use? -/
def isBuiltinNow (name : String) : Sh Bool := do
  pure (Builtin.isBuiltin name && !(← get).disabled.contains name)

/-- Looks for a program by its name, also among those that were found before. -/
def programFor? (name : String) : Sh (Option String) := do
  let s ← get
  match s.hashed.lookup name with
  | some (path, count) =>
    let raised (h : String × String × Nat) := if h.1 == name then (name, path, count + 1) else h
    set { s with hashed := s.hashed.map raised }
    pure (some path)
  | none =>
    match ← findProgram? (← searchPath) name with
    | none => pure none
    | some path =>
      modify fun s => { s with hashed := s.hashed ++ [(name, path, 1)] }
      pure (some path)

/-- Finds out what the name of a command stands for. -/
def meaningOf (name : String) (functions builtins : Bool := true) : Sh Meaning := do
  let s ← get
  match if functions then s.functions.find? name else none with
  | some f => pure (.function f)
  | none =>
    if builtins && (← isBuiltinNow name) then pure .builtin
    else if name.toList.contains '/' then pure (.program name)
    else
      match ← programFor? name with
      | some path => pure (.program path)
      | none => pure .unknown

/-- How names are described. -/
structure Describing where
  /-- All that a name stands for, and not only the first. -/
  all : Bool := false
  functions : Bool := true
  /-- Only programs, and only their paths. -/
  paths : Bool := false
  /-- Only paths, and only if the name stands for a program. -/
  pathIfProgram : Bool := false
  /-- Only what kind of thing it is. -/
  kind : Bool := false
  /-- As a text that can be used again. -/
  reusable : Bool := false
  deriving Inhabited

/-- Describes what a name stands for, kind by kind; says whether it stands for anything. -/
def describe (d : Describing) (name : String) : Sh Bool := do
  let s ← get
  let mut found := false
  let aliasing ← hasExtra "expand_aliases"
  let silent := d.paths || d.pathIfProgram
  let say (kind long short : String) : Sh Unit := do
    if d.kind then print (kind ++ "\n")
    else if d.reusable then print (short ++ "\n")
    else if !silent then print (long ++ "\n")
  if !d.paths then
    if let some value := s.aliases.lookup name then
      if aliasing then
        say "alias" (name ++ " is aliased to \x60" ++ value ++ "\x27")
          ("alias " ++ name ++ "=" ++ Quoting.single value)
        found := true
        if !d.all then return true
    if reservedWords.contains name then
      say "keyword" (name ++ " is a shell keyword") name
      found := true
      if !d.all then return true
    if d.functions then
      if let some f := s.functions.find? name then
        say "function" (name ++ " is a function\n" ++ functionText s.documents name f.body) name
        found := true
        if !d.all then return true
    if ← isBuiltinNow name then
      say "builtin" (name ++ " is a shell builtin") name
      found := true
      if !d.all then return true
  let tell (path : String) : Sh Unit := do
    if d.kind then print "file\n"
    else if silent || d.reusable then print (path ++ "\n")
    else print (name ++ " is " ++ path ++ "\n")
  if name.toList.contains '/' then
    match ← ask (.inspect name) with
    | .ok status =>
      if status.executable && status.kind != .directory then
        tell name
        found := true
    | .error _ => pure ()
  else
    match if d.all then none else s.hashed.lookup name with
    | some (path, _) =>
      if d.kind || silent || d.reusable then tell path
      else print (name ++ " is hashed (" ++ path ++ ")\n")
      found := true
    | none =>
      let (good, _) ← programsAt (placesOf (← searchPath) name)
      for path in (if d.all then good else good.take 1) do
        tell path
        found := true
  return found

end Sh

namespace Builtin

open Sh

/-- Says what names stand for. -/
def type (args : List String) : Sh Nat :=
  withOptions "afptP" args fun g => do
    let last := ((g.options.map (·.1)).filter fun c => c == 'p' || c == 't' || c == 'P').getLast?
    let d : Describing :=
      { all := g.has 'a', functions := !g.has 'f'
        paths := last == some 'P', pathIfProgram := last == some 'p', kind := last == some 't' }
    let mut status := 0
    for name in g.rest do
      if !(← describe d name) then
        if last.isNone then warn (name ++ ": not found")
        status := 1
    return status

/-- Says what names stand for, briefly or at length. -/
def describeAll (long : Bool) (names : List String) : Sh Nat := do
  let mut any := false
  for name in names do
    if ← describe { reusable := !long } name then any := true
    else if long then warn (name ++ ": not found")
  return if any then 0 else 1

/-- Shows and changes the list of programs that were found. -/
def hash (args : List String) : Sh Nat :=
  withOptions "dlp:rt" args fun g => do
    if g.has 'r' then modify fun s => { s with hashed := [] }
    let forget (name : String) : Sh Unit := modify fun s =>
      { s with hashed := s.hashed.filter (·.1 != name) }
    if g.rest.isEmpty then
      if g.has 'r' then return 0
      let known := (← get).hashed
      if known.isEmpty then print "hash: hash table empty\n"
      else
        if !g.has 'l' then print "hits\tcommand\n"
        for (name, path, count) in known do
          let number := toString count
          let gap := String.ofList (List.replicate (4 - number.length) ' ')
          print (if g.has 'l' then "builtin hash -p " ++ path ++ " " ++ name ++ "\n"
            else gap ++ number ++ "\t" ++ path ++ "\n")
      return 0
    let mut status := 0
    for name in g.rest do
      let missing : Sh Unit := warn (name ++ ": not found")
      let known := (← get).hashed.lookup name
      match g.value? 'p' with
      | some path =>
        forget name
        modify fun s => { s with hashed := s.hashed ++ [(name, path, 0)] }
      | none =>
        if g.has 'd' then
          if known.isNone then
            missing
            status := 1
          else forget name
        else if g.has 't' then
          match known with
          | some (path, _) =>
            modify fun s => { s with
              hashed := s.hashed.map fun h => if h.1 == name then (name, path, h.2.2 + 1) else h }
            print (if g.rest.length > 1 then name ++ "\t" ++ path ++ "\n" else path ++ "\n")
          | none =>
            missing
            status := 1
        else if !name.toList.contains '/' then
          let isFunction := ((← get).functions.find? name).isSome
          if !isFunction && !(← isBuiltinNow name) then
            match ← findProgram? (← searchPath) name with
            | some path =>
              forget name
              modify fun s => { s with hashed := s.hashed ++ [(name, path, 0)] }
            | none =>
              missing
              status := 1
    return status

/-- Takes builtin commands out of use, or into use again. -/
def enable (args : List String) : Sh Nat :=
  withOptions "adnpsf:" args fun g => do
    if g.rest.isEmpty || g.has 'p' then
      for (name, _) in usages do
        let off := (← get).disabled.contains name
        let wanted := (if g.has 'a' then true else off == g.has 'n') && (!g.has 's' || isSpecial name)
        if wanted then print ("enable " ++ (if off then "-n " else "") ++ name ++ "\n")
      return 0
    let mut status := 0
    for name in g.rest do
      if !isBuiltin name then
        warn (name ++ ": not a shell builtin")
        status := 1
      else
        modify fun s =>
          let others := s.disabled.filter (· != name)
          { s with disabled := if g.has 'n' then name :: others else others }
    return status

/-- Shows how builtin commands are called. -/
def help (args : List String) : Sh Nat :=
  withOptions "dms" args fun g => do
    let mut status := 0
    for name in g.rest do
      match usages.lookup name with
      | some usage => print (name ++ ": " ++ usage ++ "\n")
      | none =>
        warn ("no help topics match \x60" ++ name ++ "\x27.  Try \x60help help\x27 or \x60man -k " ++ name
          ++ "\x27 or \x60info " ++ name ++ "\x27.")
        status := 1
    return status

end Builtin
end HardenAudit.ExtendedShell
