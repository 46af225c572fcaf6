import HardenAudit.Shell.Options
import HardenAudit.Shell.Redirect

/-!
# What a command name stands for

A name is a reserved word, an alias, a function, a builtin command, or a program that is found in
the directories of the search path.
-/

namespace HardenAudit.Shell

open Kernel (Refusal)

/-- What matters about a builtin command before it runs. -/
structure Traits where
  /-- Do its errors end the shell, and do assignments before it last? -/
  special : Bool := false
  /-- Are its arguments that look like assignments expanded like assignments? -/
  assigning : Bool := false
  deriving Repr, Inhabited

/-- The builtin commands. -/
def builtins : List (String × Traits) :=
  let special : Traits := { special := true }
  let marking : Traits := { special := true, assigning := true }
  [(".", special), (":", special), ("[", {}), ("alias", { assigning := true }), ("bg", {}),
   ("break", special), ("cd", {}), ("chdir", {}), ("command", {}), ("continue", special),
   ("echo", {}), ("eval", special), ("exec", special), ("exit", special), ("export", marking),
   ("false", {}), ("fg", {}), ("getopts", {}), ("hash", {}), ("jobs", {}), ("kill", {}),
   ("local", marking), ("printf", {}), ("pwd", {}), ("read", {}), ("readonly", marking),
   ("return", special), ("set", special), ("shift", special), ("test", {}), ("times", special),
   ("trap", special), ("true", {}), ("type", {}), ("ulimit", {}), ("umask", {}), ("unalias", {}),
   ("unset", special), ("wait", {})]

/-- Is the name that of a special builtin command? -/
def isSpecialBuiltin (name : String) : Bool := ((builtins.lookup name).map (·.special)).getD false

/-- The search path that is used if a command asks for the standard one. -/
def standardPath : String := "/usr/local/sbin:/usr/local/bin:/usr/sbin:/usr/bin:/sbin:/bin"

/-- The paths under which a program may be found; an empty directory is the current one. -/
def candidates (path name : String) : List String :=
  (path.splitOn ":").map fun dir => if dir = "" then name else dir ++ "/" ++ name

/-- What a name stands for, aliases and reserved words apart. -/
inductive Meaning where
  | builtin (traits : Traits)
  | function (f : Function)
  /-- A program at a path. -/
  | program (path : String)
  | unknown (why : Refusal)
  deriving Inhabited

/-- The state with a program noted that was found. -/
def State.remember (s : State) (name : String) : State :=
  if s.hashed.contains name then s else { s with hashed := s.hashed ++ [name] }

namespace Sh

/-- The search path. -/
def searchPath : Sh String := do
  pure (((← get).value? "PATH").getD "")

/-- Looks for a file at some paths, which may have to be a program: the first one, or why there is
none. -/
def search (runnable : Bool) : List String → (why : Refusal) → Sh (Except Refusal String)
  | [], why => pure (.error why)
  | path :: rest, why => do
    match ← ask (.inspect path) with
    | .error e => search runnable rest (if e.isMissing then why else e)
    | .ok status =>
      if status.kind == .file && (status.executable || !runnable) then pure (.ok path)
      else search runnable rest (.file .permissionDenied)

/-- Finds out what a name stands for. -/
def meaningOf (name path : String) (noFunctions : Bool) : Sh Meaning := do
  if name.toList.contains '/' then pure (.program name)
  else
    let s ← get
    match if noFunctions then none else s.functions.lookup name with
    | some f => pure (.function f)
    | none =>
      match builtins.lookup name with
      | some traits => pure (.builtin traits)
      | none =>
        match ← search true (candidates path name) .notFound with
        | .ok path =>
          modify (·.remember name)
          pure (.program path)
        | .error e => pure (.unknown e)

/-- Says what a name stands for, at length or in short. -/
def describe (name : String) (path : Option String) (long : Bool) : Sh Nat := do
  let say (shown text : String) : Sh Nat := do
    print ((if long then name ++ text else shown) ++ "\n")
    pure 0
  let s ← get
  if Token.reservedWords.contains name then say name " is a shell keyword"
  else
    match s.aliases.lookup name with
    | some value => say ("alias " ++ name ++ "=" ++ inQuotes value) (" is an alias for " ++ value)
    | none =>
      let tracked := path.isNone && s.hashed.contains name
      let standard ← searchPath
      let missing : Sh Nat := do
        if long then print (name ++ ": not found\n")
        pure 127
      match ← meaningOf name (path.getD standard) false with
      | .function _ => say name " is a shell function"
      | .builtin traits =>
        say name (if traits.special then " is a special shell builtin" else " is a shell builtin")
      | .program found =>
        if name.toList.contains '/' then
          match ← ask (.inspect name) with
          | .ok _ => say name (" is " ++ name)
          | .error _ => missing
        else say found (if tracked then " is a tracked alias for " ++ found else " is " ++ found)
      | .unknown _ => missing

end Sh

namespace Builtin

open Sh

/-- Says what names stand for. -/
def type (args : List String) : Sh Nat := do
  let mut status := 0
  for name in args do
    let code ← describe name none true
    status := status ||| code
  pure status

/-- Says what a name stands for, if asked to. -/
def command (args : List String) : Sh Nat := do
  let g ← given "pvV" args
  let path := if g.options.any (·.1 == 'p') then some standardPath else none
  let long := g.options.any (·.1 == 'V')
  match g.rest with
  | name :: _ =>
    if g.options.any fun o => o.1 == 'v' || o.1 == 'V' then describe name path long else pure 0
  | [] => pure 0

/-- Forgets the programs that were found, looks some up, or shows them. -/
def hash (args : List String) : Sh Nat := do
  let g ← given "r" args
  if !g.options.isEmpty then
    modify fun s => { s with hashed := [] }
    pure 0
  else
    let path ← searchPath
    if g.rest.isEmpty then
      for name in (← get).hashed do
        match ← search true (candidates path name) .notFound with
        | .ok found => print (found ++ "\n")
        | .error _ => pure ()
      pure 0
    else
      let mut status := 0
      for name in g.rest do
        match ← meaningOf name path false with
        | .unknown e =>
          warn (name ++ ": " ++ runMessage e)
          status := 1
        | _ => pure ()
      pure status

end Builtin
end HardenAudit.Shell
