import HardenAudit.ExtendedShell.Builtin.Directory
import HardenAudit.ExtendedShell.Lookup
import HardenAudit.ExtendedShell.Running

/-!
# Calling functions, scripts and programs

Functions and scripts are run by the shell itself, programs in processes of their own.  Such a process
becomes the program, or says why it cannot.  What runs commands takes the evaluator as an argument, since
commands run commands.
-/

namespace HardenAudit.ExtendedShell

open Builtin (withOptions)
open Kernel (Environment Refusal)

namespace Sh

/-! ## Becoming a program -/

/-- The variables that a program is given: those of the shell, functions, and the program's path. -/
def environmentFor (path : String) : Sh Environment := do
  let s ← get
  let functions := (s.functions.entries.filter (·.2.exported)).map fun e =>
    ("BASH_FUNC_" ++ e.1 ++ "%%", exportedText s.documents e.2.body)
  pure (s.environment ++ functions ++ [("_", path)])

/-- The program that the first line of a file names. -/
def interpreterOf? (path : String) : Sh (Option String) := do
  match ← ask (.openFile path .input) with
  | .error _ => pure none
  | .ok fd =>
    let start ← ask (.read fd 80)
    let _ ← ask (.close fd)
    match start with
    | .error _ => pure none
    | .ok bytes =>
      match (Text.Raw.ofBytes bytes).toList with
      | '#' :: '!' :: rest =>
        let rest := rest.dropWhile fun c => c == ' ' || c == '\t'
        pure (some (String.ofList (rest.takeWhile fun c => c != ' ' && c != '\t' && c != '\n')))
      | _ => pure none

/-- Are these the first characters of a file that is no text?  A character zero on the first line tells. -/
def isBinary (text : List Char) : Bool := (text.takeWhile (· != '\n')).any fun c => c.toNat == 0

/-- Reports why a path cannot be run, and gives the status. -/
def reportLaunch (path : String) (why : Refusal) : Sh Nat := do
  let kind := (← ask (.inspect path)).toOption
  let missing := why == .notFound
  let status := if missing then 127 else 126
  match kind with
  | some s =>
    if s.kind == .directory then warnPlain (path ++ ": Is a directory")
    else if !s.executable then warnPlain (path ++ ": " ++ why.text)
    else if missing then warnPlain (path ++ ": cannot execute: required file not found")
    else
      match ← interpreterOf? path with
      | some program => warnPlain (path ++ ": " ++ program ++ ": bad interpreter: " ++ why.text)
      | none => warnPlain (path ++ ": " ++ why.text)
  | none => warnPlain (path ++ ": " ++ why.text)
  pure status

/-- Becomes the program at a path; comes back only if that is refused, and gives the status.  A text without
a first line that names its program is run by a shell. -/
def become (path : String) (words : List String) (env : Environment) : Sh Nat := do
  flush
  match ← ask (.execute path words env) with
  | .file .execFormat => do
    let start : Except Refusal Text.Bytes ← do
      match ← ask (.openFile path .input) with
      | .ok fd => do
        let start ← ask (.read fd 80)
        let _ ← ask (.close fd)
        pure start
      | .error e => pure (.error e)
    match start with
    | .ok bytes =>
      if isBinary (Text.Raw.ofBytes bytes).toList then
        warnPlain (path ++ ": cannot execute binary file: Exec format error")
        pure 126
      else
        let _ ← ask (.execute "/usr/bin/bash" ("bash" :: path :: words.drop 1) env)
        pure 126
    | .error e =>
      warnPlain (path ++ ": " ++ e.text)
      pure 126
  | why => reportLaunch path why

/-! ## Leaving -/

/-- The number that an argument of `exit` or `return` is, from 0 to 255. -/
def statusArg? (args : List String) : Sh (Except Unit Nat) := do
  match args with
  | [] => pure (.ok (← get).status)
  | [text] =>
    match Shell.wholeNumber? 10 text with
    | some n => pure (.ok (n % 256).toNat)
    | none =>
      warn (text ++ ": numeric argument required")
      pure (.error ())
  | _ =>
    warn "too many arguments"
    discard

/-- The arguments without two dashes before them. -/
def behindDashes (args : List String) : List String :=
  if args.head? == some "--" then args.drop 1 else args

/-- Leaves the shell. -/
def leaveShell (args : List String) : Sh Nat := do
  match ← statusArg? (behindDashes args) with
  | .ok n => leave n
  | .error _ => leave 2

/-- Leaves a function or a script. -/
def returnFrom (args : List String) : Sh Nat := do
  if (← get).calls.isEmpty then
    warn "can only \x60return\x27 from a function or sourced script"
    pure 2
  else
    match ← statusArg? (behindDashes args) with
    | .ok n => throw (.return n)
    | .error _ => throw (.return 2)

/-- Leaves loops, or turns of them. -/
def leaveLoops (turn : Bool) (args : List String) : Sh Nat := do
  let loops := (← get).loops
  if loops = 0 then
    warn "only meaningful in a \x60for\x27, \x60while\x27, or \x60until\x27 loop"
    pure 0
  else
    let go (n : Nat) : Sh Nat := do
      modify fun s => { s with status := 0 }
      throw (if turn then .continue n else .break n)
    match behindDashes args with
    | [] => go 1
    | [text] =>
      match Shell.wholeNumber? 10 text with
      | none =>
        warn (text ++ ": numeric argument required")
        discard 128
      | some n =>
        if n ≤ 0 then
          warn (text ++ ": loop count out of range")
          modify fun s => { s with status := 1 }
          throw (.break loops)
        else go (min n.toNat loops)
    | _ =>
      warn "too many arguments"
      discard

/-- Says from where a function or a script was called. -/
def caller (args : List String) : Sh Nat := do
  let values (name : String) : Sh (List String) := do
    match ← find? name with
    | some v => pure v.value.all
    | none => pure []
  let lines ← values "BASH_LINENO"
  let sources ← values "BASH_SOURCE"
  let names ← values "FUNCNAME"
  match args with
  | [] =>
    match lines with
    | [] => pure 1
    | line :: _ =>
      print (line ++ " " ++ sources.getD 1 "NULL" ++ "\n")
      pure 0
  | text :: _ =>
    match Shell.wholeNumber? 10 text with
    | none =>
      warn (text ++ ": invalid number")
      Builtin.showUsage
      pure 2
    | some n =>
      let n := n.toNat
      match lines[n]?, sources[n + 1]?, names[n + 1]? with
      | some line, some source, some name =>
        print (line ++ " " ++ name ++ " " ++ source ++ "\n")
        pure 0
      | _, _, _ => pure 1

/-! ## Functions and scripts -/

/-- Runs a part with something on the stack of calls. -/
def withCall (call : Call) (body : Sh Nat) : Sh Nat := do
  let s ← get
  modify fun s => { s with calls := call :: s.calls }
  let r ← attempt body
  modify fun t => { t with calls := s.calls, line := s.line, shift := s.shift }
  match r with
  | .error (.return n) =>
    modify fun t => { t with status := n }
    pure n
  | r => resume r

/-- Which actions for events a function does not know. -/
def isKeptFromFunctions (options : List String) (name : String) : Bool :=
  (name == "ERR" && !options.contains "errtrace")
    || ((name == "DEBUG" || name == "RETURN") && !options.contains "functrace")

/-- Calls a function. -/
def callFunction (run : Evaluator) (mode : Mode) (name : String) (f : Function) (args : List String) :
    Sh Nat := do
  let s ← get
  let hidden := s.traps.filter fun t => isKeptFromFunctions s.options t.1
  let scope : Scope := { isFunction := true }
  modify fun s => { s with
    arguments := args, loops := 0, scopes := scope :: s.scopes, shift := 0, running := none
    traps := s.traps.filter fun t => !isKeptFromFunctions s.options t.1 }
  let r ← attempt (withCall { name := name, source := f.source, line := s.line } do
    let r ← attempt (run { tested := mode.tested } f.body)
    match r with
    | .ok n | .error (.return n) =>
      modify fun s => { s with status := n }
      runEvent run "RETURN" "return trap"
    | .error _ => pure ()
    resume r)
  modify fun t =>
    let inner := t.scopes.drop (t.scopes.length - s.scopes.length - 1)
    let options := (inner.head?.bind (·.options)).getD t.options
    let known := t.traps.map (·.1)
    { t with
      arguments := s.arguments, loops := s.loops, scopes := inner.drop 1, options := options
      running := s.running
      traps := t.traps ++ hidden.filter fun h => !known.contains h.1 }
  resume r

/-- The path of a script to be run by this shell itself. -/
def scriptPath (name : String) : Sh String := do
  if name.toList.contains '/' || !(← hasExtra "sourcepath") then pure name
  else
    let rec go : List String → Sh String
      | [] => pure name
      | path :: rest => do
        match ← ask (.inspect path) with
        | .ok s => if s.kind == .directory then go rest else pure path
        | .error _ => go rest
    go (placesOf (← searchPath) name)

/-- Runs a script in this shell. -/
def runSource (run : Evaluator) (mode : Mode) (args : List String) : Sh Nat :=
  withOptions "" args fun g => do
    match g.rest with
    | [] =>
      warn "filename argument required"
      Builtin.showUsage
      pure 2
    | name :: more =>
      let path ← scriptPath name
      match ← ask (.openFile path .input) with
      | .error e =>
        warnPlain (name ++ ": " ++ e.text)
        pure 1
      | .ok fd =>
        let isDirectory := ((← ask (.statusOf fd)).toOption.map fun s => s.kind == .directory).getD false
        let text ← if isDirectory then pure "" else readAll fd
        let _ ← ask (.close fd)
        if isDirectory then
          warn (name ++ ": is a directory")
          pure 1
        else
          let s ← get
          if !more.isEmpty then modify fun s => { s with arguments := more }
          let r ← attempt (withCall
            { name := "source", source := path, line := s.line, isFunction := false } do
              modify fun s => { s with running := none }
              runText run "" 1 (withoutNul text) { tested := mode.tested })
          modify fun t => { t with running := s.running }
          if !more.isEmpty then modify fun t => { t with arguments := s.arguments }
          resume r

/-! ## Programs -/

/-- Complains about a command that is not there, or asks the function for that. -/
def reportMissing (run : Evaluator) (words : List String) : Sh Nat := do
  let name := words.head?.getD ""
  match (← get).functions.find? "command_not_found_handle" with
  | some f => callFunction run {} "command_not_found_handle" f words
  | none =>
    warnPlain (name ++ ": command not found")
    pure 127

/-- Runs a program in a process of its own, or becomes it. -/
def launch (run : Evaluator) (mode : Mode) (ds : List Redirect) (path : Option String)
    (words : List String) (text : String) : Sh Nat := do
  let child : Sh Nat := do
    let (worked, _) ← applyRedirects (servicesOf run) ds []
    if !worked then pure 1
    else
      match path with
      | none => reportMissing run words
      | some p => become p words (← environmentFor p)
  let s ← get
  if mode.last && s.traps.isEmpty then
    let (me, _) ← ask .identity
    if me == s.pid then
      let level := ((← lookup "SHLVL").bind (Shell.wholeNumber? 10)).getD 1
      let _ ← storeAt "SHLVL" .whole (toString (level - 1))
    let status ← child
    leave status
  else
    let job ← newJob false text
    let _ ← branchOff job false false do
      modify fun s => { s with running := none }
      child
    let statuses ← awaitJob job
    pure ((statuses.getLast?).getD 0)

/-- Takes the place of the shell. -/
def replaceShell (args : List String) : Sh Nat :=
  withOptions "cla:" args fun g => do
    match g.rest with
    | [] => pure 0
    | name :: more =>
      let failed (status : Nat) : Sh Nat := do
        if ← hasExtra "execfail" then pure status else leave status
      let path ← if name.toList.contains '/' then pure (some name) else programFor? name
      match path with
      | none =>
        warn (name ++ ": not found")
        failed 127
      | some path =>
        let shown := (g.value? 'a').getD name
        let shown := if g.has 'l' then "-" ++ shown else shown
        let level := ((← lookup "SHLVL").bind (Shell.wholeNumber? 10)).getD 1
        let _ ← storeAt "SHLVL" .whole (toString (level - 1))
        let env ← environmentFor path
        let s ← get
        let full := if path.startsWith "/" then path else Shell.Builtin.reached s.directory path
        let outer := s.running
        let status ← become full (shown :: more) (if g.has 'c' then [] else env)
        modify fun s => { s with running := outer }
        let _ ← storeAt "SHLVL" .whole (toString level)
        match ← ask (.inspect full) with
        | .ok s =>
          if s.kind == .directory then warn (name ++ ": cannot execute: Is a directory")
          else if !s.executable then warn (name ++ ": cannot execute: Permission denied")
        | .error _ => pure ()
        failed status

end Sh
end HardenAudit.ExtendedShell
