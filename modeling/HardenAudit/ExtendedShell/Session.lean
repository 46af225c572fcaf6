import HardenAudit.ExtendedShell.Evaluate

/-!
# The extended shell as a program

A shell takes options, then a command text, the path of a script, or nothing, in which case the script is
its input; then arguments.
-/

namespace HardenAudit.ExtendedShell

open Kernel (Environment Routine)

/-- Commands nested in each other at most. -/
def nestingLimit : Nat := 0x100000000

/-- The evaluator. -/
def runAny : Evaluator := Sh.evaluate nestingLimit

/-- The version of the language. -/
def version : String := "5.2.15(1)-release"

/-- The parts of the version. -/
def versionParts : List String := ["5", "2", "15", "1", "release", "x86_64-pc-linux-gnu"]

/-- The options of the first kind with which a shell starts. -/
def startingOptions : List String := ["braceexpand", "hashall", "interactive-comments"]

/-- The options of the second kind with which a shell starts. -/
def startingExtras : List String :=
  ["checkwinsize", "cmdhist", "complete_fullquote", "extquote", "force_fignore", "globasciiranges",
   "globskipdots", "hostcomplete", "interactive_comments", "patsub_replacement", "progcomp",
   "promptvars", "sourcepath"]

/-- A variable with a text. -/
def plainVariable (text : String) : Variable := { value := .text text }

/-- The variables with which a shell starts, apart from those it is given. -/
def ownVariables : List (String × Variable) :=
  [("BASH", plainVariable "/usr/bin/bash"), ("BASH_VERSION", plainVariable version),
   ("BASH_VERSINFO", { value := .list (.ofList versionParts), readOnly := true }),
   ("HOSTTYPE", plainVariable "x86_64"), ("IFS", plainVariable Shell.standardSeparators),
   ("MACHTYPE", plainVariable "x86_64-pc-linux-gnu"), ("OPTERR", plainVariable "1"),
   ("OPTIND", { value := .text "1", integer := true }), ("OSTYPE", plainVariable "linux-gnu"),
   ("PS4", plainVariable "+ "), ("TERM", plainVariable "dumb"),
   ("PATH", plainVariable Shell.standardPath),
   ("OLDPWD", { isSet := false, exported := true }),
   ("EUID", { value := .text "1000", integer := true, readOnly := true }),
   ("UID", { value := .text "1000", integer := true, readOnly := true })]

/-- Takes over the function that a variable of the environment is. -/
def withImported (s : State) (v : String × String) : State :=
  let (name, value) := v
  if name.startsWith "BASH_FUNC_" && name.endsWith "%%" && value.startsWith "() \x7b" then
    let own := String.ofList ((name.toList.drop 10).dropLast.dropLast)
    match readUnit { Sh.readerFor (own ++ " " ++ value) 1 with documents := s.documents } with
    | .ok (some (.function _ f body), after) =>
      let known : Function := { body := body, line := 1, source := "environment", exported := true }
      if f == own then { s with functions := s.functions.insert f known, documents := after.documents } else s
    | _ => s
  else s

/-- The state of a shell that was given variables. -/
def initial (name : String) (env : Environment) : State :=
  let state : State :=
    { name := name, options := startingOptions, extras := startingExtras, lastArgument := name }
  let state := ownVariables.foldl (fun s v => s.putGlobal v.1 v.2) state
  let kept := env.filter fun v =>
    Shell.isName v.1 && !(["IFS", "OPTIND", "SHELLOPTS", "BASHOPTS", "UID", "EUID", "PPID", "_",
      "BASH_VERSINFO"].contains v.1)
  let state := kept.foldl (fun s v =>
    s.putGlobal v.1 { value := .text v.2, exported := true }) state
  let state := match env.lookup "_" with
    | some text => { state with lastArgument := text }
    | none => state
  let state := env.foldl withImported state
  let level := (((env.lookup "SHLVL").bind (Shell.wholeNumber? 10)).getD 0) + 1
  state.putGlobal "SHLVL" { value := .text (toString level), exported := true }

/-- The long options. -/
def longOptions : List String :=
  ["debug", "debugger", "dump-po-strings", "dump-strings", "help", "init-file", "login", "noediting",
   "noprofile", "norc", "posix", "pretty-print", "rcfile", "restricted", "verbose", "version"]

/-- How the shell is called. -/
def usageText (name : String) : String :=
  "Usage:\t" ++ name ++ " [GNU long option] [option] ...\n\t" ++ name
    ++ " [GNU long option] [option] script-file ...\nGNU long options:\n"
    ++ String.join (longOptions.map fun o => "\t--" ++ o ++ "\n")
    ++ "Shell options:\n\t-ilrsD or -c command or -O shopt_option\t\t(invocation only)\n"
    ++ "\t-abefhkmnptuvxBCEHPT or -o option\n"

/-- What is known of the version. -/
def versionText : String :=
  "GNU bash, version " ++ version ++ " (x86_64-pc-linux-gnu)\n"
    ++ "Copyright (C) 2022 Free Software Foundation, Inc.\n"
    ++ "License GPLv3+: GNU GPL version 3 or later <http://gnu.org/licenses/gpl.html>\n\n"
    ++ "This is free software; you are free to change and redistribute it.\n"
    ++ "There is NO WARRANTY, to the extent permitted by law.\n"

/-- What the shell can do. -/
def helpText (name : String) : String :=
  "GNU bash, version " ++ version ++ "-(x86_64-pc-linux-gnu)\n" ++ usageText name
    ++ "Type \x60" ++ name ++ " -c \"help set\"\x27 for more information about shell options.\n"
    ++ "Type \x60" ++ name ++ " -c help\x27 for more information about shell builtin commands.\n"
    ++ "Use the \x60bashbug\x27 command to report bugs.\n\n"
    ++ "bash home page: <http://www.gnu.org/software/bash>\n"
    ++ "General help using GNU software: <http://www.gnu.org/gethelp/>\n"

/-- What the options ask for. -/
structure Startup where
  text : Bool := false
  input : Bool := false
  login : Bool := false
  posix : Bool := false
  verbose : Bool := false
  rest : List String := []
  deriving Inhabited

namespace Sh

/-- Complains without a line, and ends the shell. -/
def refuseStart {α : Type} (status : Nat) (message : String) : Sh α := do
  printError ((← get).name ++ ": " ++ message ++ "\n")
  leave status

/-- Refuses an option. -/
def refuseOption {α : Type} (option : String) : Sh α := do
  let name := (← get).name
  printError (name ++ ": " ++ option ++ ": invalid option\n" ++ usageText name)
  leave 2

/-- The long options, which stand before the others; each round takes an argument, so `limit` may be their
number. -/
def longFrom : (limit : Nat) → Startup → List String → Sh (Startup × List String)
  | 0, r, args => pure (r, args)
  | _, r, [] => pure (r, [])
  | limit + 1, r, arg :: rest => do
    let cs := arg.toList
    let (long, name) : Bool × String := match cs with
      | '-' :: '-' :: c :: more => (true, String.ofList (c :: more))
      | '-' :: more => (false, String.ofList more)
      | _ => (false, "")
    if name == "" || !longOptions.contains name then
      if long then refuseOption arg else pure (r, arg :: rest)
    else
      match name with
      | "version" =>
        print versionText
        flush
        leave 0
      | "help" =>
        print (helpText (← get).name)
        flush
        leave 0
      | "login" => longFrom limit { r with login := true } rest
      | "posix" => longFrom limit { r with posix := true } rest
      | "verbose" => longFrom limit { r with verbose := true } rest
      | "init-file" | "rcfile" =>
        match rest with
        | [] => refuseStart 2 (name ++ ": option requires an argument")
        | _ :: rest => longFrom limit r rest
      | _ => longFrom limit r rest

/-- The letters of one argument: the request, and the arguments behind it. -/
def startLetters (sign : Char) : List Char → Startup → List String → Sh (Startup × List String)
  | [], r, rest => pure (r, rest)
  | c :: cs, r, rest => do
    let on := sign == '-'
    match c with
    | 'c' => startLetters sign cs { r with text := true } rest
    | 's' => startLetters sign cs { r with input := true } rest
    | 'l' => startLetters sign cs { r with login := true } rest
    | 'i' | 'r' =>
      Builtin.setOption c.toString on
      startLetters sign cs r rest
    | 'D' => startLetters sign cs r rest
    | 'o' =>
      match rest with
      | [] =>
        Builtin.showOptions on
        flush
        startLetters sign cs r []
      | name :: rest =>
        if (optionNames.lookup name).isNone then
          refuseStart 2 ("line 0: " ++ (← get).name ++ ": " ++ name ++ ": invalid option name")
        Builtin.setOption name on
        startLetters sign cs r rest
    | 'O' =>
      match rest with
      | [] =>
        for name in Builtin.extraNames do
          let set ← hasExtra name
          print (if on then Builtin.optionLine name set
            else "shopt " ++ (if set then "-s " else "-u ") ++ name ++ "\n")
        flush
        startLetters sign cs r []
      | name :: rest =>
        if !Builtin.extraNames.contains name then
          refuseStart 2 ("line 0: " ++ name ++ ": invalid shell option name")
        Builtin.setExtra name on
        startLetters sign cs r rest
    | c =>
      match Builtin.optionOf? c with
      | some name =>
        Builtin.setOption name on
        startLetters sign cs r rest
      | none => refuseOption (sign.toString ++ c.toString)

/-- The options with letters; each round takes an argument, so `limit` may be their number. -/
def shortFrom : (limit : Nat) → Startup → List String → Sh Startup
  | 0, r, args => pure { r with rest := args }
  | _, r, [] => pure { r with rest := [] }
  | limit + 1, r, arg :: rest => do
    match arg.toList with
    | ['-'] | ['-', '-'] => pure { r with rest := rest }
    | sign :: c :: cs =>
      if sign != '-' && sign != '+' then pure { r with rest := arg :: rest }
      else
        let (r, rest) ← startLetters sign (c :: cs) r rest
        shortFrom limit r rest
    | _ => pure { r with rest := arg :: rest }

/-- Finds out where the shell is. -/
def findPlace : Sh Unit := do
  let claimed := (← lookup "PWD").getD ""
  let here ← ask (.inspect ".")
  let there ← ask (.inspect claimed)
  let same := match here, there with
    | .ok a, .ok b => claimed.startsWith "/" && a.same b
    | _, _ => false
  let place ← do
    if same then pure claimed
    else
      match ← ask .here with
      | .ok path => pure path
      | .error e =>
        printError ("shell-init: error retrieving current directory: getcwd: cannot access parent directories: "
          ++ e.text ++ "\n")
        pure ""
  modify fun s =>
    let old := (s.globals.find? "PWD").getD {}
    { s.putGlobal "PWD" { old with value := .text place, exported := true } with directory := place }

/-- Opens a script; the shell ends if that fails. -/
def openScript (path : String) : Sh String := do
  let fails {α : Type} (e : Kernel.Refusal) : Sh α :=
    refuseStart (if e == .notFound then 127 else 126) (path ++ ": " ++ e.text)
  let found ← do
    match ← ask (.inspect path) with
    | .ok _ => pure path
    | .error e =>
      if path.toList.contains '/' then fails e
      else
        match ← findProgram? (← searchPath) path with
        | some found => pure found
        | none => fails e
  match ← ask (.openFile found .input) with
  | .error e => fails e
  | .ok fd =>
    modify fun s => { s with name := found, origin := .script }
    let kind := (← ask (.statusOf fd)).toOption.map fun s => s.kind
    if kind == some .directory then
      refuseStart 126 (found ++ ": Is a directory")
    let text ← readAll fd
    let _ ← ask (.close fd)
    if isBinary (text.toList.take 80) then
      refuseStart 126 (found ++ ": cannot execute binary file")
    pure (withoutNul text)

/-- What a shell does from its start to its end. -/
def session (args : List String) : Sh Nat := do
  let r ← attempt do
    let (pid, parent) ← ask .identity
    let now ← ask .now
    modify fun s =>
      let s := s.putGlobal "PPID"
        { value := .text (toString parent), integer := true, readOnly := true }
      { s with pid := pid, startTime := now, randomSeed := pid }
    findPlace
    let (r, rest) ← longFrom args.length {} args
    let r ← shortFrom (rest.length + 1) r rest
    if r.posix then Builtin.setOption "posix" true
    if r.verbose then Builtin.setOption "verbose" true
    if r.login then Builtin.setExtra "login_shell" true
    let prepare : Sh Unit := do
      if let some path ← lookup "BASH_ENV" then
        if path != "" then
          let _ ← callBuiltin "." (runSource runAny {} [path])
    match r.text, r.rest with
    | true, [] => refuseStart 2 "-c: option requires an argument"
    | true, command :: rest =>
      modify fun s => { s with
        origin := .text, name := rest.head?.getD s.name, arguments := rest.drop 1 }
      Builtin.setOption "c" true
      modify fun s => s.putGlobal "BASH_EXECUTION_STRING" (plainVariable command)
      prepare
      runText runAny "-c" 1 (withoutNul command) { last := true }
    | false, path :: more =>
      if r.input then
        Builtin.setOption "s" true
        modify fun s => { s with arguments := path :: more }
        prepare
        fromInput
      else
        let text ← openScript path
        modify fun s => { s with arguments := more }
        prepare
        runText runAny "" 1 text {}
    | false, [] =>
      Builtin.setOption "s" true
      prepare
      fromInput
  finish runAny r
where
  /-- Runs what comes from the input. -/
  fromInput : Sh Nat := do
    modify fun s => { s with depth := 1 }
    runScript runAny {} { reader := { chars := #[], more := true }, source := some 0 }

end Sh

/-- The shell as a program, under the name by which it is called. -/
def program (argv : List String) (env : Environment) : Routine :=
  Sh.session (argv.drop 1) (initial (argv.head?.getD "bash") env) fun r s =>
    .exit (match r with
      | .ok status => status
      | .error _ => s.status)

end HardenAudit.ExtendedShell
