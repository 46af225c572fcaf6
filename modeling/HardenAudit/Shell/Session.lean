import HardenAudit.Shell.Evaluate

/-!
# The shell as a program

A shell takes options, then a command text, the path of a script, or nothing, in which case the
script is its input; then arguments.
-/

namespace HardenAudit.Shell

open Kernel (Environment Routine)

/-- Commands nested in each other at most. -/
def nestingLimit : Nat := 0x100000000

/-- The evaluator. -/
def runAny : Evaluator := Sh.evaluate nestingLimit

/-- The variables with which a shell starts, apart from those it is given. -/
def ownVariables : List (String × String) :=
  [("IFS", standardSeparators), ("OPTIND", "1"), ("PS1", "# "), ("PS2", "> "), ("PS4", "+ ")]

/-- The state of a shell that was given variables. -/
def initial (name : String) (env : Environment) : State :=
  let given (v : String × String) : String × Variable := (v.1, { value := some v.2, exported := true })
  let kept := env.filter fun v => isName v.1 && v.1 != "IFS" && v.1 != "OPTIND"
  let entries := kept.map given
  let state : State := { name := name }
  let state := ownVariables.foldl (fun s v => s.setVariable v.1 { value := some v.2 }) state
  let state := if env.any (·.1 == "PATH") then state
    else state.setVariable "PATH" { value := some standardPath }
  entries.foldl (fun s e => s.setVariable e.1 e.2) state

namespace Sh

/-- The options of a shell: whether the next argument is a command text, and the other arguments; each
round takes an argument, so `limit` may be their number. -/
def startOptions : (limit : Nat) → (text : Bool) → List String → Sh (Bool × List String)
  | 0, text, args => pure (text, args)
  | _, text, [] => pure (text, [])
  | limit + 1, text, arg :: rest => do
    let set (on : Bool) (letters : List Char) : Sh (Bool × List String) := do
      let rest ← setLetters on (letters.filter fun c => c != 'c' && c != 'l') rest
      startOptions limit (text || letters.contains 'c') rest
    match arg.toList with
    | ['-'] | ['-', '-'] => pure (text, rest)
    | '-' :: letters => set true letters
    | '+' :: letters => set false letters
    | _ => pure (text, arg :: rest)

/-- Finds out where the shell is. -/
def findPlace : Sh Unit := do
  let claimed := ((← get).value? "PWD").getD ""
  let here ← ask (.inspect ".")
  let there ← ask (.inspect claimed)
  let same := match here, there with
    | .ok a, .ok b => claimed.startsWith "/" && a.same b
    | _, _ => false
  let place ← do
    if same then pure claimed
    else
      match ← ask .here with
      | .ok path => pure path
      | .error e =>
        warn ("getcwd() failed: " ++ e.text)
        pure ""
  modify fun s => { s with directory := place }
  let old := ((← get).vars.find? "PWD").getD {}
  modify fun s => s.setVariable "PWD" { old with value := some place }

/-- What a shell does from its start to its end. -/
def session (args : List String) : Sh Nat := do
  let r ← attempt do
    let (pid, parent) ← ask .identity
    modify fun s =>
      { s with pid := pid }.setVariable "PPID" { value := some (toString parent) }
    findPlace
    let (text, rest) ← startOptions args.length false args
    match text, rest with
    | true, [] => fail "-c requires an argument"
    | true, command :: rest =>
      if let name :: _ := rest then modify fun s => { s with name := name }
      checkMonitor
      setArguments (rest.drop 1)
      let reads ← hasOption 's'
      let _ ← runText runAny command {}
      pure reads
    | false, [] =>
      setOption 's' true
      checkMonitor
      pure true
    | false, path :: more =>
      let reads ← hasOption 's'
      if reads then
        checkMonitor
        setArguments rest
        pure true
      else
        let script ← openScript path
        modify fun s => { s with name := path }
        checkMonitor
        setArguments more
        let _ ← runScript runAny script
        pure false
  let r ← match r with
    | .ok true => attempt do
      let reader ← readerFor "" true
      runScript runAny { reader := reader, source := some 0 }
    | .ok false => pure (.ok 0)
    | .error j => pure (.error j)
  leave runAny r

end Sh

/-- The shell as a program, under the name by which it is called. -/
def program (argv : List String) (env : Environment) : Routine :=
  Sh.session (argv.drop 1) (initial (argv.head?.getD "sh") env) fun r s =>
    .exit (match r with
      | .ok status => status
      | .error _ => s.status)

end HardenAudit.Shell
