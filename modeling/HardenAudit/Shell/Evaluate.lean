import HardenAudit.Shell.Builtin.Condition
import HardenAudit.Shell.Builtin.Directory
import HardenAudit.Shell.Builtin.Output
import HardenAudit.Shell.Builtin.Process
import HardenAudit.Shell.Builtin.Variables
import HardenAudit.Shell.Expansion
import HardenAudit.Shell.Jobs
import HardenAudit.Shell.Lookup
import HardenAudit.Shell.Parser

/-!
# Running commands

Every command gives a status.  All definitions here take the evaluator as an argument, since
commands run commands; `evaluate` ties the knot.
-/

namespace HardenAudit.Shell

open Kernel (Refusal)

/-- How a command is run. -/
structure Mode where
  /-- Does the shell end after the command? -/
  last : Bool := false
  /-- Is the status looked at, so that a failure does not end the shell? -/
  tested : Bool := false
  deriving Repr, Inhabited

/-- An evaluator of commands. -/
abbrev Evaluator := Mode → Command → Sh Nat

/-- Has the shell actions for signals or for its end? -/
def State.hasTraps (s : State) : Bool := s.traps.any (·.2 != "")

namespace Sh

/-! ## Scripts -/

/-- A reader for a text, with what the shell knows. -/
def readerFor (text : String) (more : Bool) : Sh Reader := do
  let s ← get
  pure { text := text.toList, more := more, documents := s.documents, aliases := s.aliases }

/-- Fails because a script is malformed. -/
def failToRead {α : Type} (line : Nat) (message : String) : Sh α := do
  modify fun s => { s with line := line }
  fail ("Syntax error: " ++ message)

/-- Runs a text as a script. -/
def runText (run : Evaluator) (text : String) (mode : Mode) : Sh Nat := do
  let reader ← readerFor text false
  iterate (fun ((status, reader) : Nat × Reader) => do
    let s ← get
    match readLine isSpecialBuiltin { reader with aliases := s.aliases, documents := s.documents } with
    | .error .short => pure (.inr status)
    | .error (.malformed line message) => failToRead line message
    | .ok (.finished, reader) =>
      modify fun s => { s with documents := reader.documents }
      pure (.inr status)
    | .ok (.command c last, reader) =>
      modify fun s => { s with documents := reader.documents }
      let code ← run { mode with last := mode.last && last } c
      let status := if c.isNothing then status else code
      let skip := (← get).skip
      pure (if skip == .nothing then .inl (status, reader) else .inr status)) Kernel.endless (0, reader)

/-- A script under way: the text that was not yet read, and how more of it can be had. -/
structure Script where
  reader : Reader
  /-- The descriptor from which more text comes. -/
  source : Option Nat := none
  status : Nat := 0
  deriving Inhabited

/-- Bytes of a script that are read at once. -/
def chunkSize : Nat := 8192

/-- A text without the characters zero, which are passed over wherever a text is read. -/
def withoutNul (text : String) : String := String.ofList (text.toList.filter (·.toNat != 0))

/-- More text for a script. -/
def refill (s : Script) : Sh Script := do
  match s.source with
  | none => pure { s with reader := { s.reader with more := false } }
  | some fd =>
    match ← ask (.read fd chunkSize) with
    | .ok (b :: bytes) =>
      let text := withoutNul (Text.Raw.ofBytes (b :: bytes))
      pure { s with reader := { s.reader with text := s.reader.text ++ text.toList } }
    | _ => pure { s with reader := { s.reader with more := false } }

/-- Shows the text of a script that was read, if the shell is asked to. -/
def showRead (before after : Reader) : Sh Unit := do
  if ← hasOption 'v' then
    printError (String.ofList (before.text.take (before.text.length - after.text.length)))

/-- Runs a script line by line. -/
def runScript (run : Evaluator) (script : Script) : Sh Nat :=
  iterate (fun (script : Script) => do
    let s ← get
    let reader := { script.reader with aliases := s.aliases, documents := s.documents }
    match readLine isSpecialBuiltin reader with
    | .error .short =>
      let script ← refill script
      pure (.inl script)
    | .error (.malformed line message) =>
      showRead reader { reader with text := [] }
      failToRead line message
    | .ok (.finished, after) =>
      showRead reader after
      modify fun s => { s with documents := after.documents }
      pure (.inr script.status)
    | .ok (.command c _, after) =>
      showRead reader after
      modify fun s => { s with documents := after.documents }
      let code ← run {} c
      let status := if c.isNothing then script.status else code
      match (← get).skip with
      | .nothing => pure (.inl { script with reader := after, status := status })
      | .return _ =>
        modify fun s => { s with skip := .nothing }
        pure (.inr status)
      | _ => pure (.inr status)) Kernel.endless script

/-- Everything that can be read from a descriptor. -/
def readAll (fd : Nat) : Sh String :=
  iterate (fun (parts : List String) => do
    match ← ask (.read fd chunkSize) with
    | .ok (b :: bytes) => pure (.inl (Text.Raw.ofBytes (b :: bytes) :: parts))
    | _ => pure (.inr (String.join parts.reverse))) Kernel.endless []

/-! ## Actions for signals, and the end of the shell -/

/-- Carries out the actions for signals that have come. -/
def runTraps (run : Evaluator) : Sh Unit := do
  if (← get).hasTraps then collectSignals
  let s ← get
  if !s.pending.isEmpty then
    let status := s.settled.getD s.status
    modify fun s => { s with settled := some status }
    let rec go : List Nat → Sh Unit
      | [] => pure ()
      | signal :: rest => do
        let s ← get
        if s.skip == .nothing then
          modify fun s => { s with pending := s.pending.filter (· != signal) }
          match s.traps.lookup signal with
          | some action =>
            let _ ← runText run action {}
            modify fun s => if s.skip == .return true then s else { s with status := status }
          | none => pure ()
          go rest
    go (s.pending.mergeSort fun a b => a ≤ b)
    modify fun t => { t with settled := s.settled }

/-- Puts back all descriptors from some depth on. -/
def unwindAside (depth : Nat) : Sh Unit :=
  iterate (fun (_ : Unit) => do
    let s ← get
    if s.aside.length > depth then
      popAside false
      pure (.inl ())
    else pure (.inr ())) Kernel.endless ()

/-- Ends scopes down to some depth. -/
def unwindScopes (depth : Nat) : Sh Unit :=
  iterate (fun (_ : Unit) => do
    let s ← get
    if s.scopes.length > depth then
      popScope
      pure (.inl ())
    else pure (.inr ())) Kernel.endless ()

/-- The end of a shell: the action for it is carried out, and the status is settled. -/
def leave (run : Evaluator) (how : Except Jump Nat) : Sh Nat := do
  let settle (always : Bool) (how : Except Jump Nat) : Sh Unit := do
    let leaves := match how with
      | .error .exit => true
      | _ => always
    modify fun s => { s with
      status := if leaves then s.settled.getD s.status else s.status
      settled := none, skip := .nothing, loops := 0, tracing := false }
    unwindAside 0
  settle false how
  let s ← get
  match s.traps.lookup 0 with
  | none => pure ()
  | some action =>
    modify fun s => { s with settled := some s.status, traps := s.traps.filter (·.1 != 0) }
    let r ← attempt (runText run action {})
    settle (match r with
      | .ok _ => true
      | .error _ => false) r
  flush
  pure (← get).status

/-- Runs a command in a new process of a job. -/
def runApart (run : Evaluator) (branch : Branch) (job : Nat) (before : Sh Unit) (mode : Mode)
    (c : Command) : Sh Nat :=
  branchOff branch job do
    let r ← attempt (do
      before
      run { mode with last := true } c)
    leave run r

/-- The output of a command, without line ends at its end. -/
def substitute (run : Evaluator) : Substitute := fun body => do
  if body.isNothing then pure ""
  else
    let (source, drain) ← ask .pipe
    let job ← newJob
    let _ ← runApart run .substitution job (do
      let _ ← ask (.close source)
      if drain != 1 then
        let _ ← ask (.assign drain 1)
        let _ ← ask (.close drain)) {} body
    let _ ← ask (.close drain)
    let text ← readAll source
    let _ ← ask (.close source)
    let status ← awaitJob job
    modify fun s => { s with substituted := status }
    let chars := (withoutNul text).toList
    pure (String.ofList (chars.reverse.dropWhile (· == '\n')).reverse)

/-! ## Programs -/

/-- Becomes a program; comes back only if that is refused, and gives the reason. -/
def tryProgram (path : String) (words : List String) : Sh Refusal := do
  let env := (← get).environment
  match ← ask (.execute path words env) with
  | .file .execFormat => ask (.execute "/bin/sh" ("/bin/sh" :: path :: words.drop 1) env)
  | e => pure e

/-- Tries to become one of several programs; gives the reason why that was refused. -/
def tryPrograms (words : List String) : List String → (why : Refusal) → Sh Refusal
  | [], why => pure why
  | path :: rest, why => do
    let e ← tryProgram path words
    tryPrograms words rest (if e.isMissing then why else e)

/-- Becomes a program, or ends the shell. -/
def become (words : List String) (path : String) : Sh Nat := do
  let name := words.head?.getD ""
  let why ←
    if name.toList.contains '/' then tryProgram name words
    else tryPrograms words (candidates path name) .notFound
  let unfound := why.isMissing || why == .file .nameTooLong
  modify fun s => { s with status := if unfound then 127 else 126 }
  warn (name ++ ": " ++ runMessage why)
  throw .finished

/-! ## Builtin commands that run commands or change the flow -/

/-- Leaves the shell. -/
def leaveShell (args : List String) : Sh Nat := do
  if let some text := args.head? then
    let n ← number text
    modify fun s => { s with settled := some n }
  throw .exit

/-- Leaves a function or a script. -/
def returnFrom (args : List String) : Sh Nat := do
  match args.head? with
  | some text =>
    let n ← number text
    modify fun s => { s with skip := .return true }
    pure n
  | none =>
    modify fun s => { s with skip := .return false }
    pure (← get).status

/-- Leaves loops, or turns of them. -/
def leaveLoops (turn : Bool) (args : List String) : Sh Nat := do
  let n ← match args.head? with
    | some text => do
      let n ← number text
      if n = 0 then fail ("Illegal number: " ++ text)
      pure n
    | none => pure 1
  let n := min n (← get).loops
  if n > 0 then
    modify fun s => { s with skip := if turn then .continue n else .break n }
  pure 0

/-- Runs its arguments as a script. -/
def evalAll (run : Evaluator) (mode : Mode) (args : List String) : Sh Nat :=
  if args.isEmpty then pure 0
  else runText run (" ".intercalate args) { tested := mode.tested }

/-- The path of a script to be run by this shell itself. -/
def findScript (name : String) : Sh String := do
  if name.toList.contains '/' then pure name
  else
    let path ← searchPath
    match ← search false (candidates path name) .notFound with
    | .ok found => pure found
    | .error _ => fail (name ++ ": not found")

/-- Opens a script. -/
def openScript (path : String) : Sh Script := do
  match ← ask (.openFile path .input) with
  | .error e => fail ("cannot open " ++ path ++ ": " ++ openMessage e)
  | .ok fd =>
    let text ← readAll fd
    let _ ← ask (.close fd)
    let reader ← readerFor (withoutNul text) false
    pure { reader := reader }

/-- Runs a script in this shell. -/
def runHere (run : Evaluator) (args : List String) : Sh Nat := do
  let g ← given "" args
  match g.rest with
  | [] => pure 0
  | name :: _ =>
    let path ← findScript name
    let script ← openScript path
    modify fun s => { s with running := some path }
    runScript run script

/-- Becomes a program, if one is named. -/
def replaceShell (args : List String) : Sh Nat := do
  let g ← given "" args
  if g.rest.isEmpty then pure 0
  else
    let path ← searchPath
    become g.rest path

/-- Runs a builtin command. -/
def runBuiltin (run : Evaluator) (mode : Mode) (name : String) (args : List String) : Sh Nat :=
  match name with
  | "." => runHere run args
  | "[" => Builtin.test true args
  | "test" => Builtin.test false args
  | "alias" => Builtin.setAliases args
  | "unalias" => Builtin.dropAliases args
  | "bg" | "fg" => Builtin.bringBack args
  | "break" => leaveLoops false args
  | "continue" => leaveLoops true args
  | "cd" | "chdir" => Builtin.cd args
  | "pwd" => Builtin.pwd args
  | "command" => Builtin.command args
  | "type" => Builtin.type args
  | "hash" => Builtin.hash args
  | "echo" => Builtin.echo args
  | "printf" => Builtin.printf args
  | "eval" => evalAll run mode args
  | "exec" => replaceShell args
  | "exit" => leaveShell args
  | "return" => returnFrom args
  | "export" => Builtin.mark "export" true false args
  | "readonly" => Builtin.mark "readonly" false true args
  | "local" => Builtin.makeLocals args
  | "unset" => Builtin.unsetAll args
  | "set" => Builtin.setAll args
  | "shift" => Builtin.shift args
  | "read" => Builtin.readLine args
  | "getopts" => Builtin.getopts args
  | "jobs" => Builtin.jobs args
  | "kill" => Builtin.kill args
  | "wait" => Builtin.wait args
  | "trap" => Builtin.trap args
  | "times" => Builtin.times args
  | "ulimit" => Builtin.ulimit args
  | "umask" => Builtin.umask args
  | "false" => pure 1
  | _ => pure 0

/-- Runs a builtin command, passes on its output, and notes its status; a command that breaks off
loses its output. -/
def callBuiltin (name : Option String) (body : Sh Nat) : Sh (Except Jump Nat) := do
  let outer := (← get).running
  modify fun s => { s with running := name }
  let r ← attempt do
    let result ← attempt body
    flush
    let status ← resume result
    let s ← get
    if s.unwritten then warn (name.getD "" ++ ": I/O error")
    let status := if s.unwritten then status ||| 1 else status
    modify fun s => { s with status := status }
    pure status
  modify fun s => { s with running := outer, output := [], unwritten := false }
  pure r

/-- Functions that may call each other in a chain. -/
def depthLimit : Nat := 1000

/-- Calls a function. -/
def callFunction (run : Evaluator) (mode : Mode) (f : Function) (args : List String) :
    Sh (Except Jump Nat) := do
  let s ← get
  attempt do
    if s.depth ≥ depthLimit then
      fail ("Maximum function recursion depth (" ++ toString depthLimit ++ ") reached")
    modify fun s => { s with arguments := { words := args }, loops := 0, depth := s.depth + 1 }
    let r ← attempt (run { tested := mode.tested } f.body)
    modify fun t => { t with
      arguments := s.arguments, loops := s.loops, depth := s.depth
      skip := match t.skip with
        | .return _ => .nothing
        | skip => skip }
    resume r

/-! ## Simple commands -/

/-- A simple command whose words are being expanded. -/
structure Calling where
  /-- Words in front of the command that were taken off. -/
  dropped : List String := []
  /-- The words so far, from the name of the command on. -/
  fields : List String
  /-- The words that were not yet expanded. -/
  rest : List Word
  noFunctions : Bool := false
  standard : Bool := false
  /-- Is the first builtin command a special one? -/
  special : Option Bool := none
  assigning : Bool := false
  /-- Is it the command that redirects the shell itself? -/
  replaces : Bool := false
  deriving Inhabited

/-- Expands words until there are so many fields. -/
def atLeast (sub : Substitute) (count : Nat) (c : Calling) : Sh Calling :=
  iterate (fun (c : Calling) => do
    if c.fields.length ≥ count then pure (.inr c)
    else
      match c.rest with
      | [] => pure (.inr c)
      | word :: rest =>
        let fields ← expandFields sub word
        pure (.inl { c with fields := c.fields ++ fields, rest := rest })) (c.rest.length + 1) c

/-- Takes the word `command` and its options off a command; none if that leaves no command. -/
def withoutCommand (sub : Substitute) : (limit : Nat) → Calling → Sh (Option Calling)
  | 0, _ => pure none
  | limit + 1, c => do
    let c ← atLeast sub 2 c
    let next : Calling :=
      { c with dropped := c.dropped ++ c.fields.take 1, fields := c.fields.drop 1, noFunctions := true }
    match c.fields with
    | _ :: arg :: _ =>
      match arg.toList with
      | ['-', '-'] =>
        let c ← atLeast sub 2 next
        if c.fields.length < 2 then pure none
        else
          pure (some { c with
            dropped := c.dropped ++ c.fields.take 1, fields := c.fields.drop 1 })
      | '-' :: letter :: letters =>
        if (letter :: letters).all (· == 'p') then
          withoutCommand sub limit { next with standard := true }
        else pure none
      | _ => pure (some next)
    | _ => pure none

/-- The builtin command that a name stands for at first sight. -/
def builtinAt? (s : State) (noFunctions : Bool) (name : String) : Option Traits :=
  if name.toList.contains '/' then none
  else if !noFunctions && (s.functions.lookup name).isSome then none
  else builtins.lookup name

/-- Looks at the start of a command; each step takes off words, so `limit` bounds them. -/
def lookAhead (sub : Substitute) : (limit : Nat) → Calling → Sh Calling
  | 0, c => pure c
  | limit + 1, c => do
    match c.fields with
    | [] => pure c
    | name :: _ =>
      match builtinAt? (← get) c.noFunctions name with
      | none => pure { c with assigning := false, replaces := false }
      | some traits =>
        let c := { c with
          assigning := traits.assigning
          special := c.special.or (some traits.special)
          replaces := name == "exec" }
        if name != "command" then pure c
        else
          match ← withoutCommand sub (c.fields.length + c.rest.length + 1) c with
          | some next => lookAhead sub limit next
          | none => pure c

/-- Expands the words of a command. -/
def expandWords (sub : Substitute) (words : List Word) : Sh Calling := do
  let c ← atLeast sub 1 { fields := [], rest := words }
  let c ← lookAhead sub (words.length + 1) c
  let mut fields := c.fields
  for word in c.rest do
    let more ←
      if c.assigning && Word.isAssignment word then do
        let text ← expandText sub { assignment := true } word
        pure [text]
      else expandFields sub word
    fields := fields ++ more
  pure { c with fields := fields, rest := [] }

/-- The text in front of each line of the trace. -/
def tracePrompt (sub : Substitute) : Sh String := do
  let text := ((← get).value? "PS4").getD ""
  if !text.toList.any fun c => c == '$' || c == '\x60' || c == '\\' then pure text
  else
    modify fun s => { s with tracing := true }
    let reader ← readerFor text false
    let shown ← match readQuoted isSpecialBuiltin reader with
      | .ok (word, _) => expandText sub { quoted := true } word
      | .error _ => pure text
    modify fun s => { s with tracing := false }
    pure shown

/-- Shows a command before it runs, if the shell is asked to.  A redirection of the command's own does
not lead the trace elsewhere. -/
def trace (sub : Substitute) (redirected : Bool) (words : List String) : Sh Unit := do
  let s ← get
  if s.options.contains 'x' && !s.tracing then
    let start ← tracePrompt sub
    let own := if redirected then s.aside.head?.getD [] else []
    let kept := own.find? (·.fd == 2)
    let fd := match kept with
      | some a => a.kept.getD 2
      | none => 2
    let _ ← writeAll fd (start ++ " ".intercalate words ++ "\n")

/-- Runs the command after its words, redirections and assignments have been seen to. -/
def carryOut (run : Evaluator) (mode : Mode) (c : Calling) : Sh Nat := do
  let settle (r : Except Jump Nat) : Sh Nat := do
    match r with
    | .error .error => if c.special == some true then throw .error
    | .error j => throw j
    | .ok _ => pure ()
    reap
    pure (← get).status
  match c.fields with
  | [] =>
    let r ← callBuiltin none do
      pure (← get).substituted
    settle r
  | name :: args =>
    let own ← searchPath
    let path := if c.standard then standardPath else own
    match ← meaningOf name path c.noFunctions with
    | .builtin _ =>
      let r ← callBuiltin (some name) (runBuiltin run mode name args)
      settle r
    | .function f =>
      let r ← callFunction run mode f args
      match r with
      | .error j => throw j
      | .ok _ => settle r
    | .unknown e =>
      warn (name ++ ": " ++ runMessage e)
      modify fun s => { s with status := 127 }
      if c.special == some true then throw .error
      pure 127
    | .program _ =>
      if mode.last && !(← get).hasTraps then become (name :: args) path
      else
        let job ← newJob
        let _ ← branchOff .foreground job do
          let _ ← attempt (become (name :: args) path)
          pure (← get).status
        awaitJob job

/-- Runs a simple command. -/
def runSimple (run : Evaluator) (mode : Mode) (line : Nat) (assignments words : List Word)
    (redirects : List Redirect) : Sh Nat := do
  ask .tick
  modify fun s => { s with line := line, substituted := 0 }
  let sub := substitute run
  let c ← expandWords sub words
  let inner := !c.fields.isEmpty && c.special != some true
  let before ← get
  if inner then pushScope
  let targets ← redirects.mapM (expandRedirect sub)
  if !redirects.isEmpty then pushAside
  let redirected ← redirectSafely sub targets
  let status ←
    if redirected then do
      let mut assigned := []
      for word in assignments do
        let text ← expandText sub { assignment := true } word
        assigned := assigned ++ [text]
        if inner then makeLocal text true
        else
          let (name, value) := splitAssignment text
          assign name (value.getD "") (c.replaces && c.fields.length > 1)
      trace sub (!redirects.isEmpty) (assigned ++ c.dropped ++ c.fields)
      carryOut run mode c
    else do
      modify fun s => { s with status := 2 }
      if c.special == some true then throw .error
      pure 2
  if !redirects.isEmpty && c.replaces then popAside true
  unwindAside before.aside.length
  unwindScopes before.scopes.length
  pure status

/-! ## Compound commands -/

/-- What is left to skip after a turn of a loop, and whether the loop goes on. -/
def afterTurn : Sh Bool := do
  match (← get).skip with
  | .nothing => pure true
  | .break n =>
    modify fun s => { s with skip := if n ≤ 1 then .nothing else .break (n - 1) }
    pure false
  | .continue n =>
    modify fun s => { s with skip := if n ≤ 1 then .nothing else .continue (n - 1) }
    pure (n ≤ 1)
  | .return _ => pure false

/-- Runs a loop under a condition. -/
def runLoop (run : Evaluator) (mode : Mode) (wanted : Bool) (test body : Command) : Sh Nat := do
  modify fun s => { s with loops := s.loops + 1 }
  let status ← iterate (fun (status : Nat) => do
    let code ← run { tested := true } test
    let skip := (← get).skip
    if skip != .nothing then
      let status := if skip == .return true then code else status
      let onward ← afterTurn
      pure (if onward then .inl status else .inr status)
    else if (code == 0) != wanted then pure (.inr status)
    else
      let status ← run { tested := mode.tested } body
      let onward ← afterTurn
      pure (if onward then .inl status else .inr status)) Kernel.endless 0
  modify fun s => { s with loops := s.loops - 1 }
  pure status

/-- Runs a loop with a variable. -/
def runEach (run : Evaluator) (mode : Mode) (name : String) (values : List String) (body : Command) :
    Sh Nat := do
  modify fun s => { s with loops := s.loops + 1 }
  let status ← iterate (fun ((values, status) : List String × Nat) => do
    match values with
    | [] => pure (.inr status)
    | value :: rest =>
      assign name value false
      let status ← run { tested := mode.tested } body
      let onward ← afterTurn
      pure (if onward then .inl (rest, status) else .inr status)) Kernel.endless (values, 0)
  modify fun s => { s with loops := s.loops - 1 }
  pure status

/-- Does one of some patterns match a text? -/
def matchesAny (sub : Substitute) (text : String) : List Word → Sh Bool
  | [] => pure false
  | word :: rest => do
    let cells ← expand sub nesting { tilde := true } word
    if Pattern.isMatch (Cell.pattern cells) text.toList then pure true
    else matchesAny sub text rest

/-- Runs the command of the first arm that matches. -/
def runSelect (run : Evaluator) (mode : Mode) (text : String) :
    List (List Word × Command) → Sh Nat
  | [] => pure 0
  | (patterns, body) :: rest => do
    let s ← get
    if s.skip != .nothing then pure 0
    else
      let found ← matchesAny (substitute run) text patterns
      if !found then runSelect run mode text rest
      else if body.isNothing then pure 0
      else run mode body

/-- Runs a pipeline: each command in a process of its own, its output the input of the next. -/
def runPipeline (run : Evaluator) (mode : Mode) (background : Bool) (stages : List Command) :
    Sh Nat := do
  let job ← newJob
  let branch : Branch := if background then .background else .foreground
  let rec go : List Command → (source : Option Nat) → Sh Unit
    | [], _ => pure ()
    | c :: rest, source => do
      let ends ← if rest.isEmpty then pure none else some <$> ask .pipe
      let _ ← runApart run branch job (do
        if let some (a, _) := ends then
          let _ ← ask (.close a)
        if let some fd := source then
          let _ ← ask (.assign fd 0)
          let _ ← ask (.close fd)
        if let some (_, b) := ends then
          if b > 1 then
            let _ ← ask (.assign b 1)
            let _ ← ask (.close b)) mode c
      if let some fd := source then
        let _ ← ask (.close fd)
      if let some (_, b) := ends then
        let _ ← ask (.close b)
      go rest (ends.map (·.1))
  go stages none
  if background then pure 0 else awaitJob job

/-- Runs a command in a shell of its own, perhaps in the background. -/
def runSubshell (run : Evaluator) (mode : Mode) (background : Bool) (line : Nat) (body : Command)
    (redirects : List Redirect) : Sh Nat := do
  modify fun s => { s with line := line }
  let sub := substitute run
  let targets ← redirects.mapM (expandRedirect sub)
  if !background && mode.last && !(← get).hasTraps then
    applyAll sub false targets
    let _ ← run mode body
    throw .finished
  else
    let job ← newJob
    let branch : Branch := if background then .background else .foreground
    let _ ← runApart run branch job (applyAll sub false targets)
      { mode with tested := mode.tested && !background } body
    if background then pure 0 else awaitJob job

/-- Runs a command; gives its status, and whether a failure ends a shell that is asked to end then. -/
def runCommand (run : Evaluator) (mode : Mode) : Command → Sh (Nat × Bool)
  | .nothing => pure (0, false)
  | .simple line assignments words redirects => do
    pure (← runSimple run mode line assignments words redirects, !mode.tested)
  | .pipeline stages background => do
    pure (← runPipeline run mode background stages, !mode.tested)
  | .background line body redirects => do
    pure (← runSubshell run mode true line body redirects, !mode.tested)
  | .subshell line body redirects => do
    pure (← runSubshell run mode false line body redirects, !mode.tested)
  | .redirected line body redirects => do
    modify fun s => { s with line := line }
    let sub := substitute run
    let targets ← redirects.mapM (expandRedirect sub)
    if !redirects.isEmpty then pushAside
    let redirected ← redirectSafely sub targets
    let status ← if redirected then run { tested := mode.tested } body else pure 2
    if !redirects.isEmpty then popAside false
    pure (status, false)
  | .both first second => do
    let status ← run { tested := true } first
    let skip := (← get).skip
    if status != 0 || skip != .nothing then pure (status, false)
    else pure (← run mode second, false)
  | .either first second => do
    let status ← run { tested := true } first
    let skip := (← get).skip
    if status == 0 || skip != .nothing then pure (status, false)
    else pure (← run mode second, false)
  | .sequence first second => do
    let status ← run { tested := mode.tested } first
    let skip := (← get).skip
    if skip != .nothing then pure (status, false) else pure (← run mode second, false)
  | .negation body => do
    let status ← run { tested := true } body
    pure (if status == 0 then 1 else 0, false)
  | .choice test yes no => do
    let status ← run { tested := true } test
    let skip := (← get).skip
    if skip != .nothing then pure (status, false)
    else if status == 0 then pure (← run mode yes, false)
    else if no.isNothing then pure (0, false)
    else pure (← run mode no, false)
  | .loop wanted test body => do
    pure (← runLoop run mode wanted test body, false)
  | .each line name words body => do
    modify fun s => { s with line := line }
    let mut values := []
    for word in words do
      let fields ← expandFields (substitute run) word
      values := values ++ fields
    pure (← runEach run mode name values body, false)
  | .select line word arms => do
    modify fun s => { s with line := line }
    let text ← expandText (substitute run) { tilde := true } word
    pure (← runSelect run mode text arms, false)
  | .function line name body => do
    modify fun s => { s with
      functions := (name, ⟨line, body⟩) :: s.functions.filter (·.1 != name) }
    pure (0, false)

/-- Runs a command; `limit` bounds how deep commands are nested. -/
def evaluate : (limit : Nat) → Evaluator
  | 0, _, _ => pure 0
  | limit + 1, mode, c => do
    let run := evaluate limit
    let idle ← hasOption 'n'
    let (status, checked) ←
      if idle || c.isNothing then pure (0, false)
      else do
        runTraps run
        let (status, checked) ← runCommand run mode c
        modify fun s => { s with status := status }
        pure (status, checked)
    runTraps run
    let strict ← hasOption 'e'
    if (checked && strict && status != 0) || mode.last then throw .finished
    pure status

end Sh
end HardenAudit.Shell
