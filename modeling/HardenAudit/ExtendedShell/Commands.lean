import HardenAudit.ExtendedShell.Builtin.Condition
import HardenAudit.ExtendedShell.Builtin.Directory
import HardenAudit.ExtendedShell.Builtin.Output
import HardenAudit.ExtendedShell.Builtin.Process
import HardenAudit.ExtendedShell.Builtin.Variables
import HardenAudit.ExtendedShell.Calls

/-!
# Simple commands

The words of a command are expanded, its assignments and redirections are made, and then it is a function, a
builtin command or a program.
-/

namespace HardenAudit.ExtendedShell

open Builtin (Claim withOptions)

namespace Sh

/-! ## Builtin commands -/

/-- The words of claims. -/
def claimWords (claims : List Claim) : List String := claims.filterMap Claim.text?

/-- Runs a builtin command; some run another one, so `limit` may be the number of words. -/
def runBuiltin (run : Evaluator) (mode : Mode) : (limit : Nat) → String → List Claim → Sh Nat
  | 0, _, _ => pure 0
  | limit + 1, name, claims =>
    let args := claimWords claims
    let services := servicesOf run
    match name with
    | "." | "source" => runSource run mode args
    | "[" => Builtin.test true args
    | "test" => Builtin.test false args
    | "alias" => Builtin.setAliases args
    | "unalias" => Builtin.dropAliases args
    | "bg" | "fg" => Builtin.bringBack args
    | "break" => leaveLoops false args
    | "continue" => leaveLoops true args
    | "caller" => caller args
    | "cd" => Builtin.cd args
    | "pwd" => Builtin.pwd args
    | "pushd" => Builtin.pushd args
    | "popd" => Builtin.popd args
    | "dirs" => Builtin.dirs args
    | "declare" | "typeset" => Builtin.declare services false claims
    | "local" => Builtin.declare services true claims
    | "export" => Builtin.mark services 'x' claims
    | "readonly" => Builtin.mark services 'r' claims
    | "unset" => Builtin.unset args
    | "let" => Builtin.calculateArgs args
    | "set" => Builtin.set_ args
    | "shopt" => Builtin.shopt args
    | "shift" => Builtin.shift args
    | "getopts" => Builtin.getopts args
    | "echo" => Builtin.echo args
    | "printf" => Builtin.printf args
    | "read" => Builtin.read args
    | "mapfile" | "readarray" => Builtin.mapfile (fun text => do
        runText run "mapfile" (← get).line text {}) args
    | "type" => Builtin.type args
    | "hash" => Builtin.hash args
    | "enable" => Builtin.enable args
    | "help" => Builtin.help args
    | "jobs" => Builtin.jobs args
    | "disown" => Builtin.disown args
    | "kill" => Builtin.kill args
    | "wait" => Builtin.wait args
    | "trap" => Builtin.trap args
    | "times" => Builtin.times args
    | "ulimit" => Builtin.ulimit args
    | "umask" => Builtin.umask args
    | "exit" => leaveShell args
    | "return" => returnFrom args
    | "exec" => replaceShell args
    | "eval" => withOptions "" args fun g => do
      let text := " ".intercalate g.rest
      let s ← get
      modify fun s => { s with running := none }
      let r ← attempt (if g.rest.isEmpty then pure 0
        else runText run "eval" s.line text { tested := mode.tested })
      modify fun t => { t with running := s.running }
      resume r
    | "builtin" => withOptions "" args fun g => do
      match g.rest with
      | [] => pure 0
      | inner :: _ =>
        if Builtin.isBuiltin inner then
          let outer := (← get).running
          modify fun s => { s with running := some inner }
          let r ← attempt (runBuiltin run mode limit inner (claims.drop (args.length - g.rest.length + 1)))
          modify fun s => { s with running := outer }
          resume r
        else
          warn (inner ++ ": not a shell builtin")
          pure 1
    | "command" => withOptions "pvV" args fun g => do
      if g.has 'v' || g.has 'V' then Builtin.describeAll (g.has 'V') g.rest
      else
        match g.rest with
        | [] => pure 0
        | inner :: _ =>
          let outer := (← get).running
          let known ← isBuiltinNow inner
          let r ← attempt (do
            if known then
              modify fun s => { s with running := some inner }
              runBuiltin run mode limit inner (claims.drop (args.length - g.rest.length + 1))
            else
              modify fun s => { s with running := none }
              flush
              let path ← if inner.toList.contains '/' then pure (some inner)
                else if g.has 'p' then findProgram? Shell.standardPath inner
                else programFor? inner
              launch run {} [] path g.rest (" ".intercalate g.rest))
          modify fun s => { s with running := outer }
          resume r
    | "logout" => do
      warn "not login shell: use \x60exit\x27"
      pure 1
    | "suspend" => do
      warn "cannot suspend: no job control"
      pure 1
    | "false" => pure 1
    | _ => pure 0

/-- Runs a builtin command and passes on its output. -/
def callBuiltin (name : String) (body : Sh Nat) : Sh Nat := do
  let outer := (← get).running
  modify fun s => { s with running := some name }
  let r ← attempt body
  flush
  let trouble := (← get).unwritten
  modify fun s => { s with unwritten := none }
  if let some e := trouble then warn ("write error: " ++ e.text)
  modify fun s => { s with running := outer }
  let status ← resume r
  pure (if trouble.isSome then 1 else status)

/-! ## Simple commands -/

/-- The commands whose arguments that look like assignments are expanded like assignments. -/
def assigningNames : List String := ["alias", "declare", "export", "local", "readonly", "typeset"]

/-- Is the word an assignment to a variable or an element? -/
def isAssignmentWord (w : Word) : Bool :=
  let isNamePiece (first : Bool) (p : Piece) : Bool := match p with
    | .plain c => if first then Shell.isNameStart c else Shell.isNameChar c
    | _ => false
  let isPlain (c : Char) (p : Piece) : Bool := match p with
    | .plain d => c == d
    | _ => false
  match w.pieces with
  | [] => false
  | p :: ps =>
    if !isNamePiece true p then false
    else
      let rest := ps.dropWhile (isNamePiece false)
      let rest := match rest with
        | q :: more => if isPlain '[' q then (more.dropWhile fun p => !isPlain ']' p).drop 1 else rest
        | [] => []
      match rest with
      | q :: r :: _ => isPlain '=' q || (isPlain '+' q && isPlain '=' r)
      | [q] => isPlain '=' q
      | [] => false

/-- Expands the arguments of a command. -/
def expandArguments (services : Services) (arguments : List Argument) : Sh (List Claim) := do
  let first := arguments.findSome? fun (a : Argument) => match a with
    | .word w => match w.plain? with
      | some "command" | some "builtin" => none
      | some name => some name
      | none => some ""
    | .assign .. => some ""
  let assigning := assigningNames.contains (first.getD "")
  let mut claims : List Claim := []
  for a in arguments do
    match a with
    | .word w =>
      if assigning && isAssignmentWord w then
        let text ← expandText services { tilde := true, assignment := true } w
        claims := claims ++ [.word text]
      else
        let words ← expandWord services w
        claims := claims ++ words.map Claim.word
    | .assign (.list name _ append es) raw =>
      if assigning && first != some "alias" then claims := claims ++ [.list name append es]
      else claims := claims ++ [.word raw]
    | .assign (.text ..) raw => claims := claims ++ [.word raw]
  pure claims

/-- An assignment as the trace shows it. -/
def tracedAssign (r : Ready) : String :=
  let subscript (key : Option String) : String := match key with
    | some k => "[" ++ k ++ "]"
    | none => ""
  match r with
  | .text name key append value =>
    name ++ subscript key ++ (if append then "+=" else "=") ++ (if value == "" then "" else tracedWord value)
  | .list name key append es =>
    Print.assignText (.list name (match key with
      | some k => .index (.mk k [])
      | none => .none) append es)

/-- A claim as the trace shows it; the list of one is shown before. -/
def tracedClaim : Claim → String
  | .word text => tracedWord text
  | .list name .. => name

/-- A list of a claim with its words expanded, so that it reads as itself. -/
def settledClaim (services : Services) (table : Bool) : Claim → Sh Claim
  | .word text => pure (.word text)
  | .list name append es => do
    let word (text : String) : Word := .mk (Quoting.single text) [.single text]
    let items ← itemsOf services table es
    pure (.list name append (items.map fun i =>
      .mk (match i.key with
        | some k => .index (word k)
        | none => .none) i.append (word i.value)))

/-- The claims of a command that is shown in the trace: lists are shown by themselves and are expanded for
that. -/
def traceClaims (services : Services) (claims : List Claim) : Sh (List Claim) := do
  if !(← hasOption "xtrace") || (← get).tracing then pure claims
  else
    let table := claims.any fun (c : Claim) => match c with
      | .word text => text.startsWith "-" && text.toList.contains 'A'
      | _ => false
    let settled ← claims.mapM (settledClaim services table)
    for c in settled do
      if let .list name append es := c then
        trace services (Print.assignText (.list name .none append es))
    trace services (" ".intercalate (settled.map tracedClaim))
    let marks := (claims.head?.bind Claim.text?).any fun n => n == "export" || n == "readonly"
    if marks then
      for c in settled.drop 1 do
        if let .word text := c then
          if !text.startsWith "-" && text.toList.contains '=' then
            let name := text.toList.takeWhile (· != '=')
            trace services (String.ofList name ++ "=" ++ tracedWord (String.ofList (text.toList.drop (name.length + 1))))
    pure settled

/-- The variables of assignments before a command, which last as long as it does. -/
def pushAssigns (ready : List Ready) : Sh Unit := do
  let scope : Scope := { isFunction := false }
  let mut added := scope
  for r in ready do
    match r with
    | .text name none append value =>
      let old := ((← get).known? name).getD { isSet := false }
      if old.readOnly then warnPlain (name ++ ": readonly variable")
      else
        let before := if old.isSet then old.value.get? .whole else none
        let text ← valueFor old before value append
        let v : Variable := { old with
          value := .text (adapted old text), isSet := true, exported := true }
        added := { added with vars := added.vars.insert name v }
        if name == "PATH" then modify fun s => { s with hashed := [] }
    | _ => pure ()
  let done := added
  modify fun s => { s with scopes := done :: s.scopes }

/-- Runs a part with the variables of assignments before it. -/
def withAssigns (ready : List Ready) (body : Sh Nat) : Sh Nat := do
  if ready.isEmpty then body
  else
    let depth := (← get).scopes.length
    pushAssigns ready
    let r ← attempt body
    modify fun s => { s with scopes := s.scopes.drop (s.scopes.length - depth) }
    resume r

/-- Runs the command that redirects the shell itself, or takes its place. -/
def runReplacing (run : Evaluator) (ds : List Redirect) (args : List String) : Sh Nat := do
  let (worked, asides) ← applyRedirects (servicesOf run) ds []
  if !worked then
    putBack asides
    pure 1
  else
    let r ← attempt (callBuiltin "exec" (replaceShell args))
    if args.isEmpty then forgetAsides asides else putBack asides
    resume r

/-- Runs a command whose words were expanded. -/
def runWords (run : Evaluator) (mode : Mode) (c : Command) (assigns : List Assign) (claims : List Claim)
    (ds : List Redirect) : Sh Nat := do
  let services := servicesOf run
  match claims with
  | [] =>
    for a in assigns do
      let r ← readied services a
      trace services (tracedAssign r)
      carryOutAssign services r
    redirecting services ds do
      pure (← get).substituted
  | first :: _ =>
    let name := (first.text?).getD ""
    let mut ready : List Ready := []
    for a in assigns do
      let r ← readied services a
      trace services (tracedAssign r)
      ready := ready ++ [r]
    let claims ← traceClaims services claims
    let rest := claims.drop 1
    let words := claimWords claims
    let status ← withAssigns ready do
      match ← meaningOf name with
      | .function f => redirecting services ds (callFunction run mode name f (claimWords rest))
      | .builtin =>
        if name == "exec" then runReplacing run ds (claimWords rest)
        else
          redirecting services ds
            (callBuiltin name (runBuiltin run mode (claims.length + 1) name rest))
      | .program path => launch run mode ds (some path) words (c.text (← get).documents)
      | .unknown => launch run mode ds none words (c.text (← get).documents)
    modify fun s => { s with lastArgument := (words.getLast?).getD "" }
    pure status

/-- Runs a part after which the pipes with paths that it made are closed. -/
def closingPipes (body : Sh Nat) : Sh Nat := do
  let before := (← get).pipes
  let r ← attempt body
  closePipes before
  resume r

/-- Notes the line of a command. -/
def atLine (line : Nat) : Sh Unit := modify fun s => { s with line := ((line : Int) + s.shift).toNat }

/-- Notes the command that is about to run. -/
def noteCurrent (c : Command) : Sh Unit := do
  if (← get).trapping.isEmpty then modify fun s => { s with current := c }

/-- Notes the command that is about to run, and carries out the action before commands. -/
def announce (run : Evaluator) (c : Command) : Sh Unit := do
  noteCurrent c
  runEvent run "DEBUG" "debug trap"

/-- Runs a simple command. -/
def runSimple (run : Evaluator) (mode : Mode) (c : Command) (line : Nat) (assigns : List Assign)
    (arguments : List Argument) (ds : List Redirect) : Sh Nat := do
  ask .tick
  atLine line
  modify fun s => { s with substituted := 0 }
  if !mode.announced then announce run c
  closingPipes do
    let claims ← expandArguments (servicesOf run) arguments
    runWords run mode c assigns claims ds

end Sh
end HardenAudit.ExtendedShell
