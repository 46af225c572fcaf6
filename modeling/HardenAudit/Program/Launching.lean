import HardenAudit.Kernel.Signal
import HardenAudit.Program.Files
import HardenAudit.Shell.Format

/-!
# Programs that run programs, and wait
-/

namespace HardenAudit.Program

open Kernel (Awaited Ending Environment Refusal Signal Work)

/-! ## Becoming another program -/

/-- The directories in which programs are looked for without a search path. -/
def fallbackPath : String := "/bin:/usr/bin"

/-- Becomes the program at a path, or the shell that reads it; gives the reason of a refusal. -/
def tryPath (path : String) (words : List String) (env : Environment) : Work Refusal := do
  match ← Work.ask (.execute path words env) with
  | .file .execFormat => Work.ask (.execute "/bin/sh" ("/bin/sh" :: path :: words.drop 1) env)
  | e => pure e

/-- Tries several paths; gives the reason of a refusal. -/
def tryPaths (words : List String) (env : Environment) : List String → (why : Refusal) → Work Refusal
  | [], why => pure why
  | path :: rest, why => do
    let e ← tryPath path words env
    if e.isMissing then tryPaths words env rest why
    else if e == .file .permissionDenied then tryPaths words env rest e
    else pure e

/-- Becomes the program that some words call; gives the reason of a refusal. -/
def execute (words : List String) (env : Environment) : Work Refusal := do
  let name := words.head?.getD ""
  if name = "" then pure .notFound
  else if name.toList.contains '/' then tryPath name words env
  else
    let path := (env.lookup "PATH").getD fallbackPath
    let places := (path.splitOn ":").map fun dir => if dir = "" then name else dir ++ "/" ++ name
    tryPaths words env places .notFound

/-- Becomes the program that some words call, or ends with a message. -/
def become (name : String) (shown : String → String) (words : List String) (env : Environment) :
    Work Nat := do
  let e ← execute words env
  report name (shown (words.head?.getD "") ++ ": " ++ e.text)
  pure (if e == .notFound then 127 else 126)

/-! ## Variables -/

/-- A variable set among others. -/
def setIn (env : Environment) (name value : String) : Environment :=
  if env.any (·.1 == name) then env.map fun v => if v.1 == name then (name, value) else v
  else env ++ [(name, value)]

/-- A row of words under way: the finished ones, and the current one. -/
structure Splitting where
  words : List String := []
  current : Option (List Char) := none

namespace Splitting

/-- A character of the current word. -/
def add (s : Splitting) (c : Char) : Splitting :=
  { s with current := some ((s.current.getD []) ++ [c]) }

/-- The end of the current word. -/
def cut (s : Splitting) : Splitting :=
  match s.current with
  | some cs => { words := s.words ++ [String.ofList cs] }
  | none => s

end Splitting

/-- Splits a text into words as a shell does: blanks divide, quotes and backslashes protect, and names
in braces stand for variables.  `limit` may be the length. -/
def splitText (env : Environment) : (limit : Nat) → (quote : Option Char) → List Char → Splitting →
    Splitting
  | 0, _, _, s => s.cut
  | _, _, [], s => s.cut
  | limit + 1, some '\x27', c :: cs, s =>
    if c == '\x27' then splitText env limit none cs s
    else if c == '\\' then
      match cs with
      | d :: rest =>
        if d == '\\' || d == '\x27' then splitText env limit (some '\x27') rest (s.add d)
        else splitText env limit (some '\x27') cs (s.add c)
      | [] => (s.add c).cut
    else splitText env limit (some '\x27') cs (s.add c)
  | limit + 1, quote, c :: cs, s =>
    if c == '\\' then
      match cs with
      | [] => (s.add c).cut
      | d :: rest =>
        match d with
        | 'c' => if quote.isNone then s.cut else splitText env limit quote rest s
        | '_' => if quote.isNone then splitText env limit quote rest s.cut
          else splitText env limit quote rest (s.add ' ')
        | 'n' => splitText env limit quote rest (s.add '\n')
        | 't' => splitText env limit quote rest (s.add '\t')
        | 'r' => splitText env limit quote rest (s.add '\r')
        | 'f' => splitText env limit quote rest (s.add (Char.ofNat 12))
        | 'v' => splitText env limit quote rest (s.add (Char.ofNat 11))
        | d => splitText env limit quote rest (s.add d)
    else if c == '$' && cs.head? == some '\x7b' then
      let name := (cs.drop 1).takeWhile (· != '\x7d')
      let value := (env.lookup (String.ofList name)).getD ""
      splitText env limit quote (cs.drop (name.length + 2)) (value.toList.foldl Splitting.add s)
    else if quote == some '"' then
      if c == '"' then splitText env limit none cs s else splitText env limit quote cs (s.add c)
    else if c == '"' then
      splitText env limit (some '"') cs { s with current := some (s.current.getD []) }
    else if c == '\x27' then
      splitText env limit (some '\x27') cs { s with current := some (s.current.getD []) }
    else if c == ' ' || (9 ≤ c.toNat && c.toNat ≤ 13) then splitText env limit quote cs s.cut
    else if c == '#' && s.current.isNone then s.cut
    else splitText env limit quote cs (s.add c)

/-- The words with those split that an option asks to split.  `value` tells that the next word belongs to
an option. -/
def splitWords (env : Environment) : (value : Bool) → List String → List String
  | _, [] => []
  | true, word :: rest => word :: splitWords env false rest
  | false, word :: rest =>
    let split (text : String) : List String :=
      (splitText env (text.length + 1) none text.toList {}).words
    match word.toList with
    | '-' :: 'S' :: [] =>
      match rest with
      | text :: more => split text ++ more
      | [] => [word]
    | '-' :: 'S' :: cs => split (String.ofList cs) ++ rest
    | '-' :: 'v' :: 'S' :: cs => split (String.ofList cs) ++ rest
    | '-' :: c :: cs =>
      let takes := (c == 'u' || c == 'C') && cs.isEmpty
      if word == "--" then word :: rest else word :: splitWords env takes rest
    | _ => word :: rest

/-- Sets variables and becomes a program, or shows all variables. -/
def env : Program := fun argv given => do
  let name := argv.head?.getD ""
  let words := splitWords given false (argv.drop 1)
  let c ← call { Options.make "iu:0C:v" [("ignore-environment", 'i'), ("unset", 'u'), ("null", '0'),
    ("chdir", 'C'), ("debug", 'v')] with strict := true } 125 (name :: words)
  let tell (text : String) : Work Unit := if c.has 'v' then printError (text ++ "\n") else pure ()
  let (bare, rest) := match c.rest with
    | "-" :: rest => (true, rest)
    | rest => (false, rest)
  let start : Environment ←
    if c.has 'i' || bare then do
      tell "cleaning environ"
      pure []
    else
      c.options.foldlM (fun (vars : Environment) (letter, value) => do
        if letter != 'u' then pure vars
        else
          let gone := value.getD ""
          tell ("unset:    " ++ gone)
          if gone = "" || gone.toList.contains '=' then
            giveUp name 125 ("cannot unset " ++ quote gone ++ ": Invalid argument")
          pure (vars.filter (·.1 != gone))) given
  let isSetting (w : String) : Bool := w.toList.contains '='
  let settings ← (rest.takeWhile isSetting).foldlM (fun (vars : Environment) w => do
    tell ("setenv:   " ++ w)
    let key := w.toList.takeWhile (· != '=')
    pure (setIn vars (String.ofList key) (String.ofList (w.toList.drop (key.length + 1))))) start
  let command := rest.dropWhile isSetting
  if c.has '0' && !command.isEmpty then misuse name 125 "cannot specify --null (-0) with command"
  if (c.value? 'C').isSome && command.isEmpty then
    misuse name 125 "must specify command with --chdir (-C)"
  if command.isEmpty then
    let gap := if c.has '0' then (Char.ofNat 0).toString else "\n"
    put name (String.join (settings.map fun v => v.1 ++ "=" ++ v.2 ++ gap))
    pure 0
  else
    if let some dir := c.value? 'C' then
      tell ("chdir:    " ++ shellQuote dir)
      match ← Work.ask (.enter dir) with
      | .ok _ => pure ()
      | .error e => giveUp name 125 ("cannot change directory to " ++ shellQuote dir ++ ": " ++ e.text)
    tell ("executing: " ++ command.head?.getD "")
    for (i, word) in (List.range command.length).zip command do
      tell ("   arg[" ++ toString i ++ "]= " ++ quote word)
    let status ← become name quote command settings
    if status = 127 && (command.head?.getD "").toList.any Shell.isSpace then
      report name "use -[v]S to pass options in shebang lines"
    pure status

/-- Becomes a program that does not mind when the terminal is gone. -/
def nohup : Program := fun argv env => do
  let c ← call { Options.make "" [] with strict := true } 125 argv
  if c.rest.isEmpty then misuse c.name 125 "missing operand"
  Work.ask (.dispose 1 .ignore)
  become c.name (fun word => "failed to run command " ++ quote word) c.rest env

/-- The number by which `nice` is asked to give way, and the words behind its options.  In place of an
option a number may stand behind one or two signs.  Each round takes a word, so `limit` may be their
number. -/
def niceWords (name : String) : (limit : Nat) → List String → (given : Option String) →
    Work (Option String × List String)
  | 0, words, given => pure (given, words)
  | _, [], given => pure (given, [])
  | limit + 1, word :: rest, given => do
    let digits := match word.toList with
      | '-' :: '-' :: cs | '-' :: '+' :: cs | '-' :: cs => cs
      | _ => []
    if digits.head?.any Char.isDigit then
      niceWords name limit rest (some (String.ofList (word.toList.drop 1)))
    else if word == "--" then pure (given, rest)
    else if !word.startsWith "-" || word == "-" then pure (given, word :: rest)
    else
      let o : Options := { Options.make "n:" [("adjustment", 'n')] with strict := true }
      /- Does the option take the next word? -/
      let takes := word == "-n" || (word.startsWith "--" && !word.toList.contains '=')
      let own := if takes then word :: rest.take 1 else [word]
      let c ← call o 125 (name :: own)
      niceWords name limit (if takes then rest.drop 1 else rest) (c.value? 'n')

/-- Becomes a program that gives way to others.  How much it does is not kept, since nothing depends on
it. -/
def nice : Program := fun argv env => do
  let name := argv.head?.getD ""
  let (given, words) ← niceWords name argv.length (argv.drop 1) none
  let adjustment : Int ← match given with
    | none => pure 10
    | some text =>
      let n := Shell.integer 10 text.toList
      if !n.present || !n.rest.isEmpty then giveUp name 125 ("invalid adjustment " ++ quote text)
      if words.isEmpty then misuse name 125 "a command must be given with an adjustment"
      pure n.value
  if words.isEmpty then
    put name "0\n"
    pure 0
  else
    if adjustment < 0 then report name "cannot set niceness: Permission denied"
    become name quote words env

/-- Becomes a program in a session of its own. -/
def setsid : Program := fun argv env => do
  let o := { Options.make "cfw" [("ctty", 'c'), ("fork", 'f'), ("wait", 'w')] with strict := true }
  let c ← call o 1 argv
  if c.rest.isEmpty then misuse c.name 1 "no command specified"
  become c.name (fun word => "failed to execute " ++ word) c.rest env

/-- Becomes a program that is asked to write in another rhythm, which shows in its variables. -/
def stdbuf : Program := fun argv env => do
  let o := Options.make "i:o:e:" [("input", 'i'), ("output", 'o'), ("error", 'e')]
  let c ← call { o with strict := true } 125 argv
  for (letter, mode) in c.options do
    let mode := mode.getD ""
    if mode = "L" && letter == 'i' then misuse c.name 125 "line buffering stdin is meaningless"
    if mode != "L" && (mode.toList.isEmpty || !mode.toList.all Char.isDigit) then
      giveUp c.name 125 ("invalid mode " ++ quote mode)
  if c.rest.isEmpty then misuse c.name 125 "missing operand"
  if c.options.isEmpty then misuse c.name 125 "you must specify a buffering mode option"
  let env := c.options.foldl (fun env o =>
    setIn env ("_STDBUF_" ++ o.1.toUpper.toString) (o.2.getD "")) env
  let env := setIn env "LD_PRELOAD" "/usr/libexec/coreutils/libstdbuf.so"
  become c.name (fun word => "failed to run command " ++ quote word) c.rest env

/-! ## Waiting -/

/-- How long to wait. -/
inductive Delay where
  /-- So many microseconds. -/
  | finite (time : Nat)
  | endless
  deriving DecidableEq, Repr, Inhabited

namespace Delay

/-- One delay behind another. -/
def add : Delay → Delay → Delay
  | finite a, finite b => finite (a + b)
  | _, _ => endless

/-- Lets a delay pass. -/
def pass : Delay → Work Unit
  | finite time => Work.ask (.pause time)
  | endless => Work.ask .rest

end Delay

/-- A duration with a unit behind it. -/
def duration? (text : String) : Option Delay :=
  let r := Shell.Real.read .extended text.toList
  let unit? : Option Nat := match r.rest with
    | [] => some 1
    | ['s'] => some 1
    | ['m'] => some 60
    | ['h'] => some 3600
    | ['d'] => some 86400
    | _ => none
  if !r.present then none
  else
    unit?.bind fun unit =>
      match r.value with
      | .finite negative x =>
        let (num, den) := x.ratio
        if negative && num != 0 then none
        else some (.finite ((num * unit * 1000000 + den - 1) / den))
      | .infinite false => some .endless
      | _ => none

/-- Waits. -/
def sleep : Program := fun argv _ => do
  let c ← call { Options.make "" [] with strict := true } 1 argv
  if c.rest.isEmpty then misuse c.name 1 "missing operand"
  let times := c.rest.map fun a => (a, duration? a)
  let bad := times.filter (·.2.isNone)
  for (a, _) in bad do
    report c.name ("invalid time interval " ++ quote a)
  if !bad.isEmpty then hint c.name 1
  ((times.filterMap (·.2)).foldl Delay.add (.finite 0)).pass
  pure 0

/-- The signal that a text names, with or without its first letters. -/
def signalNamed? (text : String) : Option Nat :=
  if !text.toList.isEmpty && text.toList.all Char.isDigit then
    let n := (Shell.digits 10 text.toList 0 0).1
    if n ≤ Signal.last then some n else none
  else
    let upper := String.ofList (text.toList.map Char.toUpper)
    let upper := if upper.startsWith "SIG" then String.ofList (upper.toList.drop 3) else upper
    Signal.ofName? upper

/-- Runs a program for a limited time. -/
def timeout : Program := fun argv env => do
  let c ← call { Options.make "k:s:fpv" [("kill-after", 'k'), ("signal", 's'), ("foreground", 'f'),
    ("preserve-status", 'p'), ("verbose", 'v')] with strict := true } 125 argv
  let signal ← match c.value? 's' with
    | none => pure Signal.term
    | some text =>
      match signalNamed? text with
      | some n => pure n
      | none => misuse c.name 125 (quote text ++ ": invalid signal")
  match c.rest with
  | time :: command :: args =>
    match duration? time with
    | none => misuse c.name 125 ("invalid time interval " ++ quote time)
    | some limit =>
      let child ← Work.fork (do
        let e ← execute (command :: args) env
        report c.name ("failed to run command " ++ quote command ++ ": " ++ e.text)
        pure (if e == .notFound then 127 else 126))
      let clock ← if limit = .finite 0 then pure 0 else Work.fork (do
        let _ ← Work.ask (.close 1)
        let _ ← Work.ask (.close 2)
        limit.pass
        pure 0)
      Work.iterate (fun (late : Bool) => do
        match ← Work.ask (.await true) with
        | .ended pid how =>
          if pid == child then
            if !late && clock != 0 then
              let _ ← Work.ask (.send clock Signal.kill)
            match how with
            | .code n => pure (.inr (if late && !c.has 'p' then 124 else n))
            | .signal n =>
              if late && !c.has 'p' && n != Signal.kill then pure (.inr 124)
              else if late && n != Signal.kill then pure (.inr (128 + n))
              else
                /- The end of the program is passed on as it was. -/
                let (self, _) ← Work.ask .identity
                Work.ask (.dispose n .standard)
                let _ ← Work.ask (.send self n)
                pure (.inr (128 + n))
          else
            let _ ← Work.ask (.send child signal)
            if let some grace := (c.value? 'k').bind duration? then
              let _ ← Work.fork (do
                let _ ← Work.ask (.close 1)
                let _ ← Work.ask (.close 2)
                grace.pass
                let _ ← Work.ask (.send child Signal.kill)
                pure 0)
            pure (.inl true)
        | .interrupted => pure (.inl late)
        | _ => pure (.inr 125)) Kernel.endless false
  | _ => hint c.name 125

/-- Runs a program and waits for it; gives how it ended. -/
def runAndWait (body : Work Nat) : Work Ending := do
  let child ← Work.fork body
  Work.iterate (fun (_ : Unit) => do
    match ← Work.ask (.await true) with
    | .ended pid how => if pid == child then pure (.inr how) else pure (.inl ())
    | .interrupted => pure (.inl ())
    | _ => pure (.inr (.code 0))) Kernel.endless ()

end HardenAudit.Program
