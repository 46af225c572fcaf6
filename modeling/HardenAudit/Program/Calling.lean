import HardenAudit.Program.Launching

/-!
# Calling a program with what is read: `xargs`

The input is read item by item.  Items are gathered until there are enough of them for a call, or until
no more would fit; then the program is called while the rest of the input is still to come.
-/

namespace HardenAudit.Program

open Kernel (Awaited Ending Environment Refusal Work)

namespace Calling

/-- What a program is called with, and when. -/
structure Plan where
  name : String
  /-- What stands between items; without it blanks and ends of lines do, and quotes protect them. -/
  divider : Option Char := none
  /-- What stands for an item among the words; then each line is an item. -/
  mark : Option String := none
  perCall : Option Nat := none
  linesPerCall : Option Nat := none
  /-- An item at which the input ends. -/
  stop : Option String := none
  /-- How many characters there may be in a call. -/
  room : Nat := 131072
  /-- Is it a fault if the items that belong together do not fit? -/
  strict : Bool := false
  /-- How many calls run at once; nothing stands for any number. -/
  atOnce : Nat := 1
  evenWithout : Bool := true
  shows : Bool := false
  asks : Bool := false
  source : Option String := none
  command : List String := []
  deriving Inhabited

/-! ## Items -/

/-- Where in an item the next character stands. -/
inductive Mode where
  | between
  | plain
  | quoted (mark : Char)
  | escaped
  deriving DecidableEq, Repr, Inhabited

/-- Reading under way. -/
structure Reader where
  mode : Mode := .between
  /-- The characters of the item, the last one first. -/
  item : List Char := []
  last : Option Char := none
  /-- Is the item there even if it is empty? -/
  present : Bool := false
  /-- Has the line no item yet? -/
  first : Bool := true
  lines : Nat := 0
  warned : Bool := false
  deriving Inhabited

/-- What was found in the input. -/
inductive Event where
  /-- An item, and whether a line ends with it. -/
  | item (text : String) (ends : Bool)
  | finished
  | unmatched (mark : Char)
  /-- A character that cannot stand in an argument. -/
  | warning
  | tooLong
  deriving Repr, Inhabited

/-- A text up to a character that cannot stand in an argument. -/
def argument (reversed : List Char) : String :=
  String.ofList (reversed.reverse.takeWhile (· != '\x00'))

/-- Is a character a blank within a line? -/
def isBlank (c : Char) : Bool := c == ' ' || c == '\t'

/-- A character of an input in which blanks divide. -/
def Reader.step (p : Plan) (r : Reader) (c : Char) : Reader × Option Event :=
  let before := r.last
  let r := { r with last := some c }
  let keep (mode : Mode) : Reader × Option Event :=
    let r := { r with mode := mode, item := c :: r.item }
    if c == '\x00' && !r.warned then ({ r with warned := true }, some .warning) else (r, none)
  let found (ends : Bool) (r : Reader) : Reader × Option Event :=
    let text := argument r.item
    if p.stop == some text then (r, some .finished)
    else
      ({ r with mode := .between, item := [], present := false, first := ends }, some (.item text ends))
  let plain : Reader × Option Event :=
    if c == '\n' then
      let r := if before.any isBlank then r else { r with lines := r.lines + 1 }
      if r.item.isEmpty && !r.present then ({ r with mode := .between }, none) else found true r
    else if p.mark.isNone && isBlank c then found false r
    else if c == '\\' then ({ r with mode := .escaped }, none)
    else if c == '\x27' || c == '"' then ({ r with mode := .quoted c }, none)
    else keep .plain
  match r.mode with
  | .between => if Shell.isSpace c then (r, none) else plain
  | .plain => plain
  | .quoted q =>
    if c == '\n' then (r, some (.unmatched q))
    else if c == q then ({ r with mode := .plain, present := true }, none)
    else keep (.quoted q)
  | .escaped => keep .plain

/-- A character of an input with a divider. -/
def Reader.stepDivided (r : Reader) (divider c : Char) : Reader × Option Event :=
  if c == divider then
    ({ r with item := [], lines := r.lines + 1 }, some (.item (argument r.item) true))
  else ({ r with item := c :: r.item }, none)

/-- Reads up to the next event; `space` is the room for an item. -/
def Reader.next (p : Plan) (space : Nat) : List Char → Reader → Reader × Option Event × List Char
  | [], r => (r, none, [])
  | c :: cs, r =>
    let (r', event) := match p.divider with
      | some d => r.stepDivided d c
      | none => r.step p c
    if r'.item.length > r.item.length && r.item.length ≥ space then (r, some .tooLong, cs)
    else
      match event with
      | none => Reader.next p space cs r'
      | some e => (r', some e, cs)

/-- What the end of the input brings. -/
def Reader.ending (p : Plan) (r : Reader) : Option Event :=
  match r.mode with
  | .quoted q => some (.unmatched q)
  | _ =>
    if r.item.isEmpty then none
    else
      let text := argument r.item
      if p.stop == some text && r.first then none else some (.item text true)

/-! ## Calls -/

/-- Calls under way. -/
structure State where
  reader : Reader := {}
  rest : List Char := []
  /-- The items gathered, the last one first, and the characters of the call so far. -/
  items : List String := []
  size : Nat := 0
  called : Nat := 0
  running : Nat := 0
  status : Nat := 0
  deriving Inhabited

/-- The room that a word takes. -/
def roomOf (word : String) : Nat := word.length + 1

/-- The room that the command takes alone. -/
def Plan.start (p : Plan) : Nat := (p.command.map roomOf).foldl (· + ·) 0

/-- Waits for a call to end. -/
def waitForOne (p : Plan) (s : State) : Work State :=
  Work.iterate (fun (_ : Unit) => do
    let command := p.command.head?.getD ""
    let s := { s with running := s.running - 1 }
    match ← Work.ask (.await true) with
    | .ended _ (.code 0) => pure (.inr s)
    | .ended _ (.code 255) =>
      report p.name (command ++ ": exited with status 255; aborting")
      Work.exit 124
    | .ended _ (.code _) => pure (.inr { s with status := 123 })
    | .ended _ (.signal n) =>
      report p.name (command ++ ": terminated by signal " ++ toString n)
      Work.exit 125
    | .interrupted => pure (.inl ())
    | _ => pure (.inr { s with running := 0 })) Kernel.endless ()

/-- Waits for all calls to end. -/
def waitForAll (p : Plan) (s : State) : Work State :=
  Work.iterate (fun (s : State) => do
    if s.running = 0 then pure (.inr s)
    else
      let s ← waitForOne p s
      pure (.inl s)) Kernel.endless s

/-- Starts a program.  A pipe that is closed when the program takes over tells whether it could be
started; if not, that ends everything. -/
def start (p : Plan) (env : Environment) (words : List String) : Work Unit := do
  let (source, drain) ← Work.ask .pipe
  let _ ← Work.fork (do
    close source
    let _ ← Work.ask (.duplicate drain 10 true)
    let kept := 10
    close drain
    if p.source.isNone then
      if let .ok fd ← Work.ask (.openFile "/dev/null" .input) then
        let _ ← Work.ask (.assign fd 0)
        close fd
    let e ← execute words env
    let _ ← writeAll kept (if e == .notFound then "?" else "!")
    report p.name (words.head?.getD "" ++ ": " ++ e.text)
    pure (if e == .notFound then 127 else 126))
  close drain
  let answer ← Work.ask (.read source 1)
  close source
  match answer with
  | .ok (c :: _) =>
    let _ ← Work.ask (.await true)
    Work.exit (if c.toNat = '?'.toNat then 127 else 126)
  | _ => pure ()

/-- Calls the program with some words. -/
def callWords (p : Plan) (env : Environment) (words : List String) (s : State) : Work State := do
  let s ← if p.atOnce > 0 && s.running ≥ p.atOnce then waitForOne p s else pure s
  let shown := " ".intercalate (words.map shellQuoteIfNeeded)
  if p.asks then
    printError shown
    match ← Work.ask (.openFile "/dev/tty" .input) with
    | .ok _ => pure ()
    | .error e => giveUp p.name 1 ("failed to open /dev/tty for reading: " ++ e.text)
  else if p.shows then printError (shown ++ "\n")
  start p env words
  pure { s with items := [], size := p.start, called := s.called + 1, running := s.running + 1 }

/-- Calls the program with the items gathered. -/
def callItems (p : Plan) (env : Environment) (s : State) : Work State :=
  callWords p env (p.command ++ s.items.reverse) s

/-- Ends with a message, after what was gathered was used. -/
def fail {α : Type} (p : Plan) (env : Environment) (s : State) (message : String) : Work α := do
  let s ← if p.mark.isSome || s.items.isEmpty || p.strict then pure s else callItems p env s
  let _ ← waitForAll p s
  giveUp p.name 1 message

/-- Ends with a message at once. -/
def failNow {α : Type} (p : Plan) (s : State) (message : String) : Work α := do
  let _ ← waitForAll p s
  giveUp p.name 1 message

/-- A text with every occurrence of a part replaced. -/
def replaceAll (part new text : String) : String :=
  if part = "" then text else new.intercalate (text.splitOn part)

/-- Takes in an item. -/
def takeItem (p : Plan) (env : Environment) (text : String) (ends : Bool) (s : State) : Work State := do
  match p.mark with
  | some mark =>
    let words := p.command.take 1 ++ (p.command.drop 1).map (replaceAll mark text)
    if (words.map roomOf).foldl (· + ·) 0 > p.room then failNow p s "argument list too long"
    callWords p env words s
  | none =>
    let s ← if s.size + roomOf text > p.room then do
        if s.items.isEmpty then failNow p s "cannot fit single argument within argument list size limit"
        if p.strict && (p.linesPerCall.isSome || p.perCall.isSome) then
          failNow p s "argument list too long"
        callItems p env s
      else pure s
    let s := { s with items := text :: s.items, size := s.size + roomOf text }
    let s ← if p.perCall.any (s.items.length ≥ ·) then callItems p env s else pure s
    if ends && p.linesPerCall.any (s.reader.lines ≥ ·) then
      let s ← callItems p env s
      pure { s with reader := { s.reader with lines := 0 } }
    else pure s

/-- The wording for a quote without an end. -/
def unmatchedText (q : Char) : String :=
  "unmatched " ++ (if q == '"' then "double" else "single")
    ++ " quote; by default quotes are special to xargs unless you use the -0 option"

/-- Ends when all input was used. -/
def finish (p : Plan) (env : Environment) (s : State) : Work Nat := do
  let s ← if p.mark.isNone && (!s.items.isEmpty || (p.evenWithout && s.called = 0)) then callItems p env s
    else pure s
  let s ← waitForAll p s
  pure s.status

/-- Reads the input from a descriptor and calls the program. -/
def run (p : Plan) (env : Environment) (fd : Nat) : Work Nat :=
  Work.iterate (fun (s : State) => do
    let space := p.room - (if p.mark.isSome then 0 else p.start) - 1
    let (reader, event, rest) := s.reader.next p space s.rest
    let s := { s with reader := reader, rest := rest }
    match event with
    | some (.item text ends) => do
      let s ← takeItem p env text ends s
      pure (.inl s)
    | some .finished => do
      let status ← finish p env s
      pure (.inr status)
    | some (.unmatched q) => fail p env s (unmatchedText q)
    | some .warning => do
      report p.name ("WARNING: a NUL character occurred in the input.  It cannot be passed through in the "
        ++ "argument list.  Did you mean to use the --null option?")
      pure (.inl s)
    | some .tooLong => fail p env s "argument line too long"
    | none => do
      match ← Work.ask (.read fd 4096) with
      | .ok (b :: bytes) => pure (.inl { s with rest := (Text.Raw.ofBytes (b :: bytes)).toList })
      | _ =>
        match s.reader.ending p with
        | some (.item text ends) => do
          let s ← takeItem p env text ends { s with reader := {} }
          let status ← finish p env s
          pure (.inr status)
        | some (.unmatched q) => fail p env s (unmatchedText q)
        | _ => do
          let status ← finish p env s
          pure (.inr status)) Kernel.endless { size := p.start }

/-! ## Options -/

/-- The greatest room that may be asked for. -/
def greatestRoom : Nat := 2092979

/-- The divider that a text stands for. -/
def dividerOf (name text : String) : Work Char := do
  match text.toList with
  | [c] => pure c
  | '\\' :: c :: cs =>
    let code (base : Nat) (ds : List Char) : Work Char :=
      let (n, count, rest) := Shell.digits base ds 0 0
      if count = 0 || !rest.isEmpty then
        giveUp name 1 ("Invalid escape sequence " ++ text ++ " in input delimiter specification.")
      else pure (Char.ofNat (n % 256))
    match Shell.letterEscape? c, cs with
    | some e, [] => pure e
    | _, _ =>
      if c == 'x' then code 16 cs
      else if '0' ≤ c && c ≤ '7' then code 8 (c :: cs)
      else giveUp name 1 ("Invalid escape sequence " ++ text ++ " in input delimiter specification.")
  | _ =>
    giveUp name 1 ("Invalid input delimiter specification " ++ text
      ++ ": the delimiter must be either a single character or an escape sequence starting with \\.")

/-- The plan with one more option. -/
def Plan.withOption (p : Plan) (c : Char) (value : Option String) : Work Plan := do
  let text := value.getD ""
  let number (least : Int) (most : Option Int) (fatal : Bool) : Work Nat := do
    let n := Shell.integer 10 text.toList
    let bounded (word : String) (bound : Int) : Work Nat := do
      report p.name ("value " ++ text ++ " for -" ++ c.toString ++ " option should be " ++ word ++ " "
        ++ toString bound)
      if fatal then hint p.name 1 else pure bound.toNat
    if !n.present || !n.rest.isEmpty then
      misuse p.name 1 ("invalid number \"" ++ text ++ "\" for -" ++ c.toString ++ " option")
    else if n.value < least then bounded ">=" least
    else
      match most with
      | some m => if n.value > m then bounded "<=" m else pure n.value.toNat
      | none => pure n.value.toNat
  let clash (other this : String) : Work Unit :=
    report p.name ("warning: options " ++ other ++ " and " ++ this
      ++ " are mutually exclusive, ignoring previous " ++ other ++ " value")
  match c with
  | '0' => pure { p with divider := some '\x00' }
  | 'd' => do
    let d ← dividerOf p.name text
    pure { p with divider := some d }
  | 'E' => pure { p with stop := if text = "" then none else some text }
  | 'e' => pure { p with stop := value }
  | 'I' | 'i' => do
    if p.linesPerCall.isSome then clash "--max-lines" "--replace/-I/-i"
    if p.perCall.isSome then clash "--max-args" "--replace/-I/-i"
    pure { p with mark := some (value.getD "\x7b\x7d"), linesPerCall := none, perCall := none }
  | 'L' | 'l' => do
    let n ← if value.isNone then pure 1 else number 1 none true
    if p.perCall.isSome then clash "--max-args" (if c == 'L' then "-L" else "--max-lines/-l")
    if p.mark.isSome then clash "--replace" (if c == 'L' then "-L" else "--max-lines/-l")
    pure { p with linesPerCall := some n, perCall := none, mark := none }
  | 'n' => do
    let n ← number 1 none true
    if p.linesPerCall.isSome then clash "--max-lines" "--max-args/-n"
    if n = 1 && p.mark.isSome then pure { p with perCall := none, linesPerCall := none }
    else
      if p.mark.isSome then clash "--replace" "--max-args/-n"
      pure { p with perCall := some n, linesPerCall := none, mark := none }
  | 's' => do
    let n ← number 1 (some (greatestRoom : Nat)) false
    pure { p with room := n }
  | 'P' => do
    let n ← number 0 (some 0x7FFFFFFF) true
    pure { p with atOnce := n }
  | 'r' => pure { p with evenWithout := false }
  | 't' => pure { p with shows := true }
  | 'p' => pure { p with asks := true }
  | 'x' => pure { p with strict := true }
  | 'a' => pure { p with source := some text }
  | _ => pure p

end Calling

open Calling in
/-- Calls a program with the items of the input as arguments. -/
def xargs : Program := fun argv env => do
  let name := argv.head?.getD ""
  let args := argv.drop 1
  let o := Options.make "0a:d:E:e::i::I:l::L:n:prs:txP:"
    [("null", '0'), ("arg-file", 'a'), ("delimiter", 'd'), ("max-args", 'n'), ("no-run-if-empty", 'r'),
     ("verbose", 't'), ("max-procs", 'P'), ("interactive", 'p'), ("exit", 'x'), ("max-chars", 's'),
     ("eof", 'e'), ("replace", 'i'), ("max-lines", 'l')]
  let (c, wrong) := gatherArguments { o with strict := true } args.length args
  let p ← c.options.foldlM (fun (p : Plan) (letter, value) => p.withOption letter value)
    { name := name }
  if let some message := wrong then misuse name 1 message
  if p.stop.isSome && p.divider.isSome then
    report name "warning: the -E option has no effect if -0 or -d is used."
  let p := { p with
    command := if c.rest.isEmpty then ["echo"] else c.rest
    stop := if p.divider.isSome then none else p.stop
    strict := p.strict || p.mark.isSome }
  if p.mark == some "" then giveUp name 1 "command too long"
  if p.start > p.room then giveUp name 1 "cannot fit single argument within argument list size limit"
  match p.source with
  | none => run p env 0
  | some "-" => run p env 0
  | some path =>
    match ← Work.ask (.openFile path .input) with
    | .ok fd => do
      let _ ← Work.ask (.duplicate fd 10 true)
      close fd
      run p env 10
    | .error e => giveUp name 1 ("Cannot open input file " ++ quote path ++ ": " ++ e.text)

end HardenAudit.Program
