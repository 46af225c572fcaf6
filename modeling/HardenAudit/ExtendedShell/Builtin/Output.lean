import HardenAudit.ExtendedShell.Builtin.Options
import HardenAudit.ExtendedShell.Lexer
import HardenAudit.Shell.Builtin.Output
import HardenAudit.Shell.Format
import HardenAudit.Text.Calendar

/-!
# Commands that write: `echo` and `printf`
-/

namespace HardenAudit.ExtendedShell.Builtin

open Sh
open Shell (Conversion)

/-- A text with its escapes replaced, and whether an escape asked to stop all output.  With `zero`, octal
digits stand behind a zero only.  Each step takes a character at least, so `limit` may be the length. -/
def unescapeFrom (zero : Bool) : (limit : Nat) → List Char → List Char × Bool
  | 0, _ => ([], false)
  | _, [] => ([], false)
  | limit + 1, '\\' :: rest =>
    let further (text : List Char) (rest : List Char) : List Char × Bool :=
      let (cs, stop) := unescapeFrom zero limit rest
      (text ++ cs, stop)
    match rest with
    | 'c' :: _ => ([], true)
    | '0' :: more =>
      match digitsAt? 8 3 more with
      | some (n, rest) => further [Char.ofNat (n % 256)] rest
      | none => further [Char.ofNat 0] more
    | c :: _ =>
      match if zero then none else digitsAt? 8 3 rest with
      | some (n, rest) => further [Char.ofNat (n % 256)] rest
      | none =>
        if c == '\x27' || c == '"' then further ['\\'] rest
        else
          match escape? false rest with
          | some (text, rest) => further text rest
          | none => further ['\\'] rest
    | [] => (['\\'], false)
  | limit + 1, c :: rest =>
    let (cs, stop) := unescapeFrom zero limit rest
    (c :: cs, stop)

/-- The options of `echo`: does it end the line, does it replace escapes, and the words to write. -/
def echoOptions : (endsLine escapes : Bool) → List String → Bool × Bool × List String
  | endsLine, escapes, arg :: rest =>
    match arg.toList with
    | '-' :: c :: cs =>
      if (c :: cs).all fun c => c == 'n' || c == 'e' || c == 'E' then
        let escapes := match ((c :: cs).filter (· != 'n')).getLast? with
          | some 'e' => true
          | some _ => false
          | none => escapes
        echoOptions (endsLine && !(c :: cs).contains 'n') escapes rest
      else (endsLine, escapes, arg :: rest)
    | _ => (endsLine, escapes, arg :: rest)
  | endsLine, escapes, [] => (endsLine, escapes, [])

/-- Writes its arguments with blanks between them. -/
def echo (args : List String) : Sh Nat := do
  let (endsLine, escapes, words) := echoOptions true (← hasExtra "xpg_echo") args
  let text := " ".intercalate words
  if escapes then
    let (cs, stop) := unescapeFrom true (text.length + 1) text.toList
    print (String.ofList cs ++ (if stop || !endsLine then "" else "\n"))
  else print (text ++ (if endsLine then "\n" else ""))
  pure 0

/-- A format under way: the arguments that are left, what was written, and whether a number was bad. -/
structure Formatting where
  args : List String
  out : List String := []
  faulty : Bool := false
  stopped : Bool := false
  failed : Bool := false
  deriving Inhabited

/-- A command that formats. -/
abbrev Format := StateT Formatting Sh

/-- Adds to what is written. -/
def put (text : String) : Format Unit := modify fun f => { f with out := text :: f.out }

/-- The next argument. -/
def nextArg : Format (Option String) := do
  let f ← get
  set { f with args := f.args.drop 1 }
  pure f.args.head?

/-- Reports what is wrong with an argument. -/
def fault (message : String) : Format Unit := do
  warn message
  modify fun f => { f with faulty := true }

/-- The next argument as a number with a sign. -/
def signedArg : Format Int := do
  match ← nextArg with
  | none => pure 0
  | some text =>
    match Shell.Builtin.quotedCode? text with
    | some n => pure (n : Int)
    | none =>
      let n := Shell.integer 0 text.toList
      if text == "" then pure 0
      else
        if !n.present || !n.rest.isEmpty then fault (text ++ ": invalid number")
        else if !Shell.inRange n.value then fault (text ++ ": Numerical result out of range")
        pure (Shell.clamp n.value)

/-- The next argument as a number without a sign. -/
def unsignedArg : Format Nat := do
  match ← nextArg with
  | none => pure 0
  | some text =>
    match Shell.Builtin.quotedCode? text with
    | some n => pure n
    | none =>
      let n := Shell.integer 0 text.toList
      if text == "" then pure 0
      else
        let fits := n.value.natAbs ≤ 0xFFFFFFFFFFFFFFFF
        if !n.present || !n.rest.isEmpty then fault (text ++ ": invalid number")
        else if !fits then fault (text ++ ": Numerical result out of range")
        pure (if fits then (n.value % 0x10000000000000000).toNat else 0xFFFFFFFFFFFFFFFF)

/-- The next argument as a number with a point. -/
def realArg : Format Shell.Real := do
  match ← nextArg with
  | none => pure (.finite false (.zero .extended))
  | some text =>
    match Shell.Builtin.quotedCode? text with
    | some n => pure (.finite false (.ofNat .extended n))
    | none =>
      let r := Shell.Real.read .extended text.toList
      if text != "" && (!r.present || !r.rest.isEmpty) then fault (text ++ ": invalid number")
      pure r.value

/-- A number that is written in a format, or is given by an argument. -/
def measure (cs : List Char) : Format (Option Int × List Char) := do
  match cs with
  | '*' :: rest =>
    let n ← signedArg
    pure (some n, rest)
  | _ =>
    let ds := cs.takeWhile Char.isDigit
    let n : Option Int := if ds.isEmpty then none else some ((Shell.digits 10 ds 0 0).1 : Nat)
    pure (n, cs.drop ds.length)

/-! ## Times -/

/-- A time by a format, if it fits in the room for it. -/
def timeText (seconds : Int) (format : List Char) : String :=
  let text := (Text.Moment.ofSeconds seconds).format (fun _ => none) (String.ofList format)
  if text.length < 128 then text else ""

/-- Carries out one conversion, behind its sign; gives what is left of the format. -/
def convert (cs : List Char) : Format (List Char) := do
  let flags := cs.takeWhile ("#-+ 0\x27".toList.contains ·)
  let (width, rest) ← measure (cs.drop flags.length)
  let (precision, rest) ← match rest with
    | '.' :: more => do
      let (n, rest) ← measure more
      pure (some (n.getD 0), rest)
    | _ => pure (none, rest)
  let v := (Conversion.withFlags flags).withWidth (width.getD 0)
  let v := match precision with
    | some p => v.withPrecision p
    | none => v
  let rest := rest.dropWhile ("hjlLtz".toList.contains ·)
  match rest with
  | [] =>
    warn ("\x60" ++ String.ofList ('%' :: cs) ++ "\x27: missing format character")
    modify fun f => { f with failed := true, stopped := true }
    pure []
  | c :: rest =>
    if c == '(' then
      let inside := rest.takeWhile (· != ')')
      match rest.drop inside.length with
      | _ :: 'T' :: rest =>
        let arg ← nextArg
        let seconds : Int ← match arg with
          | none => do
            let now ← (ask .now : Sh Nat)
            pure ((now / 1000000 : Nat) : Int)
          | some text =>
            let n := (Shell.integer 0 text.toList).value
            if n < 0 then do
              let now ← (ask .now : Sh Nat)
              pure ((now / 1000000 : Nat) : Int)
            else pure n
        put (v.text (timeText seconds (if inside.isEmpty then "%X".toList else inside)))
        pure rest
      | _ =>
        fault ("\x60%" ++ String.ofList (c :: rest) ++ "\x27: invalid time format specification")
        pure []
    else
      if c == 'b' then
        let text := (← nextArg).getD ""
        let (cs, stop) := unescapeFrom false (text.length + 1) text.toList
        put (v.text (String.ofList cs))
        if stop then modify fun f => { f with stopped := true }
      else if c == 'q' then put (v.text (Quoting.backslashed ((← nextArg).getD "")))
      else if c == 'Q' then
        let text := (← nextArg).getD ""
        let text := match v.precision with
          | some n => String.ofList (text.toList.take n)
          | none => text
        put (({ v with precision := none } : Conversion).text (Quoting.backslashed text))
      else if c == 'c' then
        let text := (← nextArg).getD ""
        let shown := match text.toList.head? with
          | some c => c.toString
          | none => (Char.ofNat 0).toString
        put (({ v with precision := none } : Conversion).text shown)
      else if c == 's' then put (v.text ((← nextArg).getD ""))
      else if c == 'n' then
        let name := (← nextArg).getD ""
        let written := (String.join (← get).out).length
        let keep : Sh Unit := do
          let _ ← assignNamed name (toString written)
        keep
      else if c == 'd' || c == 'i' then put (v.signed (← signedArg))
      else if "ouxX".toList.contains c then put (v.unsigned c (← unsignedArg))
      else if "aAeEfFgG".toList.contains c then put ((← realArg).format v c)
      else
        warn ("\x60" ++ c.toString ++ "\x27: invalid format character")
        modify fun f => { f with failed := true, stopped := true }
      pure rest

/-- The text of an escape in a format, behind its backslash, and the rest. -/
def formatEscape (cs : List Char) : List Char × List Char :=
  match digitsAt? 8 3 cs with
  | some (n, rest) => ([Char.ofNat (n % 256)], rest)
  | none =>
    match cs with
    | '"' :: rest => (['"'], rest)
    | '\x27' :: rest => (['\x27'], rest)
    | '?' :: rest => (['?'], rest)
    | _ => (escape? false cs).getD (['\\'], cs)

/-- Goes through a format once; each step takes a character at least, so `limit` may be its length. -/
def formatOnce : (limit : Nat) → List Char → Format Unit
  | 0, _ => pure ()
  | _, [] => pure ()
  | limit + 1, '\\' :: 'c' :: rest => do
    put "\\c"
    formatOnce limit rest
  | limit + 1, '\\' :: rest => do
    let (text, rest) := formatEscape rest
    put (String.ofList text)
    formatOnce limit rest
  | limit + 1, '%' :: '%' :: rest => do
    put "%"
    formatOnce limit rest
  | limit + 1, '%' :: rest => do
    let rest ← convert rest
    if !(← get).stopped then formatOnce limit rest
  | limit + 1, c :: rest => do
    put c.toString
    formatOnce limit rest

/-- Goes through a format until all arguments are used up; every round but the last uses one at least, so
`limit` may be their number and one. -/
def formatAll (format : List Char) : (limit : Nat) → Format Unit
  | 0 => pure ()
  | limit + 1 => do
    let before := (← get).args.length
    formatOnce (format.length + 1) format
    let f ← get
    if !f.stopped && f.args.length < before && !f.args.isEmpty then formatAll format limit

/-- Writes its arguments by a format, or assigns the result to a variable. -/
def printf (args : List String) : Sh Nat :=
  withOptions "v:" args fun g => do
    let name := g.value? 'v'
    match name with
    | some n =>
      if !isReference n then
        warn ("\x60" ++ n ++ "\x27: not a valid identifier")
        return 2
    | none => pure ()
    match g.rest with
    | [] =>
      showUsage
      pure 2
    | format :: args =>
      let (_, f) ← (formatAll format.toList (args.length + 1)).run { args := args }
      let text := String.join f.out.reverse
      let status := if f.faulty || f.failed then 1 else 0
      match name with
      | some n => do
        let worked ← assignNamed n text
        pure (if worked then status else 1)
      | none => do
        print text
        pure status

end HardenAudit.ExtendedShell.Builtin
