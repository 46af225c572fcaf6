import HardenAudit.Shell.Format
import HardenAudit.Shell.Options

/-!
# Commands that write: `echo` and `printf`
-/

namespace HardenAudit.Shell.Builtin

open Sh

/-- Writes its arguments with blanks between them and a line end behind them. -/
def echo (args : List String) : Sh Nat := do
  let (silent, words) := match args with
    | "-n" :: rest => (true, rest)
    | _ => (false, args)
  let rec go : List String → Sh Unit
    | [] => if silent then pure () else print "\n"
    | w :: rest => do
      let (text, stop) := unescape w
      print text
      if !stop then
        if !rest.isEmpty then print " "
        go rest
  go words
  pure 0

/-- A format under way: the arguments that are left, and whether a number was bad. -/
structure Formatting where
  args : List String
  faulty : Bool := false
  stopped : Bool := false
  deriving Inhabited

/-- A command that formats. -/
abbrev Format := StateT Formatting Sh

/-- The next argument. -/
def nextArg : Format (Option String) := do
  let f ← get
  set { f with args := f.args.drop 1 }
  pure f.args.head?

/-- Reports what is wrong with a number. -/
def fault (text : String) (present atEnd inRange : Bool) : Format Unit := do
  let complain (message : String) : Format Unit := do
    warn (text ++ ": " ++ message)
    modify fun f => { f with faulty := true }
  if !atEnd then
    complain (if present then "not completely converted" else "expected numeric value")
  else if !inRange then complain "Numerical result out of range"

/-- The code of a character behind a quote. -/
def quotedCode? (text : String) : Option Nat :=
  match text.toList with
  | q :: rest => if q == '"' || q == '\x27' then some ((rest.head?.map (·.toNat)).getD 0) else none
  | [] => none

/-- The next argument as a number with a sign. -/
def signedArg : Format Int := do
  match ← nextArg with
  | none => pure 0
  | some text =>
    match quotedCode? text with
    | some n => pure (n : Int)
    | none =>
      let n := integer 0 text.toList
      fault text n.present n.rest.isEmpty (inRange n.value)
      pure (clamp n.value)

/-- The next argument as a number without a sign; a negative one counts from the end of the range. -/
def unsignedArg : Format Nat := do
  match ← nextArg with
  | none => pure 0
  | some text =>
    match quotedCode? text with
    | some n => pure n
    | none =>
      let n := integer 0 text.toList
      let fits := n.value.natAbs ≤ 0xFFFFFFFFFFFFFFFF
      fault text n.present n.rest.isEmpty fits
      pure (if fits then (n.value % 0x10000000000000000).toNat else 0xFFFFFFFFFFFFFFFF)

/-- The next argument as a number with a point. -/
def realArg : Format Real := do
  match ← nextArg with
  | none => pure (.finite false (.zero .double))
  | some text =>
    match quotedCode? text with
    | some n => pure (.finite false (.ofNat .double n))
    | none =>
      let r := Real.read .double text.toList
      fault text r.present r.rest.isEmpty (!r.outOfRange)
      pure r.value

/-- A number that is written in a format, or is given by an argument. -/
def measure (cs : List Char) : Format (Option Int × List Char × List Char) := do
  match cs with
  | '*' :: rest =>
    let n ← signedArg
    let low := (n % 0x100000000).toNat
    let n : Int := if low < 0x80000000 then low else (low : Int) - 0x100000000
    pure (some n, ['*'], rest)
  | _ =>
    let ds := cs.takeWhile Char.isDigit
    let n : Option Int := if ds.isEmpty then none else some ((digits 10 ds 0 0).1 : Nat)
    pure (n, ds, cs.drop ds.length)

/-- Carries out one conversion, behind its sign; gives what is left of the format. -/
def convert (cs : List Char) : Format (List Char) := do
  let put (text : String) : Format Unit := print text
  let refuse (message : String) : Format Unit := (fail message : Sh Unit)
  let flags := cs.takeWhile ("#-+ 0".toList.contains ·)
  let (width, widthText, rest) ← measure (cs.drop flags.length)
  let (precision, precisionText, rest) ← match rest with
    | '.' :: more => do
      let (n, text, rest) ← measure more
      pure (some (n.getD 0), '.' :: text, rest)
    | _ => pure (none, [], rest)
  let v := (Conversion.withFlags flags).withWidth (width.getD 0)
  let v := match precision with
    | some p => v.withPrecision p
    | none => v
  match rest with
  | [] =>
    refuse "missing format character"
    pure []
  | c :: rest =>
    if c == 'b' then
      let (text, stop) := unescape ((← nextArg).getD "")
      put (v.text text)
      if stop then modify fun f => { f with stopped := true }
    else if c == 'c' then
      let text := (← nextArg).getD ""
      let c := text.toList.head?.getD (Char.ofNat 0)
      put (({ v with precision := none } : Conversion).text c.toString)
    else if c == 's' then
      put (v.text ((← nextArg).getD ""))
    else if c == 'd' || c == 'i' then
      put (v.signed (← signedArg))
    else if "ouxX".toList.contains c then
      put (v.unsigned c (← unsignedArg))
    else if "aAeEfFgG".toList.contains c then
      put ((← realArg).format v c)
    else
      refuse ("%" ++ String.ofList (flags ++ widthText ++ precisionText ++ [c]) ++ ": invalid directive")
    pure rest

/-- Goes through a format once; each step takes a character at least, so `limit` may be its length. -/
def formatOnce : (limit : Nat) → List Char → Format Unit
  | 0, _ => pure ()
  | _, [] => pure ()
  | limit + 1, '\\' :: rest => do
    let (c, rest) := formatEscape rest
    print c.toString
    formatOnce limit rest
  | limit + 1, '%' :: '%' :: rest => do
    print "%"
    formatOnce limit rest
  | limit + 1, '%' :: rest => do
    let rest ← convert rest
    if !(← get).stopped then formatOnce limit rest
  | limit + 1, c :: rest => do
    print c.toString
    formatOnce limit rest

/-- Goes through a format until all arguments are used up; every round but the last uses one at
least, so `limit` may be their number and one. -/
def formatAll (format : List Char) : (limit : Nat) → Format Unit
  | 0 => pure ()
  | limit + 1 => do
    let before := (← get).args.length
    formatOnce (format.length + 1) format
    let f ← get
    if !f.stopped && f.args.length < before && !f.args.isEmpty then formatAll format limit

/-- Writes its arguments by a format. -/
def printf (args : List String) : Sh Nat := do
  let g ← given "" args
  match g.rest with
  | [] => fail "usage: printf format [arg ...]"
  | format :: args =>
    let (_, f) ← (formatAll format.toList (args.length + 1)).run { args := args }
    pure (if f.faulty then 1 else 0)

end HardenAudit.Shell.Builtin
