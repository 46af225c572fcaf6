import HardenAudit.Program.Basic
import HardenAudit.Shell.Format

/-!
# Writing by a format: `printf`
-/

namespace HardenAudit.Program.Format

open Kernel (Work)
open Shell (Conversion)

/-- Formatting under way: the arguments that are left, and what has happened. -/
structure State where
  name : String
  args : List String
  used : Bool := false
  faulty : Bool := false
  stopped : Bool := false
  deriving Inhabited

/-- Formatting. -/
abbrev Formatting := StateT State Work

/-- Writes a text. -/
def emit (text : String) : Formatting Unit := do
  StateT.lift (put (← get).name text)

/-- The next argument. -/
def next? : Formatting (Option String) := do
  let s ← get
  match s.args with
  | a :: rest =>
    set { s with args := rest, used := true }
    pure (some a)
  | [] => pure none

/-- Reports a fault of an argument. -/
def fault (word message : String) : Formatting Unit := do
  StateT.lift (report (← get).name (quote word ++ ": " ++ message))
  modify fun s => { s with faulty := true }

/-- Checks how a number was read. -/
def check (word : String) (present : Bool) (rest : List Char) (fits : Bool) : Formatting Unit := do
  if word != "" then
    if !present then fault word "expected a numeric value"
    else if !fits then fault word "Numerical result out of range"
    else if !rest.isEmpty then fault word "value not completely converted"

/-- The code of a character behind a quote. -/
def quotedCode? (word : String) : Option Nat :=
  match word.toList with
  | q :: c :: _ => if q == '\x27' || q == '"' then some c.toNat else none
  | _ => none

/-- The next argument as a number. -/
def integerArg (signed : Bool) : Formatting Int := do
  match ← next? with
  | none => pure 0
  | some word =>
    match quotedCode? word with
    | some n => pure n
    | none =>
      let n := Shell.integer 0 word.toList
      let fits := if signed then Shell.inRange n.value else n.value.natAbs ≤ 0xFFFFFFFFFFFFFFFF
      check word n.present n.rest fits
      pure (if signed then Shell.clamp n.value
        else if fits then n.value % 0x10000000000000000 else 0xFFFFFFFFFFFFFFFF)

/-- The next argument as a number with a point. -/
def realArg : Formatting Shell.Real := do
  match ← next? with
  | none => pure (.finite false (.zero .extended))
  | some word =>
    match quotedCode? word with
    | some n => pure (.finite false (.ofNat .extended n))
    | none =>
      let r := Shell.Real.read .extended word.toList
      check word r.present r.rest (!r.outOfRange)
      pure r.value

/-- The character of an escape behind its backslash, or its characters, and the rest; `none` for an end
of all output. -/
def escape (zeroFirst : Bool) (cs : List Char) : Option (List Char × List Char) :=
  let code (base most : Nat) (cs : List Char) : Option (Nat × List Char) :=
    let ds := (cs.take most).takeWhile fun c => (Shell.digitValue? base c).isSome
    if ds.isEmpty then none else some ((Shell.digits base ds 0 0).1, cs.drop ds.length)
  match cs with
  | 'c' :: _ => none
  | 'x' :: rest =>
    match code 16 2 rest with
    | some (n, rest) => some ([Char.ofNat n], rest)
    | none => some (['\\', 'x'], rest)
  | 'u' :: rest =>
    match code 16 4 rest with
    | some (n, rest) => some ((Text.Raw.ofText (Char.ofNat n).toString).toList, rest)
    | none => some (['\\', 'u'], rest)
  | '"' :: rest => some (['"'], rest)
  | c :: rest =>
    let start := if zeroFirst && c == '0' then rest else cs
    match code 8 3 start with
    | some (n, rest) => some ([Char.ofNat (n % 256)], rest)
    | none =>
      if c == '0' then some ([Char.ofNat 0], rest)
      else
        match Shell.letterEscape? c with
        | some e => some ([e], rest)
        | none => some (['\\', c], rest)
  | [] => some (['\\'], [])

/-- A text with its escapes replaced, and whether all output ends; `limit` may be the length. -/
def unescape : (limit : Nat) → List Char → List Char × Bool
  | 0, cs => (cs, false)
  | _, [] => ([], false)
  | limit + 1, '\\' :: rest =>
    match escape true rest with
    | none => ([], true)
    | some (cs, rest) =>
      let (more, stop) := unescape limit rest
      (cs ++ more, stop)
  | limit + 1, c :: rest =>
    let (more, stop) := unescape limit rest
    (c :: more, stop)

/-- A number that is written in a format, or is given by an argument. -/
def measure (cs : List Char) : Formatting (Option Int × List Char) := do
  match cs with
  | '*' :: rest =>
    let n ← integerArg true
    pure (some n, rest)
  | _ =>
    let ds := cs.takeWhile Char.isDigit
    let n : Option Int := if ds.isEmpty then none else some ((Shell.digits 10 ds 0 0).1 : Nat)
    pure (n, cs.drop ds.length)

/-- Carries out one conversion, behind its sign; gives what is left of the format. -/
def convert (cs : List Char) : Formatting (List Char) := do
  let flags := cs.takeWhile ("#-+ 0'".toList.contains ·)
  let (width, rest) ← measure (cs.drop flags.length)
  let (precision, rest) ← match rest with
    | '.' :: more => do
      let (n, rest) ← measure more
      pure (some (n.getD 0), rest)
    | _ => pure (none, rest)
  let v := (Conversion.withFlags flags).withWidth (width.getD 0)
  let v := match precision with
    | some p => v.withPrecision p
    | none => v
  let refuse (taken : List Char) : Formatting (List Char) := do
    StateT.lift (giveUp (← get).name 1 ("%" ++ String.ofList taken
      ++ ": invalid conversion specification"))
  match rest with
  | [] => refuse cs
  | c :: rest =>
    match c with
    | 'b' =>
      let word := (← next?).getD ""
      let (text, stop) := unescape (word.length + 1) word.toList
      emit (v.text (String.ofList text))
      if stop then modify fun s => { s with stopped := true }
    | 'q' => emit (v.text (shellQuoteIfNeeded ((← next?).getD "")))
    | 'c' =>
      let word := (← next?).getD ""
      emit (({ v with precision := none } : Conversion).text (String.ofList (word.toList.take 1)))
    | 's' => emit (v.text ((← next?).getD ""))
    | c =>
      if c == 'd' || c == 'i' then emit (v.signed (← integerArg true))
      else if "ouxX".toList.contains c then emit (v.unsigned c (← integerArg false).toNat)
      else if "aAeEfFgG".toList.contains c then emit ((← realArg).format v c)
      else
        let _ ← refuse (cs.take (cs.length - rest.length))
        pure ()
    pure rest

/-- Goes through a format once; each step takes a character at least, so `limit` may be its length. -/
def once : (limit : Nat) → List Char → Formatting Unit
  | 0, _ => pure ()
  | _, [] => pure ()
  | limit + 1, '\\' :: rest => do
    match escape false rest with
    | none => modify fun s => { s with stopped := true }
    | some (cs, rest) =>
      emit (String.ofList cs)
      once limit rest
  | limit + 1, '%' :: '%' :: rest => do
    emit "%"
    once limit rest
  | limit + 1, '%' :: rest => do
    let rest ← convert rest
    if !(← get).stopped then once limit rest
  | limit + 1, c :: rest => do
    let plain := rest.takeWhile fun c => c != '\\' && c != '%'
    emit (String.ofList (c :: plain))
    once limit (rest.drop plain.length)

/-- Goes through a format until all arguments are used up; every round but the last uses one at least,
so `limit` may be their number and one. -/
def all (format : List Char) : (limit : Nat) → Formatting Unit
  | 0 => pure ()
  | limit + 1 => do
    modify fun s => { s with used := false }
    once (format.length + 1) format
    let s ← get
    if !s.stopped && s.used && !s.args.isEmpty then all format limit
    else if !s.stopped then
      if let a :: _ := s.args then
        StateT.lift (report s.name ("warning: ignoring excess arguments, starting with " ++ quote a))

end HardenAudit.Program.Format

namespace HardenAudit.Program

/-- Writes its arguments by a format. -/
def printf : Program := fun argv _ => do
  let name := argv.head?.getD ""
  let args := match argv.drop 1 with
    | "--" :: rest => rest
    | args => args
  match args with
  | [] => misuse name 1 "missing operand"
  | format :: args =>
    let ((), s) ← (Format.all format.toList (args.length + 1)).run { name := name, args := args }
    pure (if s.faulty then 1 else 0)

end HardenAudit.Program
