import HardenAudit.Program.Display

/-!
# Copying in blocks: `dd`

The input is read block by block and written block by block; blocks may have other sizes in the
output than in the input, and their bytes may be changed on the way.  At the end the numbers of
whole and of partial blocks are reported.
-/

namespace HardenAudit.Program

open Kernel (Opening Refusal Work)
open Text (Bytes)

/-- How much is said about a transfer. -/
inductive Telling where
  | nothing
  /-- The numbers of the blocks. -/
  | blocks
  /-- Also how long it took. -/
  | everything
  deriving DecidableEq, Repr, Inhabited

/-- A length, in blocks or in bytes. -/
structure Extent where
  number : Nat := 0
  inBytes : Bool := false
  deriving DecidableEq, Repr, Inhabited

namespace Extent

/-- The whole blocks of a length, and the bytes behind them. -/
def parts (e : Extent) (size : Nat) : Nat × Nat :=
  if e.inBytes then (e.number / size, e.number % size) else (e.number, 0)

/-- The bytes of a length. -/
def bytes (e : Extent) (size : Nat) : Nat := if e.inBytes then e.number else e.number * size

end Extent

/-- What is to be copied, and how. -/
structure Transfer where
  input : Option String := none
  output : Option String := none
  /-- The size of the blocks on both sides, which are then written as they are read. -/
  size : Option Nat := none
  inputSize : Nat := 512
  outputSize : Nat := 512
  count : Option Extent := none
  skip : Extent := {}
  seek : Extent := {}
  changes : List String := []
  inputFlags : List String := []
  outputFlags : List String := []
  telling : Telling := .everything
  deriving Inhabited

/-- Blocks so far, whole and partial ones, on both sides, and the bytes written. -/
structure Counts where
  wholeIn : Nat := 0
  partialIn : Nat := 0
  wholeOut : Nat := 0
  partialOut : Nat := 0
  written : Nat := 0
  deriving Inhabited

namespace Transfer

/-! ## Operands -/

/-- What a unit behind a number multiplies it by. -/
def unit? (text : String) : Option Nat :=
  match text with
  | "" | "c" | "B" => some 1
  | "w" => some 2
  | "b" => some 512
  | "kB" | "KB" => some 1000
  | "k" | "K" | "KiB" => some 1024
  | "MB" => some 1000000
  | "M" | "MiB" => some 1048576
  | "GB" => some 1000000000
  | "G" | "GiB" => some 1073741824
  | _ => none

/-- A number with a unit. -/
def plain? (text : String) : Option Nat :=
  let digits := text.toList.takeWhile Char.isDigit
  if digits.isEmpty then none
  else (unit? (String.ofList (text.toList.drop digits.length))).map
    ((Shell.digits 10 digits 0 0).1 * ·)

/-- A number, or a product of numbers. -/
def number? (text : String) : Option Nat := do
  let factors ← (text.splitOn "x").mapM plain?
  some (factors.foldl (· * ·) 1)

/-- The ways in which bytes may be changed. -/
def knownChanges : List String :=
  ["ascii", "ebcdic", "ibm", "block", "unblock", "lcase", "ucase", "sparse", "swab", "sync",
   "noerror", "nocreat", "excl", "notrunc", "fdatasync", "fsync"]

/-- What may be asked for on either side. -/
def knownFlags : List String :=
  ["append", "direct", "directory", "dsync", "noatime", "nocache", "nofollow", "nonblock", "sync",
   "fullblock", "count_bytes", "skip_bytes", "seek_bytes"]

/-- The words of a list, which must be known ones. -/
def words (known : List String) (what text : String) : Except String (List String) :=
  (text.splitOn ",").mapM fun w =>
    if known.contains w then .ok w else .error (what ++ ": " ++ quote w)

/-- Takes up one operand.  An error of the first kind comes with a hint at the help. -/
def operand (t : Transfer) (arg : String) : Except (Bool × String) Transfer := do
  let name := String.ofList (arg.toList.takeWhile (· != '='))
  if name.length = arg.length then throw (true, "unrecognized operand " ++ quote arg)
  let text := String.ofList (arg.toList.drop (name.length + 1))
  let listed (known : List String) (what : String) : Except (Bool × String) (List String) :=
    (words known what text).mapError (true, ·)
  let number (least : Nat) : Except (Bool × String) Nat :=
    match number? text with
    | some n => if n < least then .error (false, "invalid number: " ++ quote text) else .ok n
    | none => .error (false, "invalid number: " ++ quote text)
  let extent : Except (Bool × String) Extent := do
    pure { number := ← number 0, inBytes := text.toList.contains 'B' }
  match name with
  | "if" => pure { t with input := some text }
  | "of" => pure { t with output := some text }
  | "conv" => pure { t with changes := t.changes ++ (← listed knownChanges "invalid conversion") }
  | "iflag" => pure { t with inputFlags := t.inputFlags ++ (← listed knownFlags "invalid input flag") }
  | "oflag" => pure { t with outputFlags := t.outputFlags ++ (← listed knownFlags "invalid output flag") }
  | "status" =>
    match text with
    | "none" => pure { t with telling := .nothing }
    | "noxfer" => pure { t with telling := .blocks }
    | "progress" => pure { t with telling := .everything }
    | _ => throw (true, "invalid status level: " ++ quote text)
  | "bs" => pure { t with size := some (← number 1) }
  | "ibs" => pure { t with inputSize := ← number 1 }
  | "obs" => pure { t with outputSize := ← number 1 }
  | "cbs" =>
    let _ ← number 1
    pure t
  | "count" => pure { t with count := some (← extent) }
  | "skip" | "iseek" => pure { t with skip := ← extent }
  | "seek" | "oseek" => pure { t with seek := ← extent }
  | _ => throw (true, "unrecognized operand " ++ quote arg)

/-- Two changes that exclude each other. -/
def clash? (t : Transfer) : Option String :=
  let both (a b : String) : Bool := t.changes.contains a && t.changes.contains b
  if both "block" "unblock" then some "cannot combine block and unblock"
  else if both "lcase" "ucase" then some "cannot combine lcase and ucase"
  else if both "excl" "nocreat" then some "cannot combine excl and nocreat"
  else none

/-- The transfer with everything in its place after all operands were taken up. -/
def settled (t : Transfer) : Transfer :=
  let t := match t.size with
    | some n => { t with inputSize := n, outputSize := n }
    | none => t
  let bytes (e : Extent) (flag : Bool) : Extent := { e with inBytes := e.inBytes || flag }
  { t with
    count := t.count.map (bytes · (t.inputFlags.contains "count_bytes"))
    skip := bytes t.skip (t.inputFlags.contains "skip_bytes")
    seek := bytes t.seek (t.outputFlags.contains "seek_bytes") }

/-! ## Names for messages -/

def inputName (t : Transfer) : String := t.input.getD "standard input"

def outputName (t : Transfer) : String := t.output.getD "standard output"

/-! ## Blocks -/

/-- Are blocks written as they are read? -/
def isDirect (t : Transfer) : Bool :=
  t.size.isSome && !t.changes.any (["block", "unblock", "lcase", "ucase", "swab", "ascii", "ebcdic",
    "ibm"].contains ·)

/-- Pairs of bytes in exchanged order; a single one at the end stays. -/
def swapped : Bytes → Bytes
  | a :: b :: rest => b :: a :: swapped rest
  | rest => rest

/-- The bytes of a block after all changes. -/
def changed (t : Transfer) (bytes : Bytes) : Bytes :=
  let mapped (f : Char → Char) : Bytes :=
    bytes.map fun b => if b < 128 then (f (Char.ofNat b.toNat)).toNat.toUInt8 else b
  let bytes :=
    if t.changes.contains "lcase" then mapped Char.toLower
    else if t.changes.contains "ucase" then mapped Char.toUpper
    else bytes
  if t.changes.contains "swab" then swapped bytes else bytes

/-- Reads a block; only with `full` is a short piece filled up by more reading. -/
def readBlock (fd size : Nat) (full : Bool) : Work (Except Refusal Bytes) :=
  Work.iterate (fun (got : Bytes) => do
    match ← Work.ask (.read fd (size - got.length)) with
    | .error e => pure (.inr (.error e))
    | .ok [] => pure (.inr (.ok got))
    | .ok more =>
      let got := got ++ more
      if full && got.length < size then pure (.inl got) else pure (.inr (.ok got)))
    Kernel.endless []

/-- Writes all of a block. -/
def writeBlock (bytes : Bytes) (fd : Nat) : Work (Option Refusal) :=
  Work.iterate (fun (left : Bytes) => do
    if left.isEmpty then pure (.inr none)
    else
      match ← Work.ask (.write fd left) with
      | .ok count => pure (.inl (left.drop count))
      | .error e => pure (.inr (some e))) Kernel.endless bytes

/-! ## The end -/

/-- A size with at most one digit behind the point in a system of units. -/
def humanSize (base : Nat) (units : List String) (n : Nat) : String :=
  let rec go : List String → Nat → String
    | [], scale => toString (n / scale)
    | unit :: rest, scale =>
      if n < scale * base || rest.isEmpty then
        let tenths := (n * 10 + scale - 1) / scale
        (if tenths < 100 then toString (tenths / 10) ++ "." ++ toString (tenths % 10)
          else toString ((n + scale / 2) / scale)) ++ " " ++ unit
      else go rest (scale * base)
  go units base

/-- What is said of the bytes written. -/
def bytesText (n : Nat) : String :=
  let small := humanSize 1000 ["kB", "MB", "GB", "TB"] n
  let large := humanSize 1024 ["KiB", "MiB", "GiB", "TiB"] n
  if n = 1 then "1 byte copied"
  else if n < 1000 then toString n ++ " bytes copied"
  else if n < 1024 then toString n ++ " bytes (" ++ small ++ ") copied"
  else toString n ++ " bytes (" ++ small ++ ", " ++ large ++ ") copied"

/-- Reports what was done since a time. -/
def summary (t : Transfer) (start : Nat) (n : Counts) : Work Unit := do
  if t.telling != .nothing then
    printError (toString n.wholeIn ++ "+" ++ toString n.partialIn ++ " records in\n"
      ++ toString n.wholeOut ++ "+" ++ toString n.partialOut ++ " records out\n")
    if t.telling == .everything then
      let time := max 1 ((← Work.ask .now) - start)
      let fraction := toString (1000000 + time % 1000000)
      let rate := n.written * 1000000 / time
      printError (bytesText n.written ++ ", " ++ toString (time / 1000000) ++ "."
        ++ String.ofList (fraction.toList.drop 1) ++ " s, "
        ++ humanSize 1000 ["kB", "MB", "GB", "TB"] rate ++ "/s\n")

/-- Ends with a message and the report. -/
def failing {α : Type} (t : Transfer) (name : String) (start : Nat) (n : Counts) (message : String) :
    Work α := do
  report name message
  t.summary start n
  Work.exit 1

/-! ## Starting places -/

/-- Reads past the start of an input that cannot be moved in; gives the number of bytes passed. -/
def readPast (t : Transfer) : (blocks : Nat) → (bytes passed : Nat) → Work Nat
  | 0, 0, passed => pure passed
  | 0, bytes, passed => do
    match ← readBlock 0 bytes (t.inputFlags.contains "fullblock") with
    | .ok more => pure (passed + more.length)
    | .error _ => pure passed
  | blocks + 1, bytes, passed => do
    match ← readBlock 0 t.inputSize (t.inputFlags.contains "fullblock") with
    | .ok [] => pure passed
    | .ok more => t.readPast blocks bytes (passed + more.length)
    | .error _ => pure passed

/-- Moves to the start of what is to be read. -/
def skipInput (t : Transfer) (name : String) : Work Unit := do
  let wanted := t.skip.bytes t.inputSize
  if wanted > 0 then
    let passed ← match ← Work.ask (.offset 0), ← Work.ask (.statusOf 0) with
      | .ok offset, .ok s =>
        if s.kind == .file then
          let passed := min wanted (s.size - offset)
          let _ ← Work.ask (.seek 0 (offset + passed))
          pure passed
        else pure wanted
      | _, _ =>
        let (blocks, bytes) := t.skip.parts t.inputSize
        t.readPast blocks bytes 0
    if passed < wanted && t.telling != .nothing then
      report name (shellQuoteIfNeeded t.inputName ++ ": cannot skip to specified offset")

/-- Moves to the start of what is to be written. -/
def seekOutput (t : Transfer) (name : String) (start : Nat) : Work Unit := do
  let wanted := t.seek.bytes t.outputSize
  if wanted > 0 then
    match ← Work.ask (.offset 1) with
    | .ok offset =>
      let _ ← Work.ask (.seek 1 (offset + wanted))
    | .error e =>
      t.failing name start {} (shellQuoteIfNeeded t.outputName ++ ": cannot seek: " ++ e.text)

/-! ## Copying -/

/-- A transfer under way: the blocks so far, bytes that do not fill a block yet, how many bytes the
last read gave, and whether a warning of short reads may still come. -/
structure Progress where
  counts : Counts := {}
  held : Bytes := []
  last : Nat := 0
  warns : Bool := false
  status : Nat := 0
  deriving Inhabited

/-- Writes all whole blocks of what is held. -/
def drain (t : Transfer) (name : String) (start : Nat) : (limit : Nat) → Progress → Work Progress
  | 0, p => pure p
  | limit + 1, p => do
    if p.held.length < t.outputSize then pure p
    else
      match ← writeBlock (p.held.take t.outputSize) 1 with
      | some e =>
        t.failing name start p.counts ("writing to " ++ shellQuote t.outputName ++ ": " ++ e.text)
      | none =>
        let n := p.counts
        t.drain name start limit
          { p with
            counts := { n with wholeOut := n.wholeOut + 1, written := n.written + t.outputSize }
            held := p.held.drop t.outputSize }

/-- Writes what is left at the end. -/
def finish (t : Transfer) (name : String) (start : Nat) (p : Progress) : Work Nat := do
  let n := p.counts
  if p.held.isEmpty then
    t.summary start n
  else
    match ← writeBlock p.held 1 with
    | some e =>
      t.failing name start n ("error writing " ++ shellQuote t.outputName ++ ": " ++ e.text)
    | none =>
      t.summary start
        { n with partialOut := n.partialOut + 1, written := n.written + p.held.length }
  pure p.status

/-- Handles a block that was read. -/
def takeBlock (t : Transfer) (name : String) (start : Nat) (bytes : Bytes) (p : Progress) :
    Work Progress := do
  let n := p.counts
  let isWhole := bytes.length ≥ t.inputSize
  let n := if isWhole then { n with wholeIn := n.wholeIn + 1 }
    else { n with partialIn := n.partialIn + 1 }
  let bytes := if !isWhole && t.changes.contains "sync" then
      bytes ++ List.replicate (t.inputSize - bytes.length) 0
    else bytes
  if t.isDirect then
    match ← writeBlock bytes 1 with
    | some e =>
      t.failing name start n ("error writing " ++ shellQuote t.outputName ++ ": " ++ e.text)
    | none =>
      let n := { n with written := n.written + bytes.length }
      let n := if bytes.length ≥ t.inputSize then { n with wholeOut := n.wholeOut + 1 }
        else { n with partialOut := n.partialOut + 1 }
      pure { p with counts := n }
  else
    let held := p.held ++ t.changed bytes
    t.drain name start (held.length / t.outputSize) { p with counts := n, held := held }

/-- Warns of short reads, once: a second read after a short one shows that the count of blocks does
not fix the number of bytes. -/
def warned (t : Transfer) (name : String) (got : Nat) (p : Progress) : Work Progress := do
  if p.warns && got > 0 && p.last > 0 && p.last < t.inputSize then
    if t.telling != .nothing then
      report name ("warning: partial read (" ++ toString p.last
        ++ (if p.last = 1 then " byte" else " bytes") ++ "); suggest iflag=fullblock")
    pure { p with warns := false, last := got }
  else pure { p with last := got }

/-- Copies everything. -/
def copy (t : Transfer) (name : String) (start : Nat) : Work Nat := do
  let full := t.inputFlags.contains "fullblock"
  let limit := t.count.map (·.parts t.inputSize)
  let counted := t.skip.number > 0 || (limit.map fun l => decide (l.1 > 0)).getD false
  let first : Progress := { warns := t.isDirect && !full && counted }
  let done (p : Progress) : Work (Progress ⊕ Nat) := do pure (.inr (← t.finish name start p))
  Work.iterate (fun (p : Progress) => do
    let taken := p.counts.wholeIn + p.counts.partialIn
    let size := match limit with
      | none => t.inputSize
      | some (blocks, bytes) => if taken < blocks then t.inputSize
        else if taken = blocks then bytes else 0
    if size = 0 then done p
    else
      match ← readBlock 0 size full with
      | .error e =>
        report name ("error reading " ++ shellQuote t.inputName ++ ": " ++ e.text)
        done { p with status := 1 }
      | .ok [] => done p
      | .ok bytes =>
        let p ← t.warned name bytes.length p
        pure (.inl (← t.takeBlock name start bytes p))) Kernel.endless first

/-- Opens a file in place of one of the first two descriptors. -/
def openAs (fd : Nat) (path : String) (how : Opening) : Work (Option Refusal) := do
  match ← Work.ask (.openFile path how) with
  | .error e => pure (some e)
  | .ok new =>
    if new != fd then
      let _ ← Work.ask (.assign new fd)
      close new
    pure none

/-- Opens what is to be written. -/
def openOutput (t : Transfer) (name path : String) : Work Unit := do
  let keeps := t.changes.contains "notrunc"
  let moves := t.seek.number > 0
  let how : Opening :=
    { writable := true, create := !t.changes.contains "nocreat",
      exclusive := t.changes.contains "excl", truncate := !keeps && !moves,
      append := t.outputFlags.contains "append" }
  match ← openAs 1 path how with
  | some e => giveUp name 1 ("failed to open " ++ shellQuote path ++ ": " ++ e.text)
  | none =>
    if moves && !keeps then
      let _ ← Work.ask (.change (.resize path (t.seek.bytes t.outputSize)))

end Transfer

/-- Copies a file in blocks. -/
def dd : Program := fun argv _ => do
  let c ← call (.make "" []) 1 argv
  let rec takeUp : List String → Transfer → Work Transfer
    | [], t => pure t
    | arg :: rest, t =>
      match t.operand arg with
      | .ok t => takeUp rest t
      | .error (true, message) => misuse c.name 1 message
      | .error (false, message) => giveUp c.name 1 message
  let t := (← takeUp c.rest {}).settled
  if let some message := t.clash? then giveUp c.name 1 message
  if let some path := t.input then
    if let some e ← Transfer.openAs 0 path .input then
      giveUp c.name 1 ("failed to open " ++ shellQuote path ++ ": " ++ e.text)
  if let some path := t.output then t.openOutput c.name path
  let start ← Work.ask .now
  t.skipInput c.name
  t.seekOutput c.name start
  t.copy c.name start

end HardenAudit.Program
