import HardenAudit.Program.Launching
import HardenAudit.Program.Display

/-!
# A file in pieces: `split`
-/

namespace HardenAudit.Program

open Kernel (Work)

/-- How a file is cut. -/
inductive Cutting where
  | lines (count : Nat)
  | bytes (count : Nat)
  /-- Whole lines, as many as fit. -/
  | lineBytes (count : Nat)
  /-- So many pieces of the same size, or only one of them. -/
  | chunks (count : Nat) (only : Option Nat)
  /-- The same, but with whole lines. -/
  | lineChunks (count : Nat) (only : Option Nat)
  /-- Lines dealt out in turn. -/
  | dealtLines (count : Nat) (only : Option Nat)
  deriving Repr, Inhabited

namespace Cutting

/-- The lines of a text, each with its end if it has one. -/
def wholeLines (text : String) : List String :=
  let (all, whole) := linesOf text
  if whole then all.map ended
  else all.dropLast.map ended ++ (all.getLast?.filter (· != "")).toList

/-- Whole lines, as many as fit in a number of bytes; a longer line is cut. -/
def packed (size : Nat) : (limit : Nat) → List Char → List (List Char)
  | 0, _ => []
  | _, [] => []
  | limit + 1, cs =>
    let room := cs.take size
    let piece :=
      if room.length = cs.length then room
      else
        let tail := room.reverse.takeWhile (· != '\n')
        if tail.length = room.length then room else room.take (room.length - tail.length)
    piece :: packed size limit (cs.drop piece.length)

/-- Chunks of whole lines: a line goes into the chunk in which it starts. -/
def lineChunkOf (size count : Nat) (start : Nat) : Nat :=
  if size = 0 then min start (count - 1) else min (start / size) (count - 1)

/-- The pieces of a text. -/
def pieces (c : Cutting) (text : String) : List String :=
  match c with
  | .lines count =>
    let all := wholeLines text
    (rowsOf count all.length all).map String.join
  | .bytes count => (rowsOf count text.length text.toList).map String.ofList
  | .lineBytes count => (packed count text.length text.toList).map String.ofList
  | .chunks count _ =>
    let cs := text.toList
    let size := cs.length / count
    let last := count - 1
    (List.range count).map fun i =>
      String.ofList (if i = last then cs.drop (i * size) else (cs.drop (i * size)).take size)
  | .lineChunks count _ =>
    let size := text.length / count
    let (_, placed) := (wholeLines text).foldl (fun (acc : Nat × List (Nat × String)) line =>
      (acc.1 + line.length, (lineChunkOf size count acc.1, line) :: acc.2)) (0, [])
    let placed := placed.reverse
    (List.range count).map fun i =>
      String.join ((placed.filter (·.1 == i)).map (·.2))
  | .dealtLines count _ =>
    let all := wholeLines text
    (List.range count).map fun i => String.join (dealtOut all count i)
where
  dealtOut (all : List String) (count index : Nat) : List String :=
    ((List.range all.length).zip all).filterMap fun (i, l) =>
      if i % count == index then some l else none

/-- The number of the only piece that is wanted. -/
def only? : Cutting → Option Nat
  | .chunks _ only | .lineChunks _ only | .dealtLines _ only => only
  | _ => none

/-- Must the size of the input be known? -/
def needsSize : Cutting → Bool
  | .chunks .. | .lineChunks .. => true
  | _ => false

/-- The cutting into a number of pieces that a text describes. -/
def ofChunks (text : String) : Except String Cutting := do
  let wrong {α : Type} (part : String) : Except String α :=
    .error ("invalid number of chunks: " ++ quote part)
  let (kind, parts) := match text.splitOn "/" with
    | "l" :: rest => ('l', rest)
    | "r" :: rest => ('r', rest)
    | parts => (' ', parts)
  let number (part : String) : Except String Nat :=
    match Shell.plainNumber? part with
    | some (n + 1) => .ok (n + 1)
    | _ => wrong part
  let (count, only) ← match parts with
    | [count] => do pure (← number count, none)
    | [only, count] => do
      let n ← number count
      match Shell.plainNumber? only with
      | some (k + 1) =>
        if k + 1 > n then throw ("invalid chunk number: " ++ quote only)
        pure (n, some k)
      | _ => throw ("invalid chunk number: " ++ quote only)
    | _ => wrong text
  pure (match kind with
    | 'l' => .lineChunks count only
    | 'r' => .dealtLines count only
    | _ => .chunks count only)

end Cutting

/-! ## Names -/

/-- How pieces are named. -/
structure PieceNames where
  start : String
  ending : String := ""
  digits : List Char
  /-- The number of letters; if it is not fixed, it grows with the number of pieces. -/
  length : Option Nat := none
  first : Nat := 0

namespace PieceNames

/-- A number with so many digits. -/
def numeral (digits : List Char) : (length : Nat) → (n : Nat) → List Char
  | 0, _ => []
  | length + 1, n =>
    numeral digits length (n / digits.length) ++ [(digits[n % digits.length]?).getD 'a']

/-- The letters of a piece; the last digit at the start makes room for longer ones. -/
def growing (digits : List Char) : (limit length : Nat) → (n : Nat) → List Char
  | 0, length, n => numeral digits length n
  | limit + 1, length, n =>
    let base := digits.length
    let capacity := (base - 1) * Nat.pow base (length - 1)
    if n < capacity then numeral digits length n
    else (digits.getLast?.getD 'z') :: growing digits limit (length + 1) (n - capacity)

/-- The name of a piece, if there are names enough. -/
def name? (p : PieceNames) (index : Nat) : Option String :=
  let n := p.first + index
  match p.length with
  | some length =>
    if n < Nat.pow p.digits.length length then
      some (p.start ++ String.ofList (numeral p.digits length n) ++ p.ending)
    else none
  | none => some (p.start ++ String.ofList (growing p.digits 8 2 n) ++ p.ending)

end PieceNames

/-! ## The program -/

/-- The manner that the options ask for. -/
def cuttingOf (c : Call) : Except (Bool × String) Cutting := do
  let ways := c.options.filter fun o => "lbCn".toList.contains o.1
  if ways.length > 1 then throw (true, "cannot split in more than one way")
  let sized (what text : String) (read : List Char → Option Nat) : Except (Bool × String) Nat :=
    match read text.toList with
    | some 0 => .error (false, "invalid number of " ++ what ++ ": " ++ quote text
        ++ ": Numerical result out of range")
    | some n => .ok n
    | none => .error (false, "invalid number of " ++ what ++ ": " ++ quote text)
  match ways with
  | [('l', some text)] => pure (.lines (← sized "lines" text fun cs => Shell.plainNumber? (String.ofList cs)))
  | [('b', some text)] => pure (.bytes (← sized "bytes" text count?))
  | [('C', some text)] => pure (.lineBytes (← sized "lines" text count?))
  | [('n', some text)] => (Cutting.ofChunks text).mapError (false, ·)
  | _ => pure (.lines 1000)

/-- Turns a number behind a dash into an option. -/
def modernSplit (argv : List String) : List String :=
  argv.map fun a => match a.toList with
    | '-' :: c :: cs => if (c :: cs).all Char.isDigit then "-l" ++ String.ofList (c :: cs) else a
    | _ => a

/-- Hands a piece to a command, with its name in a variable. -/
def filterPiece (c : Call) (command name text : String) (env : Kernel.Environment) : Work Nat := do
  let (source, drain) ← Work.ask .pipe
  let _ ← Work.fork do
    let _ ← Work.ask (.assign source 0)
    close source
    close drain
    become c.name quote ["sh", "-c", command] (setIn env "FILE" name)
  close source
  let _ ← writeAll drain text
  close drain
  match ← Work.ask (.await true) with
  | .ended _ (.code 0) => pure 0
  | .ended _ (.code n) =>
    giveUp c.name 1 ("with FILE=" ++ name ++ ", exit " ++ toString n ++ " from command: " ++ command)
  | _ => pure 1

/-- Writes the pieces of a file to files of their own. -/
def split : Program := fun argv env => do
  let o := Options.make "a:b:C:del:n:t:ux"
    [("suffix-length", 'a'), ("bytes", 'b'), ("line-bytes", 'C'), ("elide-empty-files", 'e'),
     ("lines", 'l'), ("number", 'n'), ("separator", 't'), ("unbuffered", 'u')]
  let o := { o with names := o.names ++
    [("additional-suffix", 'S', .value), ("numeric-suffixes", 'd', .optional),
     ("hex-suffixes", 'x', .optional), ("filter", 'F', .value), ("verbose", 'V', .nothing)] }
  let c ← call o 1 (modernSplit argv)
  let cutting ← match cuttingOf c with
    | .ok k => pure k
    | .error (true, message) => misuse c.name 1 message
    | .error (false, message) => giveUp c.name 1 message
  let length ← match c.value? 'a' with
    | none => pure none
    | some text =>
      match Shell.plainNumber? text with
      | some 0 => pure none
      | some n => pure (some n)
      | none => giveUp c.name 1 ("invalid suffix length: " ++ quote text)
  let ending := (c.value? 'S').getD ""
  if ending.toList.contains '/' then
    misuse c.name 1 ("invalid suffix " ++ quote ending ++ ", contains directory separator")
  if let _ :: _ :: extra :: _ := c.rest then misuse c.name 1 ("extra operand " ++ quote extra)
  let path := c.rest.head?.getD "-"
  let digits := match c.last? ['d', 'x'] with
    | some 'd' => "0123456789"
    | some _ => "0123456789abcdef"
    | none => "abcdefghijklmnopqrstuvwxyz"
  let first := ((c.last? ['d', 'x']).bind c.value?).bind Shell.plainNumber?
  let names : PieceNames :=
    { start := (c.rest[1]?).getD "x", ending := ending, digits := digits.toList
      length := length.or (first.map fun n => max 2 (toString n).length), first := first.getD 0 }
  let source ← if path = "-" then pure (.ok 0) else Work.ask (.openFile path .input)
  match source with
  | .error e => giveUp c.name 1 ("cannot open " ++ shellQuote path ++ " for reading: " ++ e.text)
  | .ok fd =>
    let shown := shellQuoteIfNeeded path
    if cutting.needsSize then
      if let .ok s ← Work.ask (.statusOf fd) then
        if s.kind != .file then giveUp c.name 1 (shown ++ ": cannot determine file size")
    match ← slurp fd with
    | .error e => giveUp c.name 1 (shown ++ ": " ++ e.text)
    | .ok text =>
      let pieces := cutting.pieces text
      match cutting.only? with
      | some k =>
        put c.name ((pieces[k]?).getD "")
        pure 0
      | none =>
        let pieces := if c.has 'e' then pieces.filter (· != "") else pieces
        let rec go : (index : Nat) → List String → Work Nat
          | _, [] => pure 0
          | index, piece :: rest => do
            match names.name? index with
            | none => giveUp c.name 1 "output file suffixes exhausted"
            | some name =>
              if let some command := c.value? 'F' then
                if c.has 'V' then put c.name ("executing with FILE=" ++ shellQuote name ++ "\n")
                let status ← filterPiece c command name piece env
                if status != 0 then Work.exit status
                go (index + 1) rest
              else
                if c.has 'V' then put c.name ("creating file " ++ shellQuote name ++ "\n")
                match ← Work.ask (.openFile name .output) with
                | .error e => giveUp c.name 1 (shellQuoteIfNeeded name ++ ": " ++ e.text)
                | .ok out =>
                  if let some e ← writeAll out piece then
                    giveUp c.name 1 (shellQuoteIfNeeded name ++ ": " ++ e.text)
                  close out
                  go (index + 1) rest
        go 0 pieces

end HardenAudit.Program
