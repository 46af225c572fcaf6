import HardenAudit.Program.Files
import HardenAudit.Program.Stream
import HardenAudit.Shell.Format

/-!
# Programs that show files and texts
-/

namespace HardenAudit.Program

open Kernel (Refusal Status Work)

/-! ## Whole files -/

/-- How `cat` shows a text. -/
structure CatStyle where
  number : Bool := false
  numberFilled : Bool := false
  squeeze : Bool := false
  ends : Bool := false
  tabs : Bool := false
  unprintable : Bool := false
  deriving Inhabited

/-- A character of a line as `cat` shows it. -/
def CatStyle.char (s : CatStyle) (c : Char) : List Char :=
  let low (n : Nat) : List Char :=
    if n < 32 then ['^', Char.ofNat (n + 64)] else if n == 127 then ['^', '?'] else [Char.ofNat n]
  let n := c.toNat
  if n == 9 then (if s.tabs then ['^', 'I'] else [c])
  else if !s.unprintable then [c]
  else if n < 128 then low n
  else ['M', '-'] ++ low (n - 128)

/-- Lines so far, and empty lines in a row. -/
abbrev CatState := Nat × Nat × Bool

/-- A number at the right end of some columns. -/
def rightAligned (width : Nat) (text : String) : String :=
  String.ofList (List.replicate (width - text.length) ' ') ++ text

/-- One line as `cat` shows it; `midway` tells that the line goes on one that had no end. -/
def CatStyle.line (s : CatStyle) : LineStep CatState := fun (count, blanks, midway) line ended =>
  let empty := line == "" && !midway
  if s.squeeze && empty && blanks ≥ 1 then { state := (count, blanks + 1, false) }
  else
    let numbered := !midway && (if s.numberFilled then line != "" else s.number)
    let count := if numbered then count + 1 else count
    let start := if numbered then rightAligned 6 (toString count) ++ "\t" else ""
    let text := String.ofList (line.toList.flatMap s.char)
    { state := (count, if empty then blanks + 1 else 0, !ended)
      out := start ++ text ++ (if ended then (if s.ends then "$\n" else "\n") else "") }

/-- Would copying a file to the output go on for ever, because it is the output? -/
def feedsItself (fd : Nat) : Work Bool := do
  match ← Work.ask (.statusOf fd), ← Work.ask (.statusOf 1) with
  | .ok a, .ok b =>
    if a.kind == .file && b.kind == .file && a.same b then
      let at_ ← Work.ask (.offset fd)
      let end_ ← Work.ask (.offset 1)
      match at_, end_ with
      | .ok x, .ok y => pure (x < (if y = 0 then b.size else y))
      | _, _ => pure false
    else pure false
  | _, _ => pure false

/-- Copies a descriptor to the output. -/
def passOn (name : String) (fd : Nat) : Work (Except Refusal Unit) :=
  Work.iterate (fun (_ : Unit) => do
    match ← Work.ask (.read fd chunkSize) with
    | .ok [] => pure (.inr (.ok ()))
    | .ok bytes =>
      put name (Text.Raw.ofBytes bytes)
      pure (.inl ())
    | .error e => pure (.inr (.error e))) Kernel.endless ()

/-- Shows files one after the other; a dash stands for the input. -/
def cat : Program := fun argv _ => do
  let c ← call (.make "AbeEnstTuv"
    [("show-all", 'A'), ("number-nonblank", 'b'), ("number", 'n'), ("show-ends", 'E'),
     ("squeeze-blank", 's'), ("show-nonprinting", 'v'), ("show-tabs", 'T')]) 1 argv
  let any (letters : String) : Bool := letters.toList.any c.has
  let style : CatStyle :=
    { number := c.has 'n', numberFilled := c.has 'b', squeeze := c.has 's', ends := any "AeE",
      tabs := any "AtT", unprintable := any "Aevt" }
  let plain := !any "AbeEnstTv"
  if let .error e ← Work.ask (.statusOf 1) then giveUp c.name 1 ("standard output: " ++ e.text)
  let failed (path : String) (e : Refusal) : Work Unit :=
    report c.name (shellQuoteIfNeeded path ++ ": " ++ e.text)
  let rec go : List String → CatState → (status : Nat) → Work Nat
    | [], _, status => pure status
    | path :: rest, s, status => do
      let source ← if path = "-" then pure (.ok 0) else Work.ask (.openFile path .input)
      match source with
      | .error e =>
        failed path e
        go rest s 1
      | .ok fd =>
        let leave (s : CatState) (status : Nat) : Work Nat := do
          if path != "-" then close fd
          go rest s status
        if ← feedsItself fd then
          report c.name (shellQuoteIfNeeded path ++ ": input file is output file")
          leave s 1
        else if plain then
          match ← passOn c.name fd with
          | .ok _ => leave s status
          | .error e =>
            failed path e
            leave s 1
        else
          match ← streamLines c.name fd s style.line with
          | .ok (s, _) => leave s status
          | .error e =>
            failed path e
            leave s 1
  go (if c.rest.isEmpty then ["-"] else c.rest) (0, 0, false) 0

/-- Copies the input to the output and to files. -/
def tee : Program := fun argv _ => do
  let c ← call (.make "aip" [("append", 'a'), ("ignore-interrupts", 'i')]) 1 argv
  let how : Kernel.Opening := if c.has 'a' then .extension else .output
  let rec openAll : List String → Work (List (String × Nat) × Nat)
    | [] => pure ([], 0)
    | path :: rest => do
      let first ← Work.ask (.openFile path how)
      let (files, status) ← match first with
        | .ok fd => do
          let (files, status) ← openAll rest
          pure ((path, fd) :: files, status)
        | .error e => do
          report c.name (shellQuoteIfNeeded path ++ ": " ++ e.text)
          let (files, _) ← openAll rest
          pure (files, 1)
      pure (files, status)
  let (files, status) ← openAll c.rest
  let copied ← Work.iterate (fun (status : Nat) => do
    match ← Work.ask (.read 0 chunkSize) with
    | .ok [] => pure (.inr status)
    | .ok bytes =>
      let text := Text.Raw.ofBytes bytes
      let failures ← (("'standard output'", 1) :: files).mapM fun (path, fd) => do
        match ← writeAll fd text with
        | none => pure 0
        | some e =>
          report c.name (shellQuoteIfNeeded path ++ ": " ++ e.text)
          pure 1
      pure (.inl (failures.foldl max status))
    | .error e =>
      report c.name ("read error: " ++ e.text)
      pure (.inr 1)) Kernel.endless status
  pure copied

/-! ## Counts with units -/

/-- What a letter behind a count multiplies it by. -/
def multiplier? : List Char → Option Nat
  | [] => some 1
  | ['b'] => some 512
  | ['k'] | ['K'] | ['K', 'i', 'B'] => some 1024
  | ['k', 'B'] | ['K', 'B'] => some 1000
  | ['m'] | ['M'] | ['M', 'i', 'B'] => some 1048576
  | ['M', 'B'] => some 1000000
  | ['G'] | ['G', 'i', 'B'] => some 1073741824
  | ['G', 'B'] => some 1000000000
  | ['T'] | ['T', 'i', 'B'] => some 1099511627776
  | ['T', 'B'] => some 1000000000000
  | _ => none

/-- A count with a letter behind it. -/
def count? (cs : List Char) : Option Nat :=
  let ds := cs.takeWhile Char.isDigit
  if ds.isEmpty then none
  else (multiplier? (cs.drop ds.length)).map (· * (Shell.digits 10 ds 0 0).1)

/-! ## Counting -/

/-- The counts of a text. -/
structure Tally where
  lines : Nat := 0
  words : Nat := 0
  bytes : Nat := 0
  longest : Nat := 0
  deriving Inhabited

/-- Is the character a blank between words? -/
def isGap (c : Char) : Bool := c == ' ' || (9 ≤ c.toNat && c.toNat ≤ 13)

/-- Words of a text so far, and whether the last character was in one. -/
def countWords (cs : List Char) : Nat :=
  (cs.foldl (fun (n, inWord) c =>
    if isGap c then (n, false)
    else if inWord || !isPlain c then (n, inWord) else (n + 1, true)) (0, false)).1

/-- The width of a line on a screen. -/
def lineWidth (line : List Char) : Nat :=
  line.foldl (fun n c => if c == '\t' then (n / 8 + 1) * 8 else if isPlain c then n + 1 else n) 0

/-- The counts of a text. -/
def Tally.ofText (text : String) : Tally where
  lines := text.toList.foldl (fun n c => if c == '\n' then n + 1 else n) 0
  words := countWords text.toList
  bytes := text.length
  longest := ((linesOf text).1.map fun l => lineWidth l.toList).foldl max 0

/-- Two counts together. -/
def Tally.add (a b : Tally) : Tally :=
  ⟨a.lines + b.lines, a.words + b.words, a.bytes + b.bytes, max a.longest b.longest⟩

/-- Tally lines, words and bytes. -/
def wc : Program := fun argv _ => do
  let c ← call (.make "clLmw"
    [("bytes", 'c'), ("chars", 'm'), ("lines", 'l'), ("words", 'w'), ("max-line-length", 'L')]) 1 argv
  let none_ := c.options.isEmpty
  let shown (n : Tally) : List Nat :=
    (if c.has 'l' || none_ then [n.lines] else []) ++ (if c.has 'w' || none_ then [n.words] else [])
      ++ (if c.has 'm' then [n.bytes] else []) ++ (if c.has 'c' || none_ then [n.bytes] else [])
      ++ (if c.has 'L' then [n.longest] else [])
  let paths := if c.rest.isEmpty then ["-"] else c.rest
  let statuses ← paths.mapM fun path =>
    if path = "-" then Work.ask (.statusOf 0) else inspect path
  let sizes := statuses.filterMap Except.toOption
  let total := sizes.foldl (fun n s => if s.kind == .file then n + s.size else n) 0
  let least := if sizes.any (·.kind != .file) then 7 else 1
  let firstFails := match statuses.head? with
    | some (.error _) => true
    | _ => false
  let width := if (paths.length = 1 && (shown {}).length = 1) || firstFails then 1
    else max least (toString total).length
  let line (n : Tally) (path : Option String) : String :=
    " ".intercalate ((shown n).map fun k => rightAligned width (toString k))
      ++ (match path with
        | some p => " " ++ p
        | none => "") ++ "\n"
  let rec go : List String → Tally → (status : Nat) → Work (Tally × Nat)
    | [], sum, status => pure (sum, status)
    | path :: rest, sum, status => do
      match ← contentOf path with
      | .error e =>
        report c.name (shellQuoteIfNeeded path ++ ": " ++ e.text)
        if e == .file .isDirectory then put c.name (line {} (some path))
        go rest sum 1
      | .ok text =>
        let n := Tally.ofText text
        put c.name (line n (if c.rest.isEmpty then none else some path))
        go rest (sum.add n) status
  let (sum, status) ← go paths {} 0
  if paths.length > 1 then put c.name (line sum (some "total"))
  pure status

/-! ## Texts -/

/-- The character of an escape behind its backslash, and the rest; none stops all output. -/
def echoEscape (cs : List Char) : Option (List Char × List Char) :=
  let octalFrom (cs : List Char) : List Char × List Char :=
    let ds := (cs.take 3).takeWhile fun c => (Shell.digitValue? 8 c).isSome
    ([Char.ofNat ((Shell.digits 8 ds 0 0).1 % 256)], cs.drop ds.length)
  match cs with
  | [] => some (['\\'], [])
  | 'c' :: _ => none
  | '0' :: rest => some (octalFrom rest)
  | 'x' :: rest =>
    let ds := (rest.take 2).takeWhile fun c => (Shell.digitValue? 16 c).isSome
    if ds.isEmpty then some (['\\', 'x'], rest)
    else some ([Char.ofNat (Shell.digits 16 ds 0 0).1], rest.drop ds.length)
  | c :: rest =>
    if (Shell.digitValue? 8 c).isSome then some (octalFrom cs)
    else
      match Shell.letterEscape? c with
      | some e => some ([e], rest)
      | none => some (['\\', c], rest)

/-- A text with its escapes replaced, and whether all output stops; each step takes a character, so
`limit` may be the length. -/
def echoText : (limit : Nat) → List Char → List Char × Bool
  | 0, _ => ([], false)
  | _, [] => ([], false)
  | limit + 1, '\\' :: cs =>
    match echoEscape cs with
    | none => ([], true)
    | some (found, rest) =>
      let (more, stop) := echoText limit rest
      (found ++ more, stop)
  | limit + 1, c :: cs =>
    let (more, stop) := echoText limit cs
    (c :: more, stop)

/-- Writes its arguments. -/
def echo : Program := fun argv _ => do
  let isOption (a : String) : Bool := match a.toList with
    | '-' :: c :: cs => (c :: cs).all ("neE".toList.contains ·)
    | _ => false
  let args := argv.drop 1
  let options := (args.takeWhile isOption).flatMap String.toList
  let words := args.dropWhile isOption
  let escapes := (options.filter fun c => c == 'e' || c == 'E').getLast? == some 'e'
  let text := " ".intercalate words
  let (chars, stop) := if escapes then echoText (text.length + 1) text.toList else (text.toList, false)
  put (argv.head?.getD "") (String.ofList chars ++ (if stop || options.contains 'n' then "" else "\n"))
  pure 0

/-- Writes a line for ever. -/
def yes : Program := fun argv _ => do
  let c ← call { Options.make "" [] with strict := true } 1 argv
  let line := (if c.rest.isEmpty then "y" else " ".intercalate c.rest) ++ "\n"
  let text := String.join (List.replicate (8192 / line.length + 1) line)
  Work.iterate (fun (_ : Unit) => do
    put (argv.head?.getD "") text
    pure (.inl ())) Kernel.endless ()

end HardenAudit.Program
