import HardenAudit.Program.Display

/-!
# Parts of lines: `cut`, `paste`, `rev`, `fold`
-/

namespace HardenAudit.Program

open Kernel (Refusal Work)

/-! ## Cutting -/

/-- Ranges of numbers, each with its last one if it has one. -/
abbrev Ranges := List (Nat × Option Nat)

/-- Is a number in one of the ranges? -/
def Ranges.hold (r : Ranges) (n : Nat) : Bool :=
  r.any fun (a, b) => a ≤ n && b.all (n ≤ ·)

/-- Which parts of a line are counted. -/
inductive Counted where
  | bytes
  | fields
  deriving DecidableEq, Repr, Inhabited

/-- The range that a text is. -/
def rangeOf (what : Counted) (text : String) : Except String (Nat × Option Nat) := do
  let wrong {α : Type} (cs : List Char) : Except String α :=
    .error ((if what == .fields then "invalid field value " else "invalid byte/character position ")
      ++ quote (String.ofList cs))
  let zero {α : Type} : Except String α :=
    .error (if what == .fields then "fields are numbered from 1"
      else "byte/character positions are numbered from 1")
  let cs := text.toList
  let (a, first, rest) := Shell.digits 10 cs 0 0
  match rest with
  | [] =>
    if first = 0 || a = 0 then zero
    pure (a, some a)
  | '-' :: rest =>
    if first > 0 && a = 0 then zero
    let (b, last, more) := Shell.digits 10 rest 0 0
    match more with
    | [] =>
      if first = 0 && last = 0 then throw "invalid range with no endpoint: -"
      let a := if first = 0 then 1 else a
      if last > 0 && b < a then throw "invalid decreasing range"
      pure (a, if last = 0 then none else some b)
    | '-' :: _ =>
      throw (if what == .fields then "invalid field range" else "invalid byte or character range")
    | cs => wrong cs
  | cs => wrong cs

/-- The ranges that a list is. -/
def rangesOf (what : Counted) (text : String) : Except String Ranges :=
  let text := String.ofList (text.toList.map fun c => if c == ' ' || c == '\t' then ',' else c)
  (text.splitOn ",").mapM (rangeOf what)

/-- How lines are cut. -/
structure Cut where
  what : Counted
  ranges : Ranges
  complement : Bool := false
  divider : Char := '\t'
  /-- Are lines without a divider left out? -/
  onlyDivided : Bool := false
  joiner : Option String := none
  deriving Inhabited

/-- Numbers in a row are joined into one part. -/
def unbroken : List (Nat × Char) → List (List Char)
  | [] => []
  | (n, c) :: rest =>
    match rest, unbroken rest with
    | (m, _) :: _, row :: rows => if m = n + 1 then (c :: row) :: rows else [c] :: row :: rows
    | _, rows => [c] :: rows

/-- What is left of a line; none if it is left out. -/
def Cut.line? (k : Cut) (line : String) : Option String :=
  let chosen (n : Nat) : Bool := k.ranges.hold n != k.complement
  match k.what with
  | .bytes =>
    let cs := line.toList
    let kept := ((List.range cs.length).map (· + 1)).zip cs |>.filter fun p => chosen p.1
    match k.joiner with
    | none => some (String.ofList (kept.map (·.2)))
    | some j => some (j.intercalate ((unbroken kept).map String.ofList))
  | .fields =>
    let d := k.divider.toString
    match line.splitOn d with
    | [one] => if k.onlyDivided then none else some one
    | parts =>
      let kept := ((List.range parts.length).map (· + 1)).zip parts |>.filter fun p => chosen p.1
      some ((k.joiner.getD d).intercalate (kept.map (·.2)))

/-- Shows parts of the lines of files. -/
def cut : Program := fun argv _ => do
  let o := Options.make "b:c:d:f:nszko:"
    [("bytes", 'b'), ("characters", 'c'), ("delimiter", 'd'), ("fields", 'f'), ("only-delimited", 's'),
     ("complement", 'k'), ("output-delimiter", 'o'), ("zero-terminated", 'z')]
  let name := argv.head?.getD ""
  let wrong {α : Type} (message : String) : Work α := misuse name 1 message
  let args := argv.drop 1
  let (c, mistake) := gatherArguments o args.length args
  let isList (letter : Char) : Bool := "bcf".toList.contains letter
  let _ ← c.options.foldlM (fun (listed : Bool) (letter, value) => do
    if letter == 'd' && (value.getD "").length > 1 then
      wrong "the delimiter must be a single character"
    if listed && isList letter then wrong "only one list may be specified"
    pure (listed || isList letter)) false
  if let some message := mistake then wrong message
  match c.options.find? (isList ·.1) with
  | none => wrong "you must specify a list of bytes, characters, or fields"
  | some (letter, value) =>
    let what : Counted := if letter == 'f' then .fields else .bytes
    if what == .bytes && c.has 'd' then
      wrong "an input delimiter may be specified only when operating on fields"
    if what == .bytes && c.has 's' then
      wrong "suppressing non-delimited lines makes sense\n\tonly when operating on fields"
    let ranges ← match rangesOf what (value.getD "") with
      | .ok r => pure r
      | .error message => wrong message
    let divider := match c.value? 'd' with
      | some d => d.toList.head?.getD '\x00'
      | none => '\t'
    let k : Cut :=
      { what := what, ranges := ranges, complement := c.has 'k', divider := divider
        onlyDivided := c.has 's', joiner := c.value? 'o' }
    let failed (path : String) (e : Refusal) : Work Unit :=
      report name (shellQuoteIfNeeded path ++ ": " ++ e.text)
    let lineEnd := if c.has 'z' then "\x00" else "\n"
    let step (_ : String) : LineStep Unit := fun _ line _ =>
      { state := (), out := ((k.line? line).map (· ++ lineEnd)).getD "" }
    let p ← throughFiles name failed step (fun s _ => s) lineEnd
      (if c.rest.isEmpty then ["-"] else c.rest) { state := () }
    pure p.status

/-! ## Joining -/

/-- The dividers of a list with escapes; none stands for nothing between.  There are none if the list
ends within an escape. -/
def dividersOf? : List Char → Option (List (Option Char))
  | ['\\'] => none
  | '\\' :: c :: rest =>
    (dividersOf? rest).map fun more =>
      (match c with
        | '0' => none
        | 'b' => some '\x08'
        | 'f' => some '\x0c'
        | 'n' => some '\n'
        | 'r' => some '\r'
        | 't' => some '\t'
        | 'v' => some '\x0b'
        | c => some c) :: more
  | c :: rest => (dividersOf? rest).map (some c :: ·)
  | [] => some []

/-- Texts with dividers between them, taken in turn. -/
def joinedBy (dividers : List (Option Char)) (texts : List String) : String :=
  let dividers := if dividers.isEmpty then [none] else dividers
  let (out, _) := texts.foldl (fun (acc : String × Nat) t =>
    let before := if acc.2 = 0 then "" else
      match (dividers[(acc.2 - 1) % dividers.length]?).getD none with
      | some d => d.toString
      | none => ""
    (acc.1 ++ before ++ t, acc.2 + 1)) ("", 0)
  out

/-- Files side by side: the lines with the same numbers; `limit` bounds the numbers. -/
def sideBySide (dividers : List (Option Char)) (lineEnd : String) :
    (limit : Nat) → List (List String) → String
  | 0, _ => ""
  | limit + 1, files =>
    if files.all List.isEmpty then ""
    else
      joinedBy dividers (files.map fun f => f.head?.getD "") ++ lineEnd
        ++ sideBySide dividers lineEnd limit (files.map (·.drop 1))

/-- Lines of the input dealt out to several files in turn. -/
def dealt (lines : List String) (count index : Nat) : List String :=
  ((List.range lines.length).zip lines).filterMap fun (i, l) =>
    if i % count == index then some l else none

/-- Shows the lines of files side by side, or each file on one line. -/
def paste : Program := fun argv _ => do
  let c ← call (.make "d:sz" [("delimiters", 'd'), ("serial", 's'), ("zero-terminated", 'z')]) 1 argv
  let paths := if c.rest.isEmpty then ["-"] else c.rest
  let list := (c.value? 'd').getD "\t"
  let dividers ← match dividersOf? list.toList with
    | some ds => pure ds
    | none => giveUp c.name 1 ("delimiter list ends with an unescaped backslash: " ++ list)
  let lineEnd := if c.has 'z' then "\x00" else "\n"
  let linesOf (text : String) : List String :=
    let parts := text.splitOn lineEnd
    if parts.getLast? == some "" then parts.dropLast else parts
  let failed (path : String) (e : Refusal) : Work Unit :=
    report c.name (shellQuoteIfNeeded path ++ ": " ++ e.text)
  if c.has 's' then
    eachOf paths fun path => do
      match ← contentOf path with
      | .ok text =>
        put c.name (joinedBy dividers (linesOf text) ++ lineEnd)
        pure 0
      | .error e =>
        /- A file that can be opened has a line, even if nothing is read. -/
        if e == .file .isDirectory then put c.name lineEnd
        failed path e
        pure 1
  else
    for path in paths do
      if path != "-" then
        match ← Work.ask (.openFile path .input) with
        | .ok fd => close fd
        | .error e =>
          failed path e
          Work.exit 1
    let input ← if paths.contains "-" then contentOf "-" else pure (.ok "")
    let inputLines := match input with
      | .ok text => linesOf text
      | .error _ => []
    let dashes := (paths.filter (· == "-")).length
    let (_, status, files) ← paths.foldlM (fun (acc : Nat × Nat × List (List String)) path => do
      let (place, status, files) := acc
      if path = "-" then
        pure (place + 1, status, files ++ [dealt inputLines dashes place])
      else
        match ← contentOf path with
        | .ok text => pure (place, status, files ++ [linesOf text])
        | .error e =>
          failed path e
          pure (place, 1, files ++ [[]])) (0, 0, [])
    let longest := files.foldl (fun n f => max n f.length) 0
    put c.name (sideBySide dividers lineEnd longest files)
    pure status

/-! ## Changing lines -/

/-- Handles the lines of the files of a call. -/
def eachLine {σ : Type} [Inhabited σ] (c : Call) (start : σ) (step : LineStep σ) : Work Nat := do
  let failed (path : String) (e : Refusal) : Work Unit :=
    report c.name (shellQuoteIfNeeded path ++ ": " ++ e.text)
  let p ← throughFiles c.name failed (fun _ => step) (fun s _ => s) "\n"
    (if c.rest.isEmpty then ["-"] else c.rest) { state := start }
  pure p.status

/-- Shows the characters of each line from the last to the first. -/
def rev : Program := fun argv _ => do
  let c ← call (.make "" []) 1 argv
  let failed (path : String) (e : Refusal) : Work Unit :=
    report c.name ((if e == .file .isDirectory then "" else "cannot open ") ++ path ++ ": " ++ e.text)
  let step : LineStep Unit := fun _ line ended =>
    { state := (), out := String.ofList line.toList.reverse ++ (if ended then "\n" else "") }
  let p ← throughFiles c.name failed (fun _ => step) (fun s _ => s) "\n"
    (if c.rest.isEmpty then ["-"] else c.rest) { state := () }
  pure p.status

/-- Breaks a line where it is too wide: the column, the line so far in reverse, and what is done.  With
`atBlanks` the break is behind the last blank, if there is one. -/
def folded (width : Nat) (bytes atBlanks : Bool) (line : List Char) : List Char :=
  let advance (column : Nat) (c : Char) : Nat :=
    if bytes then column + 1
    else if c == '\t' then column - column % 8 + 8
    else if c == '\x08' then column - 1
    else if c == '\r' then 0
    else column + 1
  let columnOf (cs : List Char) : Nat := cs.foldl advance 0
  let (out, row) := line.foldl (fun (acc : List Char × List Char) c =>
    let (out, row) := acc
    if row.isEmpty || advance (columnOf row.reverse) c ≤ width then (out, c :: row)
    else
      let tail := row.takeWhile fun c => !(c == ' ' || c == '\t')
      if atBlanks && tail.length < row.length then
        ('\n' :: row.drop tail.length ++ out, c :: tail)
      else ('\n' :: row ++ out, [c])) ([], [])
  (row ++ out).reverse

/-- Breaks lines that are too wide. -/
def fold : Program := fun argv _ => do
  let name := argv.head?.getD ""
  let args := argv.drop 1
  let o := Options.make "bsw:0::1::2::3::4::5::6::7::8::9::"
    [("bytes", 'b'), ("spaces", 's'), ("width", 'w')]
  let (c, wrong) := gatherArguments o args.length args
  let width ← c.options.foldlM (fun (width : Nat) (letter, value) => do
    let sized (text : String) : Work Nat := do
      let n ← numberBetween name "invalid number of columns" text 1 0x7FFFFFFFFFFFFFFF
      pure n.toNat
    if letter == 'w' then sized (value.getD "")
    else if letter.isDigit then sized (letter.toString ++ value.getD "")
    else pure width) 80
  if let some message := wrong then misuse name 1 message
  eachLine { c with name := name } () fun _ line ended =>
    { state := ()
      out := String.ofList (folded width (c.has 'b') (c.has 's') line.toList)
        ++ (if ended then "\n" else "") }

end HardenAudit.Program
