import HardenAudit.Program.Display

/-!
# Bytes as numbers: `od`

Bytes are shown in rows, once for each type that is asked for.  The cells of all types fill the same
width, so that the same bytes stand below each other.
-/

namespace HardenAudit.Program

open Kernel (Work)

namespace Dump

/-- How the bytes of a cell are shown. -/
inductive CellKind where
  | character
  | name
  | octal
  | hex
  | unsigned
  | signed
  /-- A number with a point. -/
  | floating (w : Width)
  deriving DecidableEq, Repr, Inhabited

/-- A way to show bytes: how cells are shown, how many bytes are in one, and whether the characters
follow at the end of a row. -/
structure Cells where
  kind : CellKind
  size : Nat := 1
  trailer : Bool := false
  deriving Repr, Inhabited

/-- Numbers of 32 bits in all. -/
def single : Width := ⟨24, -149, 104⟩

namespace Cells

/-- The width of a cell. -/
def width (c : Cells) : Nat :=
  match c.kind with
  | .character | .name => 3
  | .hex => 2 * c.size
  | .octal => (8 * c.size + 2) / 3
  | .unsigned => if c.size = 1 then 3 else if c.size = 2 then 5 else if c.size = 4 then 10 else 20
  | .signed => if c.size = 1 then 4 else if c.size = 2 then 6 else if c.size = 4 then 11 else 20
  | .floating w => if w.bits = 24 then 15 else if w.bits = 53 then 24 else 29

/-- The names of the bytes that are not shown as themselves. -/
def controlNames : List String :=
  ["nul", "soh", "stx", "etx", "eot", "enq", "ack", "bel", "bs", "ht", "nl", "vt", "ff", "cr", "so",
   "si", "dle", "dc1", "dc2", "dc3", "dc4", "nak", "syn", "etb", "can", "em", "sub", "esc", "fs",
   "gs", "rs", "us", "sp"]

/-- The number that some bytes are, the lowest first. -/
def value (bytes : List Char) : Nat := bytes.foldr (fun b n => b.toNat + 256 * n) 0

/-- The number with a point that some bytes are, given as a number. -/
def realOf (w : Width) (n : Nat) : Shell.Real :=
  let powers := if w.bits = 24 then 256 else if w.bits = 53 then 2048 else 32768
  /- The leading bit of a full mantissa is written in the widest numbers only. -/
  let hidden := w.bits < 64
  let unit := if hidden then w.leadingBit else 2 * w.leadingBit
  let fraction := n % unit
  let power := n / unit % powers
  let negative := n / unit / powers % 2 == 1
  if power = powers - 1 then
    if fraction % w.leadingBit = 0 then .infinite negative else .undefined negative
  else if power = 0 then .finite negative ⟨w, fraction, w.least⟩
  else .finite negative ⟨w, fraction + (if hidden then w.leadingBit else 0), w.least + power - 1⟩

/-- The fewest digits that read back as a number, from a number of digits on that any number keeps. -/
def shortest (r : Shell.Real) : String :=
  let written (digits : Nat) : String := r.format { precision := some digits } 'g'
  match r with
  | .finite _ x =>
    let kept := if x.width.bits = 24 then 6 else if x.width.bits = 53 then 15 else 18
    let first := if x.isSmall then 1 else kept
    let back (digits : Nat) : Bool :=
      match (Shell.Real.read x.width (written digits).toList).value with
      | .finite _ y => y.ratio == x.ratio
      | _ => false
    written ((((List.range 22).drop first).find? back).getD 21)
  | _ => written 6

/-- A cell. -/
def cell (c : Cells) (bytes : List Char) : String :=
  let n := value bytes
  let zeros (text : String) : String :=
    String.ofList (List.replicate (c.width - text.length) '0') ++ text
  match c.kind with
  | .character =>
    match n with
    | 0 => "\\0"
    | _ =>
      let b := Char.ofNat n
      if isPlain b then b.toString
      else if 7 ≤ n && n ≤ 13 then String.ofList (escaped b)
      else String.ofList (octal n)
  | .name =>
    let low := n % 128
    if low = 127 then "del" else (controlNames[low]?).getD (Char.ofNat low).toString
  | .octal => zeros (Shell.inBase 8 n)
  | .hex => zeros (Shell.inBase 16 n)
  | .unsigned => toString n
  | .signed =>
    let half := Nat.pow 2 (8 * c.size - 1)
    if n ≥ half then "-" ++ toString (2 * half - n) else toString n
  | .floating w => shortest (realOf w n)

end Cells

/-! ## Types -/

/-- The size behind the letter of a type, and the rest. -/
def sizeOf? (letters : List (Char × Nat)) (standard : Nat) (cs : List Char) : Nat × List Char :=
  match cs with
  | c :: rest =>
    match letters.lookup c with
    | some n => (n, rest)
    | none =>
      let (n, count, rest) := Shell.digits 10 cs 0 0
      if count = 0 then (standard, cs) else (n, rest)
  | [] => (standard, [])

/-- The types that a text asks for; each takes a letter at least, so `limit` may be its length. -/
def typesOf (whole : String) : (limit : Nat) → List Char → Except String (List Cells)
  | 0, _ => .ok []
  | _, [] => .ok []
  | limit + 1, c :: rest => do
    let finished (kind : CellKind) (size : Nat) (rest : List Char) : Except String (List Cells) := do
      let trailer := rest.head? == some 'z'
      let more ← typesOf whole limit (if trailer then rest.drop 1 else rest)
      .ok (⟨kind, size, trailer⟩ :: more)
    let lacking (size : Nat) (what : String) : Except String (List Cells) :=
      .error ("invalid type string " ++ quote whole ++ ";\nthis system doesn't provide a " ++ toString size
        ++ "-byte " ++ what ++ " type")
    let whole? (kind : CellKind) : Except String (List Cells) :=
      let (size, rest) := sizeOf? [('C', 1), ('S', 2), ('I', 4), ('L', 8)] 4 rest
      if [1, 2, 4, 8].contains size then finished kind size rest else lacking size "integral"
    match c with
    | 'd' => whole? .signed
    | 'o' => whole? .octal
    | 'u' => whole? .unsigned
    | 'x' => whole? .hex
    | 'f' =>
      let (size, rest) := sizeOf? [('F', 4), ('D', 8), ('L', 16)] 8 rest
      match size with
      | 4 => finished (.floating single) 4 rest
      | 8 => finished (.floating .double) 8 rest
      | 16 => finished (.floating .extended) 16 rest
      | _ => lacking size "floating point"
    | 'a' => finished .name 1 rest
    | 'c' => finished .character 1 rest
    | c => .error ("invalid character '" ++ c.toString ++ "' in type string " ++ quote whole)

/-- The types that an option of one letter stands for. -/
def letterTypes : List (Char × String) :=
  [('a', "a"), ('b', "o1"), ('c', "c"), ('d', "u2"), ('D', "u4"), ('e', "fD"), ('f', "fF"), ('F', "fD"),
   ('h', "x2"), ('H', "x4"), ('i', "dI"), ('I', "dL"), ('l', "dL"), ('L', "dL"), ('o', "o2"), ('B', "o2"),
   ('O', "o4"), ('s', "d2"), ('x', "x2"), ('X', "x4")]

/-! ## Rows -/

/-- A dump: how bytes are shown, in which base their places are, and how many are in a row. -/
structure Layout where
  ways : List Cells := []
  base : Option Nat := some 8
  row : Nat := 16
  /-- Are rows shown that are the same as the one before? -/
  everything : Bool := false
  /-- Does the highest byte of a number come first? -/
  highFirst : Bool := false
  deriving Inhabited

namespace Layout

/-- A place. -/
def place (d : Layout) (n : Nat) : String :=
  match d.base with
  | none => ""
  | some b =>
    let text := Shell.inBase b n
    String.ofList (List.replicate ((if b = 16 then 6 else 7) - text.length) '0') ++ text

/-- A row under one type: the blanks that fill it are spread over its cells. -/
def line (d : Layout) (bytes : List Char) (c : Cells) : String :=
  let fields := d.row / c.size
  let widest := (d.ways.map fun w => (w.width + 1) * (d.row / w.size)).foldl max 0
  let spare := widest - c.width * fields
  let left (i : Nat) : Nat := spare * i / fields
  let cells := rowsOf c.size bytes.length bytes
  let shown := ((List.range cells.length).zip cells).map fun (i, b) =>
    let b := if d.highFirst then b.reverse else b
    rightAligned (left (fields - i) - left (fields - i - 1) + c.width) (c.cell b)
  let blank := (d.row - bytes.length) / c.size
  let trailer := if c.trailer then
      String.ofList (List.replicate (blank * c.width + spare * blank / fields) ' ') ++ "  >"
        ++ String.ofList (bytes.map fun b => if isPlain b then b else '.') ++ "<"
    else ""
  String.join shown ++ trailer

/-- A row. -/
def rowText (d : Layout) (n : Nat) (bytes : List Char) : String :=
  let start := d.place n
  let blank := String.ofList (List.replicate start.length ' ')
  String.join ((d.ways.zip (List.range d.ways.length)).map fun (c, i) =>
    (if i = 0 then start else blank) ++ d.line bytes c ++ "\n")

/-- All rows from a place on; `last` is the row before, and whether rows like it were left out. -/
def rows (d : Layout) : (n : Nat) → (last : Option (List Char)) → (skipping : Bool) →
    List (List Char) → List String
  | n, _, _, [] => [match d.base with
    | some _ => d.place n ++ "\n"
    | none => ""]
  | n, last, skipping, r :: rest =>
    if !d.everything && last == some r && r.length = d.row then
      (if skipping then [] else ["*\n"]) ++ d.rows (n + r.length) last true rest
    else d.rowText n r :: d.rows (n + r.length) (some r) false rest

/-- The number of bytes that cells of all types fill. -/
def unit (d : Layout) : Nat := (d.ways.map (·.size)).foldl Nat.lcm 1

end Layout

/-! ## Options -/

/-- The number of bytes that an option asks for. -/
def bytesOf (name : String) (letter : Char) (text : String) : Work Nat := do
  let n := Shell.unsigned (if letter == 'w' then 10 else 0) (text.toList.dropWhile isGap)
  let argument := "-" ++ letter.toString ++ " argument " ++ quote text
  if !n.present then giveUp name 1 ("invalid " ++ argument)
  else if letter == 'w' then
    if n.rest.isEmpty then pure n.value.toNat else giveUp name 1 ("invalid suffix in " ++ argument)
  else
    match multiplier? n.rest with
    | some k =>
      if n.value.toNat * k > 0xFFFFFFFFFFFFFFFF then giveUp name 1 (argument ++ " too large")
      else pure (n.value.toNat * k)
    | none => giveUp name 1 ("invalid suffix in " ++ argument)

/-- What a call asks for: the layout, the bytes to leave out and to show, the width that was given, and
whether all types are right. -/
structure Asked where
  layout : Layout := {}
  skipped : Nat := 0
  limit : Option Nat := none
  width : Option Nat := none
  fine : Bool := true
  deriving Inhabited

/-- What is asked for with one more option. -/
def Asked.withOption (name : String) (a : Asked) (c : Char) (value : Option String) : Work Asked := do
  let text := value.getD ""
  let typed (text : String) : Work Asked :=
    match typesOf text (text.length + 1) text.toList with
    | .ok ways => pure { a with layout := { a.layout with ways := a.layout.ways ++ ways } }
    | .error message => do
      report name message
      pure { a with fine := false }
  match c with
  | 'A' =>
    let based (b : Option Nat) : Work Asked := pure { a with layout := { a.layout with base := b } }
    match text.toList.head? with
    | some 'd' => based (some 10)
    | some 'o' => based (some 8)
    | some 'x' => based (some 16)
    | some 'n' => based none
    | other => giveUp name 1 ("invalid output address radix '" ++ ((other.map Char.toString).getD "\x00")
        ++ "'; it must be one character from [doxn]")
  | 'j' => do pure { a with skipped := ← bytesOf name 'j' text }
  | 'N' => do
    let n ← bytesOf name 'N' text
    pure { a with limit := some n }
  | 't' => typed text
  | 'v' => pure { a with layout := { a.layout with everything := true } }
  | 'w' =>
    match value with
    | none => pure { a with width := some 32 }
    | some _ => do
      let n ← bytesOf name 'w' text
      pure { a with width := some n }
  | 'E' => do
    let chosen ← choose name "--endian" text [["little"], ["big"]]
    pure { a with layout := { a.layout with highFirst := chosen == "big" } }
  | c =>
    match letterTypes.lookup c with
    | some types => typed types
    | none => pure a

end Dump

open Dump in
/-- Shows the bytes of files as numbers. -/
def od : Program := fun argv _ => do
  let name := argv.head?.getD ""
  let args := argv.drop 1
  let o := Options.make "A:aBbcDdeFfHhIij:LlN:OoS::st:vw::Xx"
    [("address-radix", 'A'), ("skip-bytes", 'j'), ("read-bytes", 'N'), ("format", 't'),
     ("output-duplicates", 'v'), ("width", 'w')]
  let o := { o with names := ("endian", 'E', .value) :: o.names }
  let (c, wrong) := gatherArguments o args.length args
  let a ← c.options.foldlM (fun a (letter, value) => Asked.withOption name a letter value) {}
  if let some message := wrong then misuse name 1 message
  if !a.fine then Work.exit 1
  let d := if a.layout.ways.isEmpty then { a.layout with ways := [⟨.octal, 2, false⟩] } else a.layout
  /- The bytes of all files, those to leave out, and whether a file could be opened. -/
  let rec read : List String → (text : List String) → (skip : Nat) → (opened : Bool) → (status : Nat) →
      Work (List String × Nat × Bool × Nat)
    | [], text, skip, opened, status => pure (text, skip, opened, status)
    | path :: rest, text, skip, opened, status => do
      match ← contentOf path with
      | .ok more =>
        /- Any place can be reached in a device. -/
        let isDevice : Bool ← do match ← (if path = "-" then Work.ask (.statusOf 0) else Work.ask (.inspect path)) with
          | .ok s => pure (s.kind == .device)
          | .error _ => pure false
        read rest (String.ofList (more.toList.drop skip) :: text)
          (if isDevice then 0 else skip - more.length) true status
      | .error e =>
        report name (shellQuoteIfNeeded path ++ ": " ++ e.text)
        let isRead := e == .file .isDirectory
        read rest text (if isRead then 0 else skip) (opened || isRead) 1
  let (text, left, opened, status) ← read (if c.rest.isEmpty then ["-"] else c.rest) [] a.skipped false 0
  if !opened then pure status
  else
    if left > 0 then giveUp name 1 "cannot skip past end of combined input"
    let unit := d.unit
    let row ← match a.width with
      | none => pure (if unit < 16 then unit * (16 / unit) else unit)
      | some w =>
        if w != 0 && w % unit = 0 then pure w
        else do
          report name ("warning: invalid width " ++ toString w ++ "; using " ++ toString unit ++ " instead")
          pure unit
    let d := { d with row := row }
    let bytes := (String.join text.reverse).toList
    let bytes := match a.limit with
      | some n => bytes.take n
      | none => bytes
    put name (String.join (d.rows a.skipped none false (rowsOf d.row bytes.length bytes)))
    pure status

end HardenAudit.Program
