import HardenAudit.Program.Stream
import HardenAudit.Program.Version
import HardenAudit.Shell.Format

/-!
# The order of lines: `sort`
-/

namespace HardenAudit.Program.Order

/-! ## Keys -/

/-- How a part of a line is compared. -/
structure Manner where
  /-- Are blanks at the start left out, and before the end? -/
  skipStart : Bool := false
  skipEnd : Bool := false
  /-- The letters of the scales on which the part is a value; there should be one at most. -/
  scales : List Char := []
  fold : Bool := false
  /-- Do only letters, digits and blanks count? -/
  dictionary : Bool := false
  /-- Do only printable characters count? -/
  printable : Bool := false
  reverse : Bool := false
  deriving DecidableEq, Inhabited

/-- A part of a line: fields and characters before its start, and before its end. -/
structure Key where
  startField : Nat := 0
  startChar : Nat := 0
  finish : Option (Nat × Nat) := none
  manner : Manner := {}
  deriving Inhabited

/-- Is the character a blank? -/
def isBlank (c : Char) : Bool := c == ' ' || c == '\t' || c == '\n'

/-- A text behind so many fields; without a divider a field starts with the blanks before it. -/
def behind (divider : Option Char) : (fields : Nat) → List Char → List Char
  | 0, cs => cs
  | n + 1, cs =>
    behind divider n (match divider with
      | some d => (cs.dropWhile (· != d)).drop 1
      | none => (cs.dropWhile isBlank).dropWhile (!isBlank ·))

/-- The length of so many fields, the last one without the divider behind it. -/
def lengthOf (divider : Option Char) (fields : Nat) (cs : List Char) : Nat :=
  match divider with
  | none => cs.length - (behind none fields cs).length
  | some d =>
    let rest := behind divider (fields - 1) cs
    cs.length - (rest.dropWhile (· != d)).length

/-- The part of a line that a key stands for. -/
def Key.of (k : Key) (divider : Option Char) (line : List Char) : List Char :=
  let start := behind divider k.startField line
  let start := (if k.manner.skipStart then start.dropWhile isBlank else start).drop k.startChar
  match k.finish with
  | none => start
  | some (field, char) =>
    let size :=
      if char = 0 then lengthOf divider (field + 1) line
      else
        let rest := behind divider field line
        let trimmed := if k.manner.skipEnd then rest.dropWhile isBlank else rest
        min line.length (line.length - trimmed.length + char)
    start.take (size - (line.length - start.length))

/-- The number at the start of a text: its value in units of a power of ten. -/
def decimal (places : Nat) (cs : List Char) : Int :=
  let cs := cs.dropWhile isBlank
  let (negative, cs) := match cs with
    | '-' :: rest => (true, rest)
    | cs => (false, cs)
  let whole := cs.takeWhile Char.isDigit
  let fraction := match cs.drop whole.length with
    | '.' :: rest => rest.takeWhile Char.isDigit
    | _ => []
  let ds := whole ++ fraction ++ List.replicate (places - fraction.length) '0'
  let n : Nat := ds.foldl (fun n d => n * 10 + (d.toNat - 48)) 0
  if negative then -(n : Int) else n

/-- The rank of the unit behind a number, with its sign; zero has none. -/
def unitRank (cs : List Char) : Int :=
  let cs := cs.dropWhile isBlank
  let (negative, cs) := match cs with
    | '-' :: rest => (true, rest)
    | cs => (false, cs)
  let isPart (c : Char) : Bool := c.isDigit || c == '.'
  let rank := match (cs.dropWhile isPart).head? with
    | some c => if c == 'k' then 1 else "KMGTPEZYRQ".toList.idxOf c % 10 + (if "KMGTPEZYRQ".toList.contains c then 1 else 0)
    | none => 0
  if !(cs.takeWhile isPart).any (fun c => c.isDigit && c != '0') then 0
  else if negative then -(rank : Int) else rank

/-- The number of the month that a text starts with. -/
def monthRank (cs : List Char) : Nat :=
  let name := String.ofList (((cs.dropWhile isBlank).take 3).map Char.toUpper)
  let months := ["JAN", "FEB", "MAR", "APR", "MAY", "JUN", "JUL", "AUG", "SEP", "OCT", "NOV", "DEC"]
  if months.contains name then months.idxOf name + 1 else 0

/-- Compares numbers with points and exponents; a text that is none comes first. -/
def compareReals (a b : List Char) : Ordering :=
  let x := Shell.Real.read .extended a
  let y := Shell.Real.read .extended b
  let rank (r : Shell.Real.Reading) : Nat :=
    if !r.present then 0
    else
      match r.value with
      | .undefined _ => 1
      | .infinite true => 2
      | .finite .. => 3
      | .infinite false => 4
  match x.value, y.value with
  | .finite m v, .finite n w =>
    if rank x != rank y || !x.present then Ord.compare (rank x) (rank y)
    else
      let (p, q) := v.ratio
      let (r, t) := w.ratio
      let signed (negative : Bool) (n : Nat) : Int := if negative then -n else n
      Ord.compare (signed m (p * t)) (signed n (r * q))
  | _, _ => Ord.compare (rank x) (rank y)

/-- Compares two texts. -/
def Manner.compare (m : Manner) (a b : List Char) : Ordering :=
  let keep (c : Char) : Bool :=
    (!m.dictionary || c.isAlphanum || isBlank c)
      && (!m.printable || (0x20 ≤ c.toNat && c.toNat ≤ 0x7E))
  let view (cs : List Char) : String :=
    String.ofList ((cs.filter keep).map fun c => if m.fold then c.toUpper else c)
  let order :=
    let places := max a.length b.length
    let numbers := Ord.compare (decimal places a) (decimal places b)
    match m.scales.head? with
    | some 'n' => numbers
    | some 'h' => (Ord.compare (unitRank a) (unitRank b)).then numbers
    | some 'g' => compareReals a b
    | some 'M' => Ord.compare (monthRank a) (monthRank b)
    | some 'V' => compareVersions (view a) (view b)
    | _ => Ord.compare (view a) (view b)
  if m.reverse then order.swap else order

/-- How lines are sorted. -/
structure Sorting where
  keys : List Key := []
  manner : Manner := {}
  divider : Option Char := none
  /-- Are lines with equal keys left in their order? -/
  stable : Bool := false
  unique : Bool := false
  deriving Inhabited

/-- Compares the keys of two lines. -/
def Sorting.compareKeys (s : Sorting) (a b : List Char) : Ordering :=
  let keys := if s.keys.isEmpty then [{ manner := s.manner }] else s.keys
  keys.foldl (fun order k =>
    if order == .eq then k.manner.compare (k.of s.divider a) (k.of s.divider b) else order) .eq

/-- Compares two lines; those with equal keys as a whole. -/
def Sorting.compare (s : Sorting) (a b : List Char) : Ordering :=
  let order := s.compareKeys a b
  if order != .eq || s.stable || s.unique then order
  else
    let order := Ord.compare (String.ofList a) (String.ofList b)
    if s.manner.reverse then order.swap else order

/-- Lines of which neighbours with equal keys are left out. -/
def Sorting.distinct (s : Sorting) (lines : List (List Char)) : List (List Char) :=
  (lines.foldl (fun (kept : List (List Char)) line =>
    match kept with
    | last :: _ => if s.compareKeys last line == .eq then kept else line :: kept
    | [] => [line]) []).reverse

/-- Sorted lines. -/
def Sorting.sort (s : Sorting) (lines : List (List Char)) : List (List Char) :=
  let sorted := lines.mergeSort fun a b => s.compare a b != .gt
  if s.unique then s.distinct sorted else sorted

/-- The number of the first line that is not behind the one before it. -/
def Sorting.disorder? (s : Sorting) : (number : Nat) → List (List Char) → Option (Nat × List Char)
  | number, a :: b :: rest =>
    let order := s.compare a b
    if order == .gt || (s.unique && order == .eq) then some (number + 1, b)
    else s.disorder? (number + 1) (b :: rest)
  | _, _ => none

/-! ## Keys in arguments -/

/-- The manner with one more scale. -/
def Manner.onScale (m : Manner) (letter : Char) : Manner :=
  { m with scales := m.scales.filter (· != letter) ++ [letter] }

/-- The manner of comparing with a letter taken into account. -/
def Manner.with? (m : Manner) (blanksAtStart : Bool) : Char → Option Manner
  | 'b' => some (if blanksAtStart then { m with skipStart := true } else { m with skipEnd := true })
  | 'n' => some (m.onScale 'n')
  | 'g' => some (m.onScale 'g')
  | 'h' => some (m.onScale 'h')
  | 'M' => some (m.onScale 'M')
  | 'V' => some (m.onScale 'V')
  | 'R' => some (m.onScale 'R')
  | 'f' => some { m with fold := true }
  | 'd' => some { m with dictionary := true }
  | 'i' => some { m with printable := true }
  | 'r' => some { m with reverse := true }
  | _ => none

/-- The letters of the options that do not go together, if there are such. -/
def Manner.clash? (m : Manner) : Option String :=
  let count := (m.scales.filter fun c => "nghM".toList.contains c).length
    + (if m.dictionary || m.printable || m.scales.contains 'V' || m.scales.contains 'R' then 1 else 0)
  if count ≤ 1 then none
  else
    some (String.ofList ("dfghiMnRV".toList.filter fun c =>
      m.scales.contains c || (c == 'd' && m.dictionary) || (c == 'f' && m.fold)
        || (c == 'i' && m.printable)))

/-- A number in a key. -/
def keyNumber (whole : String) (what : String) (cs : List Char) :
    Except String (Nat × List Char) :=
  match Shell.digits 10 cs 0 0 with
  | (_, 0, _) => .error (what ++ ": invalid count at start of " ++ quote whole)
  | (n, _, rest) => .ok (n, rest)

/-- Letters of a key. -/
def keyLetters (atStart : Bool) : List Char → Manner → Manner × List Char
  | [], m => (m, [])
  | c :: rest, m =>
    match m.with? atStart c with
    | some m => keyLetters atStart rest m
    | none => (m, c :: rest)

/-- A key as it is given in an argument; one without letters is compared as lines are. -/
def Key.ofText (text : String) : Except String Key := do
  let wrong {α : Type} (what : String) : Except String α :=
    .error (what ++ ": invalid field specification " ++ quote text)
  let (field, rest) ← keyNumber text "invalid number at field start" text.toList
  if field = 0 then wrong "field number is zero"
  let (char, rest) ← match rest with
    | '.' :: rest => do
      let (char, after) ← keyNumber (String.ofList rest) "invalid number after '.'" rest
      if char = 0 then wrong "character offset is zero"
      pure (char, after)
    | rest => pure (1, rest)
  let (manner, rest) := keyLetters true rest {}
  let k : Key := { startField := field - 1, startChar := char - 1, manner := manner }
  match rest with
  | [] => pure k
  | ',' :: rest =>
    let (field, after) ← keyNumber (String.ofList rest) "invalid number after ','" rest
    if field = 0 then wrong "field number is zero"
    let (char, after) ← match after with
      | '.' :: rest => keyNumber (String.ofList rest) "invalid number after '.'" rest
      | rest => pure (0, rest)
    let (manner, after) := keyLetters false after manner
    if !after.isEmpty then wrong "stray character in field spec"
    pure { k with finish := some (field - 1, char), manner := manner }
  | _ => wrong "stray character in field spec"

end HardenAudit.Program.Order

namespace HardenAudit.Program

open Kernel (Work)
open Order (Key Manner Sorting isBlank monthRank)

/-- The options of `sort`. -/
def sortOptions : Options :=
  let o := Options.make "bcCdfghik:mMno:rRsS:t:T:uVzDPO:"
    [("ignore-leading-blanks", 'b'), ("dictionary-order", 'd'), ("ignore-case", 'f'),
     ("general-numeric-sort", 'g'), ("human-numeric-sort", 'h'), ("ignore-nonprinting", 'i'),
     ("key", 'k'), ("merge", 'm'), ("numeric-sort", 'n'), ("output", 'o'), ("reverse", 'r'),
     ("stable", 's'), ("field-separator", 't'), ("unique", 'u'), ("version-sort", 'V'),
     ("zero-terminated", 'z'), ("month-sort", 'M'), ("random-sort", 'R'), ("debug", 'D'),
     ("buffer-size", 'S'), ("temporary-directory", 'T'), ("random-source", 'O'), ("parallel", 'O'),
     ("batch-size", 'O'), ("compress-program", 'O'), ("sort", 'O')]
  { o with
    letters := o.letters.filter fun l => l.1 != 'P' && l.1 != 'O' && l.1 != 'D'
    names := ("check", 'c', .optional)
      :: o.names.map fun n => if n.1 = "sort" then (n.1, 'P', .value) else n }

/-- The lines of a file, each as its characters. -/
def lineChars (mark : String) (text : String) : List (List Char) :=
  let parts := text.splitOn mark
  let parts := if parts.getLast? == some "" then parts.dropLast else parts
  parts.map String.toList

/-- The names of the scales, with their letters. -/
def scaleNames : List (String × Char) :=
  [("general-numeric", 'g'), ("human-numeric", 'h'), ("month", 'M'), ("numeric", 'n'), ("random", 'R'),
   ("version", 'V')]

/-- The options of a call of `sort` in which names of scales and ways of checking are replaced by their
letters; each option is looked at before the ones behind it. -/
def sortCall (argv : List String) : Work Call := do
  let name := argv.head?.getD ""
  let args := argv.drop 1
  let (c, wrong) := gatherArguments sortOptions args.length args
  let step (seen : List (Char × Option String)) (o : Char × Option String) :
      Work (List (Char × Option String)) := do
    let others (letter : Char) : List String :=
      (seen.filter (·.1 == letter)).filterMap (·.2)
    let value := o.2.getD ""
    let put (letter : Char) : Work (List (Char × Option String)) := pure (seen ++ [(letter, none)])
    let check (letter other : Char) : Work (List (Char × Option String)) := do
      if seen.any (·.1 == other) then giveUp name 2 "options '-cC' are incompatible"
      put letter
    match o.1 with
    | 'P' =>
      let chosen ← choose name "--sort" value (scaleNames.map fun n => [n.1])
      put ((scaleNames.lookup chosen).getD 'n')
    | 'c' =>
      match o.2 with
      | none => check 'c' 'C'
      | some word =>
        let chosen ← choose name "--check" word [["quiet", "silent"], ["diagnose-first"]]
        if chosen = "quiet" then check 'C' 'c' else check 'c' 'C'
    | 'C' => check 'C' 'c'
    | 'k' =>
      match Key.ofText value with
      | .ok _ => pure (seen ++ [o])
      | .error message => giveUp name 2 message
    | 'o' =>
      if (others 'o').any (· != value) then giveUp name 2 "multiple output files specified"
      pure (seen ++ [o])
    | 't' =>
      if value = "" then giveUp name 2 "empty tab"
      else if value.length > 1 && value != "\\0" then
        giveUp name 2 ("multi-character tab " ++ quote value)
      else if (others 't').any (· != value) then giveUp name 2 "incompatible tabs"
      pure (seen ++ [o])
    | _ => pure (seen ++ [o])
  let options ← c.options.foldlM step []
  match wrong with
  | some message => misuse name 2 message
  | none => pure { c with name := name, options := options }

/-- How a call of `sort` asks to sort. -/
def sortingOf (c : Call) : Except String Sorting := do
  let manner := c.options.foldl (fun (m : Manner) o => (m.with? true o.1).getD m) {}
  let manner := if c.has 'b' then { manner with skipEnd := true } else manner
  let keys ← (c.options.filter (·.1 == 'k')).mapM fun o => Key.ofText (o.2.getD "")
  let keys := keys.map fun k => if k.manner = {} then { k with manner := manner } else k
  let divider := match c.value? 't' with
    | some "\\0" => some (Char.ofNat 0)
    | some text => text.toList.head?
    | none => none
  let given := if keys.isEmpty then [manner] else keys.map (·.manner)
  if let some letters := given.findSome? Manner.clash? then
    throw ("options '-" ++ letters ++ "' are incompatible")
  pure { keys := keys, manner := manner, divider := divider, stable := c.has 's', unique := c.has 'u' }

/-- Where a key lies in a line, as marks below it. -/
def keyMarks (s : Sorting) (key : Option Key) (line : List Char) : String :=
  let blank (n : Nat) : String := String.ofList (List.replicate n ' ')
  let marks (start size : Nat) : String :=
    if size = 0 then blank start ++ "^ no match for key\n"
    else blank start ++ String.ofList (List.replicate size '_') ++ "\n"
  match key with
  | none => marks 0 line.length
  | some k =>
    let text := k.of s.divider line
    let start := min line.length (line.length - (({ k with finish := none } : Key).of s.divider line).length)
    let isNumber := (k.manner.scales.head?.map fun c => "ngh".toList.contains c).getD false
    let lead := if k.manner.scales.isEmpty then 0 else text.length - (text.dropWhile isBlank).length
    let text := text.drop lead
    let size :=
      if isNumber then
        let sign := (text.takeWhile (· == '-')).take 1
        let rest := text.drop sign.length
        let whole := rest.takeWhile Char.isDigit
        let part := match rest.drop whole.length with
          | '.' :: more => 1 + (more.takeWhile Char.isDigit).length
          | _ => 0
        if whole.length + part = 0 then 0 else sign.length + whole.length + part
      else if k.manner.scales == ['M'] then (if monthRank text = 0 then 0 else 3)
      else text.length
    marks (start + lead) size

/-- A line with the keys that it is sorted by. -/
def annotated (s : Sorting) (line : List Char) : String :=
  let keys := if s.keys.isEmpty && s.manner != {} then [{ manner := s.manner : Key }] else s.keys
  let last := if keys.isEmpty || !(s.stable || s.unique) then [none] else []
  String.ofList (line.map fun c => if c == '\t' then '>' else c) ++ "\n"
    ++ String.join ((keys.map some ++ last).map fun k => keyMarks s k line)

/-- Writes the lines of files in their order. -/
def sort : Program := fun argv _ => do
  let c ← sortCall argv
  let s ← match sortingOf c with
    | .ok s => pure s
    | .error message => giveUp c.name 2 message
  let mark := if c.has 'z' then "\x00" else "\n"
  let check := c.last? ['c', 'C']
  let paths := if c.rest.isEmpty then ["-"] else c.rest
  let failed {α : Type} (what path : String) (e : Kernel.Refusal) : Work α :=
    giveUp c.name 2 (what ++ ": " ++ shellQuoteIfNeeded path ++ ": " ++ e.text)
  match check with
  | some letter =>
    if let _ :: extra :: _ := c.rest then
      giveUp c.name 2 ("extra operand " ++ quote extra ++ " not allowed with -" ++ letter.toString)
    if c.has 'o' then giveUp c.name 2 ("options '-" ++ letter.toString ++ "o' are incompatible")
  | none =>
    for path in paths do
      if path != "-" then
        match ← Work.ask (.inspect path) with
        | .ok _ => pure ()
        | .error e => failed "cannot read" path e
    /- The output is made before anything is read, and emptied after all is. -/
    if let some path := c.value? 'o' then
      match ← Work.ask (.openFile path { writable := true, create := true }) with
      | .ok fd => close fd
      | .error e => failed "open failed" path e
  let texts ← paths.mapM fun path => do
    match ← contentOf path with
    | .ok text => pure (lineChars mark text)
    | .error (.file .isDirectory) => failed "read failed" path (.file .isDirectory)
    | .error e => failed (if check.isSome then "open failed" else "cannot read") path e
  match check with
  | some letter =>
    match s.disorder? 1 texts.flatten with
    | none => pure 0
    | some (number, line) =>
      if letter == 'c' then
        report c.name (paths.head?.getD "-" ++ ":" ++ toString number ++ ": disorder: "
          ++ String.ofList line)
      pure 1
  | none =>
    let lines :=
      if c.has 'm' then
        let merged := texts.foldl (fun a b => a.merge b fun x y => s.compare x y != .gt) []
        if s.unique then s.distinct merged else merged
      else s.sort texts.flatten
    if c.has 'D' then
      report c.name "text ordering performed using simple byte comparison"
    let text := String.join (lines.map fun line =>
      if c.has 'D' then annotated s line else String.ofList line ++ mark)
    match c.value? 'o' with
    | none =>
      put c.name text
      pure 0
    | some path =>
      match ← Work.ask (.openFile path .output) with
      | .error e => giveUp c.name 2 ("open failed: " ++ shellQuoteIfNeeded path ++ ": " ++ e.text)
      | .ok fd =>
        let _ ← writeAll fd text
        close fd
        pure 0

end HardenAudit.Program
