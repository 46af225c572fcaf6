import HardenAudit.Program.Columns

/-!
# Lines with the same field: `join`

Two files that are ordered by one of their fields are gone through side by side.  Lines with the same
field are shown as one, with the other fields of both.
-/

namespace HardenAudit.Program

open Kernel (Work)

/-- Where a field of a shown line comes from. -/
inductive Origin where
  /-- The field that both lines have. -/
  | common
  | first (field : Nat)
  | second (field : Nat)
  deriving Repr, Inhabited

/-- Is the order of lines looked at? -/
inductive OrderCheck where
  | always
  | never
  /-- Once a line had no partner. -/
  | whenUnpaired
  deriving DecidableEq, Repr, Inhabited

/-- How lines are joined.  Fields are numbered from nothing. -/
structure Join where
  fields : Nat × Nat := (0, 0)
  /-- What stands between fields; blanks if nothing is given. -/
  divider : Option Char := none
  filler : String := ""
  shown : Option (List Origin) := none
  /-- Numbers of fields to show, whatever a line has. -/
  widths : Option (Nat × Nat) := none
  unpaired : Bool × Bool := (false, false)
  paired : Bool := true
  anyCase : Bool := false
  check : OrderCheck := .whenUnpaired
  deriving Inhabited

/-- A line with its fields. -/
structure Row where
  text : String
  fields : Array String
  deriving Inhabited

namespace Join

/-- The parts between blanks; blanks at the end make an empty part. -/
def blankParts : (limit : Nat) → List Char → List String
  | 0, _ => []
  | limit + 1, cs =>
    let isGap (c : Char) : Bool := c == ' ' || c == '\t'
    let part := cs.takeWhile fun c => !isGap c
    let rest := cs.drop part.length
    String.ofList part :: (if rest.isEmpty then [] else
      let behind := rest.dropWhile isGap
      if behind.isEmpty then [""] else blankParts limit behind)

/-- The fields of a line. -/
def row (k : Join) (text : String) : Row :=
  let fields : List String := match k.divider with
    | some d => if text = "" then [] else text.splitOn d.toString
    | none =>
      let cs := text.toList.dropWhile fun c => c == ' ' || c == '\t'
      if cs.isEmpty then [] else blankParts (cs.length + 1) cs
  { text := text, fields := fields.toArray }

/-- Compares the fields that lines are joined by. -/
def compare (k : Join) (a b : String) : Ordering :=
  if k.anyCase then Ord.compare (a.map Char.toUpper) (b.map Char.toUpper) else Ord.compare a b

def key (r : Row) (field : Nat) : String := (r.fields[field]?).getD ""

/-- A field as it is shown. -/
def fieldText (k : Join) (r : Option Row) (field : Nat) : String :=
  match r.bind (·.fields[field]?) with
  | some text => if text = "" then k.filler else text
  | none => k.filler

/-- A line of two joined ones, one of which may be missing. -/
def line (k : Join) (a b : Option Row) : String :=
  let sep := (k.divider.getD ' ').toString
  let common := match a with
    | some _ => k.fieldText a k.fields.1
    | none => k.fieldText b k.fields.2
  let others (r : Option Row) (field : Nat) (width : Option Nat) : List String :=
    let count := width.getD ((r.map (·.fields.size)).getD 0)
    ((List.range count).filter (· != field)).map (k.fieldText r)
  let parts := match k.shown with
    | some origins => origins.map fun o => match o with
      | .common => common
      | .first n => k.fieldText a n
      | .second n => k.fieldText b n
    | none =>
      common :: others a k.fields.1 (k.widths.map (·.1)) ++ others b k.fields.2 (k.widths.map (·.2))
  ended (sep.intercalate parts)

end Join

/-- One of the files: its name, the field to join by, the lines not read yet, and the last line
read. -/
structure Side where
  name : String
  field : Nat
  left : List String
  count : Nat := 0
  last : Option Row := none
  /-- Has a line out of order been reported? -/
  reported : Bool := false
  deriving Inhabited

/-- Joining under way. -/
structure Joining where
  join : Join
  program : String
  first : Side
  second : Side
  /-- Has a line had no partner? -/
  seenUnpaired : Bool := false
  out : List String := []
  deriving Inhabited

namespace Joining

def side (j : Joining) (isFirst : Bool) : Side := if isFirst then j.first else j.second

def setSide (j : Joining) (isFirst : Bool) (s : Side) : Joining :=
  if isFirst then { j with first := s } else { j with second := s }

/-- Adds a line to the output. -/
def show_ (j : Joining) (wanted : Bool) (a b : Option Row) : Joining :=
  if wanted then { j with out := j.join.line a b :: j.out } else j

/-- A line without a partner. -/
def showSingle (j : Joining) (isFirst : Bool) (r : Row) : Joining :=
  if isFirst then j.show_ j.join.unpaired.1 (some r) none
  else j.show_ j.join.unpaired.2 none (some r)

/-- Reads the next line of a file, and looks whether it is in order. -/
def next (isFirst : Bool) (j : Joining) : Work (Option Row × Joining) := do
  let s := j.side isFirst
  match s.left with
  | [] => pure (none, j)
  | text :: left =>
    let r := j.join.row text
    let looks := match j.join.check with
      | .always => true
      | .never => false
      | .whenUnpaired => j.seenUnpaired
    let wrong := looks && !s.reported && (match s.last with
      | some before => j.join.compare (Join.key before s.field) (Join.key r s.field) == .gt
      | none => false)
    let s := { s with left := left, count := s.count + 1, last := some r, reported := s.reported || wrong }
    if wrong then
      if j.join.check == .always then put j.program (String.join j.out.reverse)
      report j.program (s.name ++ ":" ++ toString s.count ++ ": is not sorted: " ++ text)
      if j.join.check == .always then Work.exit 1
    pure (some r, j.setSide isFirst s)

/-- Reads on while lines have the same field; gives them with the first one that has another.  Each
round takes a line, so `limit` may be their number. -/
def group (isFirst : Bool) (key : String) : (limit : Nat) → List Row → Joining →
    Work (List Row × Option Row × Joining)
  | 0, rows, j => pure (rows.reverse, none, j)
  | limit + 1, rows, j => do
    let (r, j) ← next isFirst j
    match r with
    | none => pure (rows.reverse, none, j)
    | some r =>
      if j.join.compare (Join.key r (j.side isFirst).field) key == .eq then
        group isFirst key limit (r :: rows) j
      else pure (rows.reverse, some r, j)

/-- Goes through both files while both have lines. -/
def both : (limit : Nat) → Option Row → Option Row → Joining →
    Work (Option Row × Option Row × Joining)
  | limit + 1, some a, some b, j => do
    let keyA := Join.key a j.join.fields.1
    let keyB := Join.key b j.join.fields.2
    match j.join.compare keyA keyB with
    | .lt =>
      let (a', j) ← next true (j.showSingle true a)
      both limit a' (some b) { j with seenUnpaired := true }
    | .gt =>
      let (b', j) ← next false (j.showSingle false b)
      both limit (some a) b' { j with seenUnpaired := true }
    | .eq =>
      let (as, a', j) ← group true keyB (j.first.left.length + 1) [a] j
      let (bs, b', j) ← group false keyA (j.second.left.length + 1) [b] j
      let pairs := as.flatMap fun x => bs.map fun y => (x, y)
      let j := pairs.foldl (fun j p => j.show_ j.join.paired (some p.1) (some p.2)) j
      both limit a' b' j
  | _, a, b, j => pure (a, b, j)

/-- Goes through what is left of one file. -/
def tail (isFirst : Bool) : (limit : Nat) → Option Row → Joining → Work Joining
  | limit + 1, some r, j => do
    let (r', j) ← next isFirst (j.showSingle isFirst r)
    tail isFirst limit r' j
  | _, _, j => pure j

end Joining

/-- A number of a field, counted from one. -/
def fieldNumber (text : String) : Except String Nat :=
  match Shell.plainNumber? text with
  | some (n + 1) => .ok n
  | _ => .error ("invalid field number: " ++ quote text)

/-- Where a shown field comes from. -/
def originOf (text : String) : Except String Origin :=
  match text.toList with
  | ['0'] => .ok .common
  | '1' :: '.' :: cs => (fieldNumber (String.ofList cs)).map .first
  | '2' :: '.' :: cs => (fieldNumber (String.ofList cs)).map .second
  | '0' :: _ | '1' :: _ | '2' :: _ => .error ("invalid field specifier: " ++ quote text)
  | _ => .error ("invalid file number in field spec: " ++ quote text)

/-- A field to join by, which may be given twice only if it is the same. -/
def sameField (old : Option Nat) (new : Nat) : Except String (Option Nat) :=
  match old with
  | some n => if n = new then .ok old
    else .error ("incompatible join fields " ++ toString n ++ ", " ++ toString new)
  | none => .ok (some new)

/-- Takes up an option. -/
def joinOption (k : Join × Option Nat × Option Nat) (o : Char × Option String) :
    Except String (Join × Option Nat × Option Nat) := do
  let (j, a, b) := k
  let text := o.2.getD ""
  let sideNumber (act : Bool → Join) : Except String Join :=
    match text with
    | "1" => .ok (act true)
    | "2" => .ok (act false)
    | _ => .error ("invalid field number: " ++ quote text)
  let unpaired (isFirst : Bool) (j : Join) : Join :=
    { j with unpaired := (j.unpaired.1 || isFirst, j.unpaired.2 || !isFirst) }
  match o.1 with
  | 'a' => pure (← sideNumber fun isFirst => unpaired isFirst j, a, b)
  | 'v' => pure (← sideNumber fun isFirst => { unpaired isFirst j with paired := false }, a, b)
  | 'e' => pure ({ j with filler := text }, a, b)
  | 'i' => pure ({ j with anyCase := true }, a, b)
  | '1' => pure (j, ← sameField a (← fieldNumber text), b)
  | '2' => pure (j, a, ← sameField b (← fieldNumber text))
  | 'j' =>
    let n ← fieldNumber text
    pure (j, ← sameField a n, ← sameField b n)
  | 'o' =>
    if text = "auto" then pure ({ j with widths := some (0, 0) }, a, b)
    else
      let text := String.ofList (text.toList.map fun c => if isGap c then ',' else c)
      let more ← (text.splitOn ",").mapM originOf
      pure ({ j with shown := some (j.shown.getD [] ++ more) }, a, b)
  | 't' =>
    match text.toList with
    | [] => pure ({ j with divider := some '\n' }, a, b)
    | [d] => pure ({ j with divider := some d }, a, b)
    | ['\\', '0'] => pure ({ j with divider := some (Char.ofNat 0) }, a, b)
    | _ => throw ("multi-character tab " ++ quote text)
  | 'C' => pure ({ j with check := .always }, a, b)
  | 'N' => pure ({ j with check := .never }, a, b)
  | _ => pure (j, a, b)

/-- Joins the lines of two files. -/
def join : Program := fun argv _ => do
  let o := Options.make "a:e:ij:o:t:v:z1:2:" [("ignore-case", 'i'), ("zero-terminated", 'z')]
  let o := { o with names := o.names ++
    [("check-order", 'C', .nothing), ("nocheck-order", 'N', .nothing), ("header", 'H', .nothing)] }
  let c ← call o 1 argv
  let (k, a, b) ← match c.options.foldlM joinOption ({}, none, none) with
    | .ok k => pure k
    | .error message => giveUp c.name 1 message
  let k := { k with fields := (a.getD 0, b.getD 0) }
  match c.rest with
  | [] => misuse c.name 1 "missing operand"
  | [one] => misuse c.name 1 ("missing operand after " ++ quote one)
  | _ :: _ :: extra :: _ => misuse c.name 1 ("extra operand " ++ quote extra)
  | [one, two] =>
    if one = "-" && two = "-" then giveUp c.name 1 "both files cannot be standard input"
    let mark := if c.has 'z' then "\x00" else "\n"
    let linesIn (path : String) : Work (List String) := do
      match ← contentOf path with
      | .ok text =>
        let parts := text.splitOn mark
        pure (if parts.getLast? == some "" then parts.dropLast else parts)
      | .error e => giveUp c.name 1 (shellQuoteIfNeeded path ++ ": " ++ e.text)
    let left ← linesIn one
    let right ← linesIn two
    let j : Joining :=
      { join := k, program := c.name
        first := { name := one, field := k.fields.1, left := left }
        second := { name := two, field := k.fields.2, left := right } }
    let (a, j) ← j.next true
    let (b, j) ← j.next false
    let width (r : Option Row) : Nat := (r.map (·.fields.size)).getD 0
    let j := { j with join := { k with widths := k.widths.map fun _ => (width a, width b) } }
    let limit := left.length + right.length + 2
    let (a, b, j) ← if c.has 'H' && (a.isSome || b.isSome) then do
        let j := j.show_ true a b
        let (a, j) ← Joining.next true { j with first := { j.first with last := none } }
        let (b, j) ← Joining.next false { j with second := { j.second with last := none } }
        pure (a, b, j)
      else pure (a, b, j)
    let (a, b, j) ← Joining.both limit a b j
    let mates := a.isSome && b.isSome
    let j := { j with seenUnpaired := j.seenUnpaired || mates }
    let j ← Joining.tail true limit a j
    let j ← Joining.tail false limit b j
    put c.name (String.join j.out.reverse)
    if j.first.reported || j.second.reported then giveUp c.name 1 "input is not in sorted order"
    pure 0

end HardenAudit.Program
