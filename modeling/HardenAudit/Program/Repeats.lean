import HardenAudit.Program.Order

/-!
# Lines that are repeated, in a file or in another one: `uniq`, `comm`
-/

namespace HardenAudit.Program

open Kernel (Work)

namespace Repeats

/-- Where empty lines stand between groups of lines. -/
inductive Spacing where
  | before
  | after
  | between
  | around
  deriving DecidableEq, Repr, Inhabited

/-- How repeated lines are shown. -/
structure Manner where
  count : Bool := false
  /-- Are lines shown that are not repeated? -/
  single : Bool := true
  /-- Is the first of several equal lines shown, and are the others? -/
  first : Bool := true
  others : Bool := false
  /-- Are all lines shown, in groups of equal ones? -/
  groups : Option Spacing := none
  /-- Is something written between groups if only repeated lines are shown? -/
  spacing : Option Spacing := none
  ignoreCase : Bool := false
  skipFields : Nat := 0
  skipChars : Nat := 0
  width : Option Nat := none
  lineEnd : String := "\n"
  deriving Inhabited

namespace Manner

/-- The part of a line that is compared. -/
def key (m : Manner) (line : String) : List Char :=
  let cs := (Order.behind none m.skipFields line.toList).drop m.skipChars
  let cs := match m.width with
    | some n => cs.take n
    | none => cs
  if m.ignoreCase then cs.map Char.toUpper else cs

/-- The line that the next one is compared with, how many lines were equal to it, and whether a group
was shown before. -/
structure State where
  line : Option String := none
  count : Nat := 0
  shown : Bool := false
  deriving Inhabited

/-- A line as it is shown, if it is. -/
def text (m : Manner) (s : State) (isSame : Bool) : String :=
  match s.line with
  | none => ""
  | some line =>
    if !(if s.count = 0 then m.single else if isSame then m.others else m.first) then ""
    else
      let n := toString (s.count + 1)
      (if m.count then String.ofList (List.replicate (7 - n.length) ' ') ++ n ++ " " else "")
        ++ line ++ m.lineEnd

/-- One line when all are shown in groups. -/
def groupStep (m : Manner) (spacing : Spacing) : LineStep State := fun s line _ =>
  let isNew := !(s.line.any fun l => m.key l == m.key line)
  let space := isNew && (spacing == .before || spacing == .around || s.shown)
  { state := { line := some line, shown := true }
    out := (if space then m.lineEnd else "") ++ line ++ m.lineEnd }

/-- One line: the line before it is shown if it is settled how often it was repeated. -/
def step (m : Manner) : LineStep State := fun s line _ =>
  match s.line with
  | none => { state := { line := some line } }
  | some last =>
    let same := m.key last == m.key line
    let s := { s with count := s.count + if same then 1 else 0 }
    let space : Bool := match m.spacing with
      | none => false
      | some spacing => same && s.count == 1 && (spacing == .before || s.shown)
    let s := { s with shown := s.shown || (m.spacing.isSome && !same && s.count > 0) }
    let out := if space then m.lineEnd else ""
    if !same then { state := { s with line := some line, count := 0 }, out := out ++ m.text s false }
    else if m.others then { state := { s with line := some line }, out := out ++ m.text s true }
    else { state := s, out := out }

end Manner

/-- The manner with one more option. -/
def Manner.withOption (name : String) (m : Manner) (c : Char) (value : Option String) : Work Manner := do
  let number (what : String) : Work Nat := do
    let text := value.getD ""
    match Shell.plainNumber? text with
    | some n => pure n
    | none => giveUp name 1 (text ++ ": invalid number of " ++ what)
  let spacingOf (word : String) : Option Spacing :=
    match word with
    | "prepend" => some .before
    | "append" => some .after
    | "separate" => some .between
    | "both" => some .around
    | _ => none
  match c with
  | 'c' => pure { m with count := true }
  | 'd' => pure { m with single := false }
  | 'D' => do
    let spacing ← match value with
      | none => pure none
      | some word => do
        let chosen ← choose name "--all-repeated" word [["none"], ["prepend"], ["separate"]]
        pure (spacingOf chosen)
    pure { m with single := false, others := true, spacing := spacing }
  | 'G' => do
    let chosen ← choose name "--group" (value.getD "separate")
      [["prepend"], ["append"], ["separate"], ["both"]]
    pure { m with groups := spacingOf chosen }
  | 'u' => pure { m with first := false }
  | 'i' => pure { m with ignoreCase := true }
  | 'f' => do pure { m with skipFields := ← number "fields to skip" }
  | 's' => do pure { m with skipChars := ← number "bytes to skip" }
  | 'w' => do
    let n ← number "bytes to compare"
    pure { m with width := some n }
  | 'z' => pure { m with lineEnd := "\x00" }
  | _ => pure m

end Repeats

open Repeats in
/-- Leaves out lines that repeat the one before. -/
def uniq : Program := fun argv _ => do
  let name := argv.head?.getD ""
  let args := argv.drop 1
  let o := Options.make "cdDuif:s:w:z"
    [("count", 'c'), ("repeated", 'd'), ("unique", 'u'), ("ignore-case", 'i'),
     ("skip-fields", 'f'), ("skip-chars", 's'), ("check-chars", 'w'), ("zero-terminated", 'z')]
  let o := { o with names := o.names ++ [("all-repeated", 'D', .optional), ("group", 'G', .optional)] }
  let (c, wrong) := gatherArguments o args.length args
  let m ← c.options.foldlM (fun m (letter, value) => Manner.withOption name m letter value) {}
  if let some message := wrong then misuse name 1 message
  if let some extra := c.rest[2]? then misuse name 1 ("extra operand " ++ quote extra)
  if m.groups.isSome && ['c', 'd', 'D', 'u'].any c.has then
    misuse name 1 "--group is mutually exclusive with -c/-d/-D/-u"
  if m.count && m.others then
    misuse name 1 "printing all duplicated lines and repeat counts is meaningless"
  let path := c.rest.head?.getD "-"
  if path != "-" then
    match ← Work.ask (.openFile path .input) with
    | .error e => giveUp name 1 (shellQuoteIfNeeded path ++ ": " ++ e.text)
    | .ok fd =>
      let _ ← Work.ask (.assign fd 0)
      close fd
  let target := (c.rest[1]?).getD "-"
  if target != "-" then
    match ← Work.ask (.openFile target .output) with
    | .error e => giveUp name 1 (shellQuoteIfNeeded target ++ ": " ++ e.text)
    | .ok fd =>
      let _ ← Work.ask (.assign fd 1)
      close fd
  let step := match m.groups with
    | some spacing => m.groupStep spacing
    | none => m.step
  match ← streamLines name 0 ({} : Manner.State) step m.lineEnd with
  | .error e => giveUp name 1 ("error reading " ++ quote path ++ ": " ++ e.text)
  | .ok (s, _) =>
    put name (match m.groups with
      | some spacing =>
        if s.shown && (spacing == .after || spacing == .around) then m.lineEnd else ""
      | none => m.text s false)
    pure 0

/-! ## Common lines -/

namespace Repeats

/-- A file that is compared: its next line first, and the two lines before it, the nearer one first. -/
structure Source where
  lines : List String
  before : List String := []
  deriving Inhabited

/-- Comparing under way. -/
structure Comparison where
  left : Source
  right : Source
  /-- Was a line found that is in one file only? -/
  unpaired : Bool := false
  /-- The numbers of files that are not in order, the one that was noticed last first. -/
  warned : List Nat := []
  /-- How many lines were found in the first file only, in the second one only, and in both. -/
  totals : Nat × Nat × Nat := (0, 0, 0)
  /-- The lines that were found, each with the column it belongs to, in reverse. -/
  found : List (Nat × String) := []
  deriving Inhabited

/-- Goes on to the next line of a file; tells whether the order of the last two lines is wrong.  At the
end of the file they are those that were read before. -/
def Source.next (s : Source) : Source × Bool :=
  match s.lines with
  | [] => (s, false)
  | line :: rest =>
    let wrong := match rest, s.before with
      | next :: _, _ => next < line
      | [], last :: _ => line < last
      | [], [] => false
    ({ s with lines := rest, before := [line] }, wrong)

/-- The numbers with one more, if it is to be noted and is not among them. -/
def noted (wrong : Bool) (n : Nat) (all : List Nat) : List Nat :=
  if wrong && !all.contains n then n :: all else all

/-- Compares two files line by line; each round takes a line, so `limit` may be their number.  Gives the
number of a file that is not in order, which ends the comparison if the order is checked strictly. -/
def compareLines (strict : Option Bool) : (limit : Nat) → Comparison → Comparison × Option Nat
  | 0, c => (c, none)
  | limit + 1, c =>
    let order? : Option Ordering := match c.left.lines, c.right.lines with
      | [], [] => none
      | [], _ => some .gt
      | _, [] => some .lt
      | x :: _, y :: _ => some (Ord.compare x y)
    match order? with
    | none => (c, none)
    | some order =>
      let (a, b, both) := c.totals
      let line (s : Source) : String := s.lines.head?.getD ""
      let c := match order with
        | .eq => { c with totals := (a, b, both + 1), found := (3, line c.right) :: c.found }
        | .lt =>
          { c with totals := (a + 1, b, both), found := (1, line c.left) :: c.found, unpaired := true }
        | .gt =>
          { c with totals := (a, b + 1, both), found := (2, line c.right) :: c.found, unpaired := true }
      let checks := strict == some true || (strict.isNone && c.unpaired)
      let (left, leftWrong) := if order == .gt then (c.left, false) else c.left.next
      let (right, rightWrong) := if order == .lt then (c.right, false) else c.right.next
      let leftWrong := leftWrong && checks
      let rightWrong := rightWrong && checks
      if strict == some true && (leftWrong || rightWrong) then (c, some (if leftWrong then 1 else 2))
      else
        compareLines strict limit
          { c with
            left := left, right := right
            warned := noted rightWrong 2 (noted leftWrong 1 c.warned) }

end Repeats

open Repeats in
/-- Compares two sorted files line by line. -/
def comm : Program := fun argv _ => do
  let o := Options.make "123z" [("zero-terminated", 'z')]
  let o := { o with names := o.names ++ [("check-order", 'k', .nothing), ("nocheck-order", 'n', .nothing),
    ("total", 't', .nothing), ("output-delimiter", 'd', .value)] }
  let name := argv.head?.getD ""
  let args := argv.drop 1
  let (c, wrong) := gatherArguments o args.length args
  let dividers := (c.options.filter (·.1 == 'd')).filterMap (·.2)
  if dividers.any (· != dividers.head?.getD "") then
    giveUp name 1 "multiple output delimiters specified"
  if let some message := wrong then misuse name 1 message
  let strict : Option Bool := (c.last? ['k', 'n']).map (· == 'k')
  let lineEnd := if c.has 'z' then "\x00" else "\n"
  let divider := match dividers.head? with
    | some "" => "\x00"
    | some d => d
    | none => "\t"
  match c.rest with
  | [] => misuse name 1 "missing operand"
  | [one] => misuse name 1 ("missing operand after " ++ quote one)
  | [a, b] =>
    let content (path : String) : Work (List String) := do
      match ← contentOf path with
      | .ok text => pure ((lineChars lineEnd text).map String.ofList)
      | .error e => giveUp name 1 (shellQuoteIfNeeded path ++ ": " ++ e.text)
    let x ← content a
    let y ← content b
    let (r, fatal) := compareLines strict (x.length + y.length) { left := ⟨x, []⟩, right := ⟨y, []⟩ }
    let hidden (n : Nat) : Bool := c.has (Char.ofNat (48 + n))
    let before (n : Nat) : String :=
      String.join (((List.range n).filter fun k => k > 0 && !hidden k).map fun _ => divider)
    put name (String.join (r.found.reverse.map fun (n, line) =>
      if hidden n then "" else before n ++ line ++ lineEnd))
    let unsorted (n : Nat) : String := "file " ++ toString n ++ " is not in sorted order"
    if let some n := fatal then giveUp name 1 (unsorted n)
    for n in r.warned.reverse do
      report name (unsorted n)
    if c.has 't' then
      let (a, b, both) := r.totals
      put name (divider.intercalate [toString a, toString b, toString both, "total"] ++ lineEnd)
    if !r.warned.isEmpty then giveUp name 1 "input is not in sorted order"
    pure 0
  | _ :: _ :: extra :: _ => misuse name 1 ("extra operand " ++ quote extra)

end HardenAudit.Program
