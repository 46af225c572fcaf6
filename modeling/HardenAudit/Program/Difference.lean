import HardenAudit.Program.Describing
import HardenAudit.Program.Display
import HardenAudit.Text.Calendar
import HardenAudit.Text.Difference

/-!
# Showing how files differ: `diff`
-/

namespace HardenAudit.Program

open Kernel (Refusal Status Work)

namespace Difference

open Text.Difference (Change)

/-- How changes are shown. -/
inductive Style where
  | normal
  /-- Commands for an editor, the last change first. -/
  | editor
  /-- The same commands from the first change on. -/
  | commands
  /-- Numbers of lines to delete and lines to add. -/
  | steps
  | context
  | unified
  | columns
  deriving DecidableEq, Repr, Inhabited

/-- What blanks count for when lines are compared, from the strictest rule to the laxest. -/
inductive Blanks where
  | exact
  /-- A tab is as good as the blanks that it stands for. -/
  | tabs
  /-- Blanks at the end of a line do not count. -/
  | ends
  | tabsAndEnds
  /-- The number of blanks does not count. -/
  | amount
  | none
  deriving DecidableEq, Repr, Inhabited

/-- Do blanks at the end of a line not count? -/
def Blanks.freeEnds : Blanks → Bool
  | .exact | .tabs => false
  | _ => true

/-- What is compared and how it is shown. -/
structure Manner where
  style : Option Style := none
  /-- Unchanged lines around changed ones. -/
  context : Nat := 0
  /-- Was a number of such lines given? -/
  explicit : Bool := false
  /-- The number that was given by digits alone. -/
  digits : Option Nat := none
  blanks : Blanks := .exact
  ignoreCase : Bool := false
  ignoreBlankLines : Bool := false
  minimal : Bool := false
  brief : Bool := false
  identical : Bool := false
  recursive : Bool := false
  newFile : Bool := false
  /-- Are files with unprintable characters shown as well? -/
  text : Bool := false
  expandTabs : Bool := false
  initialTab : Bool := false
  functions : Bool := false
  leftColumn : Bool := false
  suppressCommon : Bool := false
  width : Nat := 130
  labels : List String := []
  /-- The options as they were given. -/
  given : String := ""
  deriving Inhabited

/-- Is the style one that shows whether the last line has an end? -/
def Manner.isRobust (m : Manner) : Bool := m.style != some .editor && m.style != some .commands

/-- Is a character a blank? -/
def isSpace (c : Char) : Bool := c == ' ' || (9 ≤ c.toNat && c.toNat ≤ 13)

/-- A line with one blank for several, and none at its end. -/
def squeezed : List Char → List Char
  | [] => []
  | c :: rest =>
    let rest' := squeezed rest
    if !isSpace c then c :: rest'
    else match rest' with
      | [] => []
      | ' ' :: _ => rest'
      | _ => ' ' :: rest'

/-- A line without blanks at its end. -/
def withoutEnd (cs : List Char) : List Char := (cs.reverse.dropWhile isSpace).reverse

/-- A line with blanks for its tabs. -/
def untabbed : (column : Nat) → List Char → List Char
  | _, [] => []
  | column, '\t' :: rest =>
    let size := 8 - column % 8
    List.replicate size ' ' ++ untabbed (column + size) rest
  | column, c :: rest =>
    c :: untabbed (if c == '\x08' then column - 1 else if c == '\r' then 0 else column + 1) rest

/-- By what a line is compared with others.  A last line without an end differs from all lines that
have one, unless ends do not count. -/
def Manner.key (m : Manner) (line : String) : String :=
  let cs := line.toList.filter (· != '\n')
  let cs := if m.ignoreCase then cs.map Char.toLower else cs
  let cs := match m.blanks with
    | .exact => cs
    | .tabs => untabbed 0 cs
    | .ends => withoutEnd cs
    | .tabsAndEnds => untabbed 0 (withoutEnd cs)
    | .amount => squeezed cs
    | .none => cs.filter fun c => !isSpace c
  String.ofList cs ++ (if m.blanks.freeEnds || line.endsWith "\n" then "\n" else "")

/-! ## Groups of changes -/

/-- The lines of two files, with their ends. -/
structure Sides where
  left : Array String
  right : Array String
  deriving Inhabited

/-- The lines from one number on, so many of them. -/
def linesAt (all : Array String) (first count : Nat) : List String :=
  (all.extract first (first + count)).toList

/-- Do only empty lines change? -/
def isTrivial (m : Manner) (s : Sides) (c : Change) : Bool :=
  let isEmpty (line : String) : Bool :=
    let cs := line.toList.filter (· != '\n')
    (if m.blanks.freeEnds then withoutEnd cs else cs).isEmpty
  m.ignoreBlankLines && (linesAt s.left c.left c.removed).all isEmpty
    && (linesAt s.right c.right c.added).all isEmpty

/-- Changes that are so near to each other that they are shown together; those that do not count are
drawn in only from nearby. -/
def grouped (m : Manner) (s : Sides) : List Change → List (List Change)
  | [] => []
  | c :: rest =>
    match grouped m s rest with
    | (d :: more) :: groups =>
      let most := if isTrivial m s c || isTrivial m s d then m.context else 2 * m.context + 1
      if d.left - (c.left + c.removed) < most then (c :: d :: more) :: groups
      else [c] :: (d :: more) :: groups
    | groups => [c] :: groups

/-- A stretch of lines: its first line and the line behind its last one. -/
structure Stretch where
  first : Nat
  stop : Nat
  deriving Inhabited

/-- The lines of a group of changes on both sides, with those around them. -/
def stretches (m : Manner) (s : Sides) (group : List Change) : Stretch × Stretch :=
  let c := group.head?.getD default
  let d := group.getLast?.getD default
  (⟨c.left - m.context, min s.left.size (d.left + d.removed + m.context)⟩,
   ⟨c.right - m.context, min s.right.size (d.right + d.added + m.context)⟩)

/-! ## Lines as they are shown -/

/-- The text of a line, with its tabs as they are wanted. -/
def Manner.line (m : Manner) (line : String) : String :=
  let ended := line.endsWith "\n"
  let text := if m.expandTabs then
      String.ofList (untabbed 0 (line.toList.filter (· != '\n'))) ++ (if ended then "\n" else "")
    else line
  if ended then text else text ++ "\n\\ No newline at end of file\n"

/-- A line behind a mark. -/
def Manner.marked (m : Manner) (mark line : String) : String :=
  mark ++ (if m.initialTab then "\t" else " ") ++ m.line line

/-- The numbers of some lines. -/
def numbers (divider : String) (before count : Nat) : String :=
  if count = 0 then toString before
  else if count = 1 then toString (before + 1)
  else toString (before + 1) ++ divider ++ toString (before + count)

/-- The letter of a change. -/
def letter (c : Change) : String :=
  if c.removed = 0 then "a" else if c.added = 0 then "d" else "c"

/-- A change with its lines, old ones first. -/
def normal (m : Manner) (s : Sides) (c : Change) : String :=
  numbers "," c.left c.removed ++ letter c ++ numbers "," c.right c.added ++ "\n"
    ++ String.join ((linesAt s.left c.left c.removed).map (m.marked "<"))
    ++ (if letter c = "c" then "---\n" else "")
    ++ String.join ((linesAt s.right c.right c.added).map (m.marked ">"))

/-- Lines to be put in by an editor; a line that is a point alone would end them. -/
def inserted (m : Manner) : (inserting : Bool) → List String → String
  | inserting, [] => if inserting then ".\n" else ""
  | inserting, line :: rest =>
    (if inserting then "" else "a\n")
      ++ (if line = ".\n" then "..\n.\ns/.//\n" ++ inserted m false rest
          else m.line line ++ inserted m true rest)

/-- A change as a command for an editor. -/
def edited (m : Manner) (s : Sides) (c : Change) : String :=
  numbers "," c.left c.removed ++ letter c ++ "\n"
    ++ (if c.added = 0 then "" else inserted m true (linesAt s.right c.right c.added))

/-- A change as a command with its letter first. -/
def commanded (m : Manner) (s : Sides) (c : Change) : String :=
  letter c ++ numbers " " c.left c.removed ++ "\n"
    ++ (if c.added = 0 then ""
        else String.join ((linesAt s.right c.right c.added).map m.line) ++ ".\n")

/-- A change as lines to delete and lines to add. -/
def stepped (s : Sides) (c : Change) : String :=
  (if c.removed = 0 then "" else "d" ++ toString (c.left + 1) ++ " " ++ toString c.removed ++ "\n")
    ++ (if c.added = 0 then ""
        else "a" ++ toString (c.left + c.removed) ++ " " ++ toString c.added ++ "\n"
          ++ String.join (linesAt s.right c.right c.added))

/-- The last line before a place that begins with a letter, shortened. -/
def functionAt (m : Manner) (s : Sides) (first : Nat) : String :=
  let begins (line : String) : Bool := match line.toList with
    | c :: _ => c.isAlpha || c == '$' || c == '_'
    | [] => false
  match if m.functions then (s.left.toList.take first).reverse.find? begins else none with
  | some line =>
    let cs := (line.toList.filter (· != '\n')).dropWhile isSpace
    " " ++ String.ofList (withoutEnd (cs.take 40))
  | none => ""

/-- The lines of a group and around it, old and new ones together; `at_` is the left line that comes
next. -/
def unifiedLines (m : Manner) (s : Sides) (stop at_ : Nat) : List Change → String
  | [] => String.join ((linesAt s.left at_ (stop - at_)).map fun l =>
      (if m.initialTab then "\t" else " ") ++ m.line l)
  | c :: rest =>
    let put (mark line : String) : String :=
      mark ++ (if m.initialTab then "\t" else "") ++ m.line line
    String.join ((linesAt s.left at_ (c.left - at_)).map fun l =>
        (if m.initialTab then "\t" else " ") ++ m.line l)
      ++ String.join ((linesAt s.left c.left c.removed).map (put "-"))
      ++ String.join ((linesAt s.right c.right c.added).map (put "+"))
      ++ unifiedLines m s stop (c.left + c.removed) rest

/-- A group of changes as one text. -/
def unified (m : Manner) (s : Sides) (group : List Change) : String :=
  let (l, r) := stretches m s group
  let range (t : Stretch) : String :=
    let count := t.stop - t.first
    if count = 0 then toString t.first ++ ",0"
    else if count = 1 then toString t.stop
    else toString (t.first + 1) ++ "," ++ toString count
  "@@ -" ++ range l ++ " +" ++ range r ++ " @@" ++ functionAt m s l.first ++ "\n"
    ++ unifiedLines m s l.stop l.first group

/-- A group of changes as two texts. -/
def contextual (m : Manner) (s : Sides) (group : List Change) : String :=
  let (l, r) := stretches m s group
  let range (t : Stretch) : String := numbers "," t.first (t.stop - t.first)
  let side (all : Array String) (t : Stretch) (place : Change → Nat × Nat × Nat) (alone : String) :
      String :=
    String.join ((List.range (t.stop - t.first)).map fun k =>
      let i := t.first + k
      let mark := match group.find? fun c => (place c).1 ≤ i && i < (place c).1 + (place c).2.1 with
        | some c => if (place c).2.2 > 0 then "!" else alone
        | none => " "
      m.marked mark (all.getD i ""))
  "***************" ++ functionAt m s l.first ++ "\n*** " ++ range l ++ " ****\n"
    ++ (if group.any (·.removed > 0) then
        side s.left l (fun c => (c.left, c.removed, c.added)) "-" else "")
    ++ "--- " ++ range r ++ " ----\n"
    ++ (if group.any (·.added > 0) then
        side s.right r (fun c => (c.right, c.added, c.removed)) "+" else "")

/-! ## Two columns -/

/-- The width of a column, and where the second one begins. -/
def Manner.layout (m : Manner) : Nat × Nat :=
  let tab := if m.expandTabs then 1 else 8
  let least := tab + 3
  let free := m.width / 2 + least / 2 + (if m.width % 2 = 1 && least % 2 = 1 then 1 else 0)
  let second := free - free % tab
  let half := min (second - 3) (m.width - second)
  (half, if half = 0 then m.width else second)

/-- The way from one column to another, by tabs if they are wanted. -/
def Manner.across (m : Manner) (start stop : Nat) : String :=
  let rec tabs : (limit : Nat) → Nat → List Char
    | 0, _ => []
    | limit + 1, at_ =>
      let next := at_ + 8 - at_ % 8
      if next ≤ stop then '\t' :: tabs limit next else List.replicate (stop - at_) ' '
  String.ofList (if m.expandTabs then List.replicate (stop - start) ' ' else tabs (stop + 1) start)

/-- A line in a column: its characters so far, where it has come to in the line, and in the column. -/
def Manner.half (m : Manner) (bound indent : Nat) : List Char → (column shown : Nat) →
    List Char × Nat
  | [], _, shown => ([], shown)
  | '\n' :: _, _, shown => ([], shown)
  | '\t' :: rest, column, shown =>
    let size := 8 - column % 8
    let stop := shown + size
    let (out, shown) : List Char × Nat :=
      if column != shown then ([], shown)
      else if m.expandTabs then (List.replicate (min stop bound - shown) ' ', max shown (min stop bound))
      else if stop < bound then (['\t'], stop) else ([], shown)
    let (more, shown) := m.half bound indent rest (column + size) shown
    (out ++ more, shown)
  | '\r' :: rest, _, _ =>
    let (more, shown) := m.half bound indent rest 0 0
    ('\r' :: (m.across 0 indent).toList ++ more, shown)
  | c :: rest, column, shown =>
    if isPlain c || c.toNat ≥ 0x80 then
      if column < bound then
        let (more, shown) := m.half bound indent rest (column + 1) (column + 1)
        (c :: more, shown)
      else m.half bound indent rest (column + 1) shown
    else
      let (more, shown') := m.half bound indent rest column shown
      (if column < bound then c :: more else more, shown')

/-- A line of both columns with a mark between them. -/
def Manner.row (m : Manner) (left : Option String) (mark : Char) (right : Option String) : String :=
  let (bound, second) := m.layout
  let hasEnd (l : Option String) : Bool := l.any (·.endsWith "\n")
  let (first, column) := match left with
    | some l => m.half bound 0 l.toList 0 0
    | none => ([], 0)
  let mark := if mark == '|' && hasEnd left != hasEnd right then
      (if hasEnd left then '/' else '\\')
    else mark
  let middle := (bound + second - 1) / 2
  let (sign, column) :=
    if mark == ' ' then ("", column) else (m.across column middle ++ mark.toString, middle + 1)
  let other := match right with
    | some l =>
      if l.startsWith "\n" then ""
      else m.across column second ++ String.ofList (m.half bound second l.toList 0 0).1
    | none => ""
  String.ofList first ++ sign ++ other ++ (if hasEnd left || hasEnd right then "\n" else "")

/-- Rows of lines that did not change. -/
def Manner.sameRows (m : Manner) (lefts rights : List String) : String :=
  if m.suppressCommon then ""
  else
    let size := min lefts.length rights.length
    String.join ((lefts.zip rights).map fun (l, r) =>
        if m.leftColumn then m.row (some l) '(' none else m.row (some l) ' ' (some r))
      ++ String.join ((rights.drop size).map fun r => m.row none ')' (some r))
      ++ String.join ((lefts.drop size).map fun l => m.row (some l) '(' none)

/-- All lines in two columns, from a pair of places on. -/
def columns (m : Manner) (s : Sides) : List Change → (i j : Nat) → String
  | [], i, j => m.sameRows (s.left.toList.drop i) (s.right.toList.drop j)
  | c :: rest, i, j =>
    if isTrivial m s c then columns m s rest i j
    else
      let lefts := linesAt s.left c.left c.removed
      let rights := linesAt s.right c.right c.added
      let size := min lefts.length rights.length
      m.sameRows (linesAt s.left i (c.left - i)) (linesAt s.right j (c.right - j))
        ++ String.join ((lefts.zip rights).map fun (l, r) => m.row (some l) '|' (some r))
        ++ String.join ((rights.drop size).map fun r => m.row none '>' (some r))
        ++ String.join ((lefts.drop size).map fun l => m.row (some l) '<' none)
        ++ columns m s rest (c.left + c.removed) (c.right + c.added)

/-! ## Files -/

/-- One of two files that are compared: its name, and what is known of it if it exists. -/
structure Side where
  name : String
  status : Option Status := none
  deriving Inhabited

/-- The heading of a file, with the time of its last change. -/
def Manner.heading (m : Manner) (mark : String) (label : Option String) (side : Side) : String :=
  mark ++ " " ++ (match label with
    | some l => l
    | none =>
      let time := (side.status.map (·.changed)).getD 0
      let moment := Text.Moment.ofSeconds (time / 1000000 : Nat)
      let digits := toString (time % 1000000)
      side.name ++ "\t" ++ (if m.style = some .context then moment.format (fun _ => none) "%c"
        else moment.format (fun _ => none) "%Y-%m-%d %H:%M:%S" ++ "."
          ++ String.ofList (List.replicate (6 - digits.length) '0') ++ digits ++ "000 +0000")) ++ "\n"

/-- The changes of a text as they are shown. -/
def Manner.shown (m : Manner) (a b : Side) (s : Sides) (all : List Change) : String :=
  let counted := all.filter fun c => !isTrivial m s c
  let groups := (grouped m s all).filter fun g => !(g.all (isTrivial m s))
  let heading (first second : String) : String :=
    if groups.isEmpty then ""
    else m.heading first m.labels.head? a ++ m.heading second (m.labels.drop 1).head? b
  match m.style.getD .normal with
  | .normal => String.join (counted.map (normal m s))
  | .editor => String.join (counted.reverse.map (edited m s))
  | .commands => String.join (counted.map (commanded m s))
  | .steps => String.join (counted.map (stepped s))
  | .context => heading "***" "---" ++ String.join (groups.map (contextual m s))
  | .unified => heading "---" "+++" ++ String.join (groups.map (unified m s))
  | .columns => columns m s all 0 0

/-- The lines of a text with their ends. -/
def endedLines (text : String) : List String :=
  let (lines, whole) := linesOf text
  if whole then lines.map ended
  else lines.dropLast.map ended ++ (lines.getLast?.filter (· != "")).toList

/-- Compares the texts of two files; `nested` tells that they stand in directories which are compared. -/
def texts (name : String) (m : Manner) (nested : Bool) (a b : Side) (x y : String) : Work Nat := do
  let isBinary := !m.text && (x.toList.contains '\x00' || y.toList.contains '\x00')
  if isBinary then
    if x == y then pure 0
    else
      put name ((if m.brief then "Files " else "Binary files ") ++ a.name ++ " and " ++ b.name
        ++ " differ\n")
      pure 1
  else
    let complete (lines : List String) : List String :=
      if m.isRobust then lines else lines.map fun l => if l.endsWith "\n" then l else l ++ "\n"
    let as := complete (endedLines x)
    let bs := complete (endedLines y)
    let all := Text.Difference.changes m.key m.context m.minimal as bs
    let s : Sides := { left := as.toArray, right := bs.toArray }
    let differs := all.any fun c => !isTrivial m s c
    let unended (side : Side) (text : String) : Work Bool := do
      if !m.isRobust && !m.brief && text != "" && !text.endsWith "\n" then
        report name (side.name ++ ": No newline at end of file\n")
        pure true
      else pure false
    if m.brief then
      if differs then put name ("Files " ++ a.name ++ " and " ++ b.name ++ " differ\n")
    else if differs || (m.style = some .columns && !m.suppressCommon) then
      if nested then put name ("diff" ++ m.given ++ " " ++ a.name ++ " " ++ b.name ++ "\n")
      put name (m.shown a b s all)
    let first ← unended a x
    let second ← unended b y
    pure (if first || second then 2 else if differs then 1 else 0)

/-- The names in two lists, each with whether it is in the first and in the second. -/
def namesOf (as bs : List String) : List (String × Bool × Bool) :=
  let all := (as ++ bs.filter fun b => !as.contains b).mergeSort fun x y => !(y < x)
  all.map fun n => (n, as.contains n, bs.contains n)

/-- Compares two things by their names; directories inside each other are as many as `limit` at most. -/
def things (name : String) (m : Manner) : (limit : Nat) → (depth : Nat) → String → String → Work Nat
  | 0, _, _, _ => pure 2
  | limit + 1, depth, a, b => do
    let look (path : String) : Work (Except Refusal Status) :=
      if path = "-" then Work.ask (.statusOf 0) else inspect path
    let isDir (s : Except Refusal Status) : Bool := match s with
      | .ok s => s.kind == .directory
      | .error _ => false
    let isThere (s : Except Refusal Status) : Bool := match s with
      | .ok _ => true
      | .error _ => false
    let x ← look a
    let y ← look b
    /- A file is compared with the one of its name in a directory. -/
    let joins := depth = 0 && isThere x && isThere y && isDir x != isDir y
    let (a, x) ← if joins && isDir x then
        let path := inside a (lastName b)
        pure (path, ← look path)
      else pure (a, x)
    let (b, y) ← if joins && isDir y then
        let path := inside b (lastName a)
        pure (path, ← look path)
      else pure (b, y)
    if joins && (a = "-" || b = "-") then
      report name "cannot compare '-' to a directory"
      Work.exit 2
    let missing (s : Except Refusal Status) : Bool := match s with
      | .error e => e.isMissing && m.newFile && !joins
      | .ok _ => false
    let failed (path : String) (s : Except Refusal Status) : Work Bool := do
      match s with
      | .error e =>
        if missing s then pure false
        else
          report name (path ++ ": " ++ e.text)
          pure true
      | .ok _ => pure false
    /- Files that are missing on both sides are not taken for empty ones. -/
    let lost ← if missing x && missing y then
        report name (a ++ ": " ++ Refusal.notFound.text)
        report name (b ++ ": " ++ Refusal.notFound.text)
        pure true
      else
        let first ← failed a x
        let second ← failed b y
        pure (first || second)
    let left : Side := { name := a, status := x.toOption }
    let right : Side := { name := b, status := y.toOption }
    if lost then pure 2
    else if isDir x && isDir y then
      if depth > 0 && !m.recursive then
        put name ("Common subdirectories: " ++ a ++ " and " ++ b ++ "\n")
        pure 0
      else
        let names (path : String) : Work (List String) := do
          match ← Work.ask (.entries path) with
          | .ok all => pure all
          | .error e =>
            report name (path ++ ": " ++ e.text)
            Work.exit 2
        let as ← names a
        let bs ← names b
        if (left.status.bind fun l => right.status.map l.same).getD false then pure 0
        else
          eachOf (namesOf as bs) fun (n, inA, inB) => do
            if (inA && inB) || m.newFile then
              things name m limit (depth + 1) (inside a n) (inside b n)
            else
              put name ("Only in " ++ (if inA then a else b) ++ ": " ++ n ++ "\n")
              pure 1
    else if (isDir x || isDir y) && isThere x && isThere y then
      let kind (s : Side) : String := ((s.status.map Describing.kindText).getD "")
      put name ("File " ++ a ++ " is a " ++ kind left ++ " while file " ++ b ++ " is a " ++ kind right
        ++ "\n")
      pure 1
    else
      let same := (left.status.bind fun l => right.status.map l.same).getD false
      let quiet := m.style != some .columns || m.suppressCommon
      let status ← if same && quiet then pure 0
        else
          let content (side : Side) : Work (Option String) := do
            if side.status.isNone then pure (some "")
            else
              match ← contentOf side.name with
              | .ok text => pure (some text)
              | .error e =>
                report name (side.name ++ ": " ++ e.text)
                pure none
          let x ← content left
          let y ← content right
          match x, y with
          | some x, some y => texts name m (depth > 0) left right x y
          | _, _ => pure 2
      if status = 0 && m.identical then
        put name ("Files " ++ a ++ " and " ++ b ++ " are identical\n")
      pure status

/-- The options of `diff`. -/
def options : Options :=
  let o := Options.make "0123456789abBcC:dD:eEfF:hHiI:lL:nNpPqrsS:tTuU:vwW:x:X:yZ^&()!"
      [("brief", 'q'), ("report-identical-files", 's'), ("ignore-case", 'i'), ("recursive", 'r'),
       ("ignore-all-space", 'w'), ("ignore-space-change", 'b'), ("ignore-tab-expansion", 'E'),
       ("ignore-trailing-space", 'Z'), ("ignore-blank-lines", 'B'), ("text", 'a'), ("new-file", 'N'),
       ("ed", 'e'), ("forward-ed", 'f'), ("rcs", 'n'),
       ("side-by-side", 'y'), ("normal", '^'), ("minimal", 'd'), ("speed-large-files", 'H'),
       ("expand-tabs", 't'), ("initial-tab", 'T'), ("label", 'L'), ("width", 'W'),
       ("show-c-function", 'p'), ("left-column", '('), ("suppress-common-lines", ')'),
       ("strip-trailing-cr", '!'), ("no-dereference", '&')]
  { o with names := ("unified", 'U', .optional) :: ("context", 'C', .optional) :: o.names }

/-- The manner with one more option; a message says what is wrong with it. -/
def Manner.withOption (m : Manner) (c : Char) (value : Option String) : Except String Manner := do
  let styled (style : Style) (m : Manner) : Except String Manner :=
    if m.style.any (· != style) then .error "conflicting output style options"
    else .ok { m with style := some style }
  let number (what : String) : Except String Nat :=
    match value with
    | none => .ok 3
    | some v =>
      if v != "" && v.toList.all Char.isDigit then .ok (v.toNat?.getD 0)
      else .error ("invalid " ++ what ++ " '" ++ v ++ "'")
  match c with
  | 'a' => .ok { m with text := true }
  | 'b' => .ok { m with blanks := if m.blanks = .none then .none else .amount }
  | 'B' => .ok { m with ignoreBlankLines := true }
  | 'c' => styled .context { m with context := max 3 m.context }
  | 'u' => styled .unified { m with context := max 3 m.context }
  | 'C' => do
    let n ← number "context length"
    styled .context { m with context := max n m.context, explicit := true }
  | 'U' => do
    let n ← number "context length"
    styled .unified { m with context := max n m.context, explicit := true }
  | 'd' => .ok { m with minimal := true }
  | 'e' => styled .editor m
  | 'E' => .ok { m with blanks := match m.blanks with
      | .exact => .tabs
      | .ends => .tabsAndEnds
      | b => b }
  | 'Z' => .ok { m with blanks := match m.blanks with
      | .exact => .ends
      | .tabs => .tabsAndEnds
      | b => b }
  | 'f' => styled .commands m
  | 'i' => .ok { m with ignoreCase := true }
  | 'L' =>
    if m.labels.length ≥ 2 then .error "too many file label options"
    else .ok { m with labels := m.labels ++ value.toList }
  | 'n' => styled .steps m
  | 'N' => .ok { m with newFile := true }
  | 'p' => .ok { m with functions := true }
  | 'q' => .ok { m with brief := true }
  | 'r' => .ok { m with recursive := true }
  | 's' => .ok { m with identical := true }
  | 't' => .ok { m with expandTabs := true }
  | 'T' => .ok { m with initialTab := true }
  | 'w' => .ok { m with blanks := .none }
  | 'W' => do
    let n ← number "width"
    if n = 0 then .error ("invalid width '" ++ value.getD "" ++ "'") else .ok { m with width := n }
  | 'y' => styled .columns m
  | '^' => styled .normal m
  | '(' => .ok { m with leftColumn := true }
  | ')' => .ok { m with suppressCommon := true }
  | c =>
    if c.isDigit then .ok { m with digits := some ((m.digits.getD 0) * 10 + (c.toNat - 48)) }
    else .ok m

/-- The manner when all options are known. -/
def Manner.settled (m : Manner) : Manner :=
  let m := if m.style.isSome then m
    else if m.functions then
      { m with style := some .context, context := if m.digits.isSome then m.context else 3 }
    else { m with style := some .normal }
  match m.digits with
  | some n =>
    if (m.style = some .context || m.style = some .unified)
        && (m.context < n || (n < m.context && !m.explicit)) then { m with context := n }
    else m
  | none => m

end Difference

/-- Shows how two files differ. -/
def diff : Program := fun argv _ => do
  let name := argv.head?.getD ""
  let wrong {α : Type} (message : String) : Work α := do
    report name message
    report name ("Try '" ++ name ++ " --help' for more information.")
    Work.exit 2
  let args := argv.drop 1
  let (c, mistake) := gatherArguments Difference.options args.length args
  let m ← match c.options.foldlM (fun (m : Difference.Manner) o => m.withOption o.1 o.2) {} with
    | .ok m => pure m.settled
    | .error message => wrong message
  if let some message := mistake then wrong message
  let given := String.join ((args.filter fun a => !c.rest.contains a).map fun a =>
    " " ++ shellQuoteIfNeeded a)
  match c.rest with
  | [] => wrong ("missing operand after '" ++ argv.getLast?.getD name ++ "'")
  | [a] => wrong ("missing operand after '" ++ a ++ "'")
  | _ :: _ :: extra :: _ => wrong ("extra operand '" ++ extra ++ "'")
  | [a, b] => Difference.things name { m with given := given } 1000 0 a b

end HardenAudit.Program
