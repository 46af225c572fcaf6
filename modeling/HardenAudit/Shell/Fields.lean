import HardenAudit.Shell.Pattern

/-!
# Fields

The result of an expansion is a row of cells.  Characters that came from outside stand in stretches
in which separators split the row into fields.  A stretch of arguments is split only where one
argument ends and the next one starts, which is marked by the character zero.
-/

namespace HardenAudit.Shell

/-- A cell of an expanded word. -/
inductive Cell where
  /-- A character; does it stand for itself only, and may it separate fields? -/
  | char (c : Char) (literal : Bool) (split : Bool)
  /-- A place where quotes stood: it makes a field, even if the field is empty. -/
  | mark
  /-- The start of a stretch; is it one of arguments? -/
  | start (arguments : Bool)
  deriving Repr, Inhabited

namespace Cell

/-- The character between two arguments. -/
def gap : Char := Pattern.gap

/-- The text of cells. -/
def text (cells : List Cell) : String :=
  String.ofList (cells.filterMap fun (c : Cell) => match c with
    | .char c _ _ => some c
    | _ => none)

/-- The cells as a pattern. -/
def pattern (cells : List Cell) : List Pattern.Atom :=
  cells.filterMap fun (c : Cell) => match c with
    | .char c literal _ => some (c, literal)
    | _ => none

end Cell

/-- Splitting under way. -/
structure Splitting where
  separators : List Char
  /-- Fields that may still be made, the last one included; no limit if there is none. -/
  left : Option Nat := none
  done : List (List Cell) := []
  /-- The field that is being read, in reverse. -/
  current : List Cell := []
  /-- Have only blanks been read since the last field? -/
  blank : Bool := false
  arguments : Bool := false
  afterArguments : Bool := false
  /-- In the last field: how many cells to keep, if separators at its end are to be dropped. -/
  keep : Option Nat := none

namespace Splitting

/-- Is the character a separator that is a blank? -/
def isBlank (c : Char) : Bool := c == ' ' || c == '\t' || c == '\n' || c == Cell.gap

/-- Is the character a separator? -/
def separates (s : Splitting) (c : Char) : Bool :=
  c == Cell.gap || (!s.arguments && s.separators.contains c)

/-- Ends the field that is being read. -/
def close (s : Splitting) : Splitting :=
  { s with done := s.current.reverse :: s.done, current := [] }

/-- A character in the last field, which takes everything that is left. -/
def last (s : Splitting) (cell : Cell) (blank separator : Bool) : Splitting :=
  let size := s.current.length
  let s := { s with current := cell :: s.current }
  if blank then { s with keep := s.keep.or (some size) }
  else
    let s := if separator && s.blank then s else { s with keep := none }
    { s with blank := false }

/-- A character that may separate fields. -/
def character (s : Splitting) (cell : Cell) (c : Char) : Splitting :=
  let separator := s.separates c
  let blank := separator && isBlank c
  if s.left == some 0 then s.last cell blank separator
  else if s.blank && blank then { s with current := [] }
  else if s.blank then
    if separator then { s with current := [], blank := false }
    else { s with current := [cell], blank := false }
  else if separator then
    let s := if s.afterArguments || s.arguments then s else { s with blank := blank }
    if s.current.isEmpty && s.blank then { s with blank := false }
    else
      match s.left with
      | some 1 => { s with left := some 0, keep := some s.current.length, current := cell :: s.current }
      | left => { s.close with left := left.map (· - 1) }
  else { s with current := cell :: s.current, blank := false }

/-- One cell. -/
def step (s : Splitting) (cell : Cell) : Splitting :=
  match cell with
  | .start arguments =>
    { s with afterArguments := s.arguments, arguments := arguments, blank := false }
  | .char c _ true => s.character cell c
  | _ => { s with current := cell :: s.current }

/-- The fields. -/
def finish (s : Splitting) : List (List Cell) :=
  let current := match s.keep with
    | some size => s.current.drop (s.current.length - size)
    | none => s.current
  if current.isEmpty && !s.arguments then s.done.reverse
  else (current.reverse :: s.done).reverse

end Splitting

/-- The fields of a row of cells, all of them or so many at most. -/
def splitFields (separators : String) (most : Option Nat) (cells : List Cell) : List (List Cell) :=
  (cells.foldl Splitting.step { separators := separators.toList, left := most }).finish

end HardenAudit.Shell
