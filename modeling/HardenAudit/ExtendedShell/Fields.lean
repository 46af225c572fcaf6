import HardenAudit.ExtendedShell.Pattern

/-!
# Fields

The result of an expansion is a row of cells.  Characters that came from outside may separate fields;
other places separate them in any case.
-/

namespace HardenAudit.ExtendedShell

/-- A cell of an expanded word. -/
inductive Cell where
  /-- A character; does it stand for itself only, and may it separate fields? -/
  | char (c : Char) (literal : Bool) (split : Bool)
  /-- A place where quotes stood: it makes a field, even if the field is empty. -/
  | mark
  /-- A place between two fields. -/
  | gap
  deriving DecidableEq, Repr, Inhabited

namespace Cell

/-- The text of cells; what stands between two fields is a blank. -/
def text (cells : List Cell) : String :=
  String.ofList (cells.filterMap fun (c : Cell) => match c with
    | .char c _ _ => some c
    | .gap => some ' '
    | .mark => none)

/-- The cells as a pattern. -/
def atoms (cells : List Cell) : List Pattern.Atom :=
  cells.filterMap fun (c : Cell) => match c with
    | .char c literal _ => some (c, literal)
    | .gap => some (' ', true)
    | .mark => none

/-- Characters that stand for themselves. -/
def solid (chars : List Char) : List Cell := chars.map (.char · true false)

/-- Characters from outside: in quotes they stand for themselves, otherwise they split. -/
def foreign (quoted : Bool) (text : String) : List Cell :=
  text.toList.map (.char · quoted (!quoted))

end Cell

/-- Splitting under way. -/
structure Splitting where
  separators : List Char
  done : List (List Cell) := []
  /-- The field that is being read, in reverse. -/
  current : List Cell := []
  /-- Was a field ended by blanks, so that a separator behind them belongs to its end? -/
  blank : Bool := false
  deriving Inhabited

namespace Splitting

/-- Is the character a separator that is a blank? -/
def isBlank (c : Char) : Bool := c == ' ' || c == '\t' || c == '\n'

/-- Ends the field that is being read. -/
def close (s : Splitting) : Splitting :=
  { s with done := s.current.reverse :: s.done, current := [] }

/-- One cell. -/
def step (s : Splitting) (cell : Cell) : Splitting :=
  match cell with
  | .gap => if s.current.isEmpty then { s with blank := false } else { s.close with blank := false }
  | .char c _ true =>
    if s.separators.contains c then
      if isBlank c then
        if s.current.isEmpty then s else { s.close with blank := true }
      else if s.blank then { s with blank := false }
      else s.close
    else { s with current := cell :: s.current, blank := false }
  | _ => { s with current := cell :: s.current, blank := false }

/-- The fields. -/
def finish (s : Splitting) : List (List Cell) :=
  (if s.current.isEmpty then s.done else s.current.reverse :: s.done).reverse

end Splitting

/-- The fields of a row of cells. -/
def splitFields (separators : String) (cells : List Cell) : List (List Cell) :=
  (cells.foldl Splitting.step { separators := separators.toList }).finish

end HardenAudit.ExtendedShell
