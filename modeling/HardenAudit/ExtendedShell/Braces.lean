import HardenAudit.ExtendedShell.Syntax
import HardenAudit.Shell.Number

/-!
# Alternatives in braces

A word with braces around alternatives or around a row of numbers or letters stands for several
words.
-/

namespace HardenAudit.ExtendedShell.Braces

/-- Is the piece a certain plain character? -/
def isPlain (c : Char) : Piece → Bool
  | .plain d => d == c
  | _ => false

/-- What is inside of a brace that was opened, and what is behind it; none if it is not closed. -/
def closing? : (depth : Nat) → List Piece → List Piece → Option (List Piece × List Piece)
  | _, [], _ => none
  | depth, p :: rest, found =>
    if isPlain '\x7b' p then closing? (depth + 1) rest (p :: found)
    else if isPlain '\x7d' p then
      if depth = 0 then some (found.reverse, rest) else closing? (depth - 1) rest (p :: found)
    else closing? depth rest (p :: found)

/-- The parts between commas outside of inner braces. -/
def alternatives : (depth : Nat) → List Piece → (current : List Piece) → List (List Piece)
  | _, [], current => [current.reverse]
  | depth, p :: rest, current =>
    if isPlain ',' p && depth == 0 then current.reverse :: alternatives depth rest []
    else
      let depth := if isPlain '\x7b' p then depth + 1 else if isPlain '\x7d' p then depth - 1 else depth
      alternatives depth rest (p :: current)

/-- The number that a text is. -/
def number? (text : String) : Option Int :=
  match text.toList with
  | '-' :: rest => if rest.isEmpty || !rest.all Char.isDigit then none else Shell.wholeNumber? 10 text
  | '+' :: rest => if rest.isEmpty || !rest.all Char.isDigit then none else Shell.wholeNumber? 10 text
  | cs => if cs.isEmpty || !cs.all Char.isDigit then none else Shell.wholeNumber? 10 text

/-- Members of a row at most. -/
def rowLimit : Nat := 1000000

/-- The numbers from one to another. -/
def row (first last step : Int) : List Int :=
  let size := step.natAbs
  let size := if size = 0 then 1 else size
  let count := (last - first).natAbs / size + 1
  let step : Int := if first ≤ last then size else -(size : Int)
  (List.range (min count rowLimit)).map fun (i : Nat) => first + (i : Int) * step

/-- A number filled up with zeros to a width. -/
def padded (width : Nat) (n : Int) : String :=
  let ds := toString n.natAbs
  let sign := if n < 0 then "-" else ""
  sign ++ String.ofList (List.replicate (width - sign.length - ds.length) '0') ++ ds

/-- Is the number written with zeros in front? -/
def hasZeros (text : String) : Bool :=
  match text.toList with
  | '0' :: _ :: _ | '-' :: '0' :: _ :: _ => true
  | _ => false

/-- The texts that a row in braces stands for. -/
def sequence? (text : String) : Option (List String) :=
  match text.splitOn ".." with
  | first :: last :: rest =>
    let step := match rest with
      | [] => some 1
      | [s] => number? s
      | _ => none
    match step with
    | none => none
    | some step =>
      match number? first, number? last with
      | some a, some b =>
        let width := if hasZeros first || hasZeros last then max first.length last.length else 0
        some ((row a b step).map (padded width))
      | _, _ =>
        match first.toList, last.toList with
        | [a], [b] =>
          if a.isAlpha && b.isAlpha then
            some ((row a.toNat b.toNat step).map fun n => (Char.ofNat n.toNat).toString)
          else none
        | _, _ => none
  | _ => none

/-- The text of plain pieces. -/
def text? (ps : List Piece) : Option String :=
  (ps.mapM fun (p : Piece) => match p with
    | .plain c => some c
    | _ => none).map String.ofList

/-- The pieces of the words that a word stands for.  Each round goes behind a brace, so `limit` may be
the number of pieces. -/
def expand : (limit : Nat) → List Piece → List (List Piece)
  | 0, ps => [ps]
  | limit + 1, ps =>
    let before := ps.takeWhile (!isPlain '\x7b' ·)
    match ps.drop before.length with
    | [] => [ps]
    | brace :: rest =>
      let literal : List (List Piece) :=
        (expand limit rest).map fun r => before ++ brace :: r
      match closing? 0 rest [] with
      | none => literal
      | some (inside, after) =>
        let parts := alternatives 0 inside []
        let results : Option (List (List Piece)) :=
          if parts.length > 1 then some (parts.flatMap (expand limit))
          else
            ((text? inside).bind sequence?).map fun texts =>
              texts.map fun t => t.toList.map Piece.plain
        match results with
        | none => literal
        | some results =>
          let tails := expand limit after
          results.flatMap fun r => tails.map fun t => before ++ r ++ t

/-- The words that a word stands for. -/
def words (w : Word) : List Word :=
  if w.pieces.any (isPlain '\x7b') then
    (expand (w.pieces.length + 1) w.pieces).map fun ps => .mk w.raw ps
  else [w]

end HardenAudit.ExtendedShell.Braces
