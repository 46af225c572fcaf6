import HardenAudit.Program.Columns

/-!
# Tabs and blanks: `expand`, `unexpand`
-/

namespace HardenAudit.Program

open Kernel (Work)

/-- Where tabs lead to: to places in a list, and behind them to every multiple of a size, counted
from the start or from the last place. -/
structure TabStops where
  places : List Nat := []
  size : Option Nat := none
  fromLast : Bool := false
  deriving Repr, Inhabited

namespace TabStops

/-- The next place behind a column, if there is one. -/
def next? (t : TabStops) (column : Nat) : Option Nat :=
  match t.places.find? (· > column) with
  | some place => some place
  | none => t.size.map fun size =>
    let base := if t.fromLast then t.places.getLast?.getD 0 else 0
    column + (size - (column - base) % size)

/-- Reads one place, or the size behind the places. -/
def place (text : String) (t : TabStops) : Except String TabStops := do
  let (mark, cs) := match text.toList with
    | '/' :: cs => ('/', cs)
    | '+' :: cs => ('+', cs)
    | cs => (' ', cs)
  let digits := cs.takeWhile Char.isDigit
  let n := (Shell.digits 10 digits 0 0).1
  if digits.length < cs.length then
    throw ("tab size contains invalid character(s): " ++ quote (String.ofList (cs.drop digits.length)))
  if n ≥ 0x8000000000000000 then throw ("tab stop is too large " ++ quote (String.ofList digits))
  if let some _ := t.size then
    throw ((if t.fromLast then quote "+" else quote "/") ++ " specifier only allowed with the last value")
  if mark == ' ' then pure { t with places := t.places ++ [n] }
  else pure { t with size := if n = 0 then none else some n, fromLast := mark == '+' }

/-- Do numbers grow? -/
def grow : List Nat → Bool
  | a :: b :: rest => a < b && grow (b :: rest)
  | _ => true

/-- The places that a list names. -/
def ofText (text : String) : Except String TabStops := do
  let text := String.ofList (text.toList.map fun c => if isGap c then ',' else c)
  let t ← ((text.splitOn ",").filter (· != "")).foldlM (fun t p => place p t) ({} : TabStops)
  if t.places.contains 0 then throw "tab size cannot be 0"
  if !grow t.places then throw "tab sizes must be ascending"
  match t.places, t.size with
  | [], none => pure { t with size := some 8 }
  | [one], none => pure { places := [], size := some one }
  | _, _ => pure t

end TabStops

/-! ## Tabs to blanks -/

/-- A line with blanks for tabs, in reverse; with `initial` only those before all other characters. -/
def expanded (t : TabStops) (initial : Bool) : List Char → (column : Nat) → (live : Bool) →
    List Char → List Char
  | [], _, _, out => out
  | c :: rest, column, live, out =>
    let still := live && (!initial || c == ' ' || c == '\t')
    if !live then expanded t initial rest column false (c :: out)
    else if c == '\t' then
      let next := (t.next? column).getD (column + 1)
      expanded t initial rest next still (List.replicate (next - column) ' ' ++ out)
    else if c == '\x08' then expanded t initial rest (column - 1) still (c :: out)
    else expanded t initial rest (column + 1) still (c :: out)

/-! ## Blanks to tabs -/

/-- How far a line has been worked through. -/
structure Blanks where
  column : Nat := 0
  live : Bool := true
  /-- Blanks that may become a tab, the last one first. -/
  pending : List Char := []
  /-- Is the first of them a single one right before a place? -/
  single : Bool := false
  afterBlank : Bool := false
  out : List Char := []

namespace Blanks

/-- Puts the pending blanks and a character out. -/
def flush (b : Blanks) (c : Char) (isBlank whole : Bool) : Blanks :=
  let pending := if b.pending.length > 1 && b.single then b.pending.dropLast ++ ['\t'] else b.pending
  { b with
    out := c :: pending ++ b.out, pending := [], afterBlank := isBlank
    single := b.single && b.pending.isEmpty, live := b.live && (whole || isBlank) }

/-- Takes one character. -/
def step (t : TabStops) (whole : Bool) (b : Blanks) (c : Char) : Blanks :=
  if !b.live then { b with out := c :: b.out }
  else if c == ' ' || c == '\t' then
    match t.next? b.column with
    | none => { b with live := false }.flush c true whole
    | some next =>
      /- The blanks before a place give way to a tab, save for one right before the last place. -/
      let tab (b : Blanks) : Blanks :=
        { b with pending := if b.single then ['\t'] else [] }.flush '\t' true whole
      if c == '\t' then
        let first := if b.pending.isEmpty then [] else b.pending.dropLast ++ ['\t']
        tab { b with column := next, pending := first }
      else if b.afterBlank && b.column + 1 = next then tab { b with column := next }
      else
        { b with
          column := b.column + 1, pending := c :: b.pending, afterBlank := true
          single := b.single || b.column + 1 = next }
  else if c == '\x08' then { b with column := b.column - 1 }.flush c false whole
  else { b with column := b.column + 1 }.flush c false whole

/-- A line with tabs for blanks. -/
def line (t : TabStops) (whole : Bool) (cs : List Char) : List Char :=
  let b := cs.foldl (step t whole) {}
  let pending := if b.pending.length > 1 && b.single then b.pending.dropLast ++ ['\t'] else b.pending
  (pending ++ b.out).reverse

end Blanks

/-! ## Programs -/

/-- The arguments with numbers that follow a dash turned into an option. -/
def modernTabs (argv : List String) : List String :=
  argv.map fun a => match a.toList with
    | '-' :: c :: cs => if c.isDigit then "-t" ++ String.ofList (c :: cs) else a
    | _ => a

/-- The places that a call names. -/
def tabStopsOf (c : Call) : Work TabStops := do
  let lists := c.options.filterMap fun o => if o.1 == 't' then o.2 else none
  match TabStops.ofText (",".intercalate lists) with
  | .ok t => pure t
  | .error message => giveUp c.name 1 message

/-- Replaces tabs by blanks. -/
def expand : Program := fun argv _ => do
  let c ← call (.make "it:" [("initial", 'i'), ("tabs", 't')]) 1 (modernTabs argv)
  let t ← tabStopsOf c
  eachLine c () fun _ line isEnded =>
    { state := ()
      out := String.ofList (expanded t (c.has 'i') line.toList 0 true []).reverse
        ++ (if isEnded then "\n" else "") }

/-- Replaces blanks by tabs. -/
def unexpand : Program := fun argv _ => do
  let o := Options.make "at:" [("all", 'a'), ("tabs", 't')]
  let o := { o with names := o.names ++ [("first-only", 'F', .nothing)] }
  let c ← call o 1 (modernTabs argv)
  let t ← tabStopsOf c
  let whole := (c.has 'a' || c.has 't') && !c.has 'F'
  eachLine c () fun _ line isEnded =>
    { state := ()
      out := String.ofList (Blanks.line t whole line.toList) ++ (if isEnded then "\n" else "") }

end HardenAudit.Program
