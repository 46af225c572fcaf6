/-!
# Days and times of day

A moment is a number of seconds since the first of January 1970.  Its parts are written by a format
in which each of them has a letter.
-/

namespace HardenAudit.Text

/-- A moment by its parts, without regard to the place on earth. -/
structure Moment where
  seconds : Int
  year : Int
  /-- From one. -/
  month : Nat
  /-- From one. -/
  day : Nat
  hour : Nat
  minute : Nat
  second : Nat
  /-- From Sunday, which is nothing. -/
  weekday : Nat
  /-- From nothing. -/
  yearDay : Nat
  deriving Repr, Inhabited

namespace Moment

/-- The days from 1970 to a day; months and days may be beyond their ends. -/
def daysTo (year : Int) (month day : Int) : Int :=
  let year := year + Int.fdiv (month - 1) 12
  let month := Int.fmod (month - 1) 12 + 1
  let y := if month ≤ 2 then year - 1 else year
  let era := Int.fdiv y 400
  let yoe := y - era * 400
  let mp := Int.fmod (month + 9) 12
  let doy := (153 * mp + 2) / 5 + day - 1
  era * 146097 + yoe * 365 + yoe / 4 - yoe / 100 + doy - 719468

/-- The year, the month and the day of a number of days since the first of January 1970. -/
def dateOf (days : Int) : Int × Nat × Nat :=
  let z := days + 719468
  let era := Int.fdiv z 146097
  let doe := (z - era * 146097).toNat
  let yoe := (doe - doe / 1460 + doe / 36524 - doe / 146096) / 365
  let doy := doe - (365 * yoe + yoe / 4 - yoe / 100)
  let mp := (5 * doy + 2) / 153
  let d := doy - (153 * mp + 2) / 5 + 1
  let m := if mp < 10 then mp + 3 else mp - 9
  let y : Int := yoe + era * 400
  (if m ≤ 2 then y + 1 else y, m, d)

/-- The parts of a moment. -/
def ofSeconds (seconds : Int) : Moment :=
  let days := Int.fdiv seconds 86400
  let rest := (seconds - days * 86400).toNat
  let (year, month, day) := dateOf days
  { seconds := seconds, year := year, month := month, day := day
    hour := rest / 3600, minute := rest / 60 % 60, second := rest % 60
    weekday := (Int.fmod (days + 4) 7).toNat
    yearDay := (days - daysTo year 1 1).toNat }

def dayNames : List String :=
  ["Sunday", "Monday", "Tuesday", "Wednesday", "Thursday", "Friday", "Saturday"]

def monthNames : List String :=
  ["January", "February", "March", "April", "May", "June", "July", "August", "September", "October",
   "November", "December"]

/-- The name of the day. -/
def dayName (m : Moment) : String := dayNames.getD m.weekday ""

/-- The name of the month. -/
def monthName (m : Moment) : String := monthNames.getD (m.month - 1) ""

/-- The first three letters of a name. -/
def short (name : String) : String := String.ofList (name.toList.take 3)

/-- Weeks of the year that have begun, if weeks begin on a day of the week. -/
def weeksFrom (m : Moment) (start : Nat) : Nat := (m.yearDay + 7 - (m.weekday + 7 - start) % 7) / 7

/-- The days of a year. -/
def yearLength (year : Int) : Int := daysTo (year + 1) 1 1 - daysTo year 1 1

/-- The year and the number of the week to which a day belongs, if the first week is the one with the
first Thursday. -/
def thursdayWeek (m : Moment) : Int × Nat :=
  /- The place in the year of the Thursday of the same week. -/
  let thursday : Int := m.yearDay + 3 - ((m.weekday + 6) % 7 : Nat)
  if thursday < 0 then (m.year - 1, ((thursday + yearLength (m.year - 1)) / 7).toNat + 1)
  else if thursday ≥ yearLength m.year then (m.year + 1, 1)
  else (m.year, (thursday / 7).toNat + 1)

/-! ## Formats -/

/-- What a letter stands for. -/
inductive Part where
  /-- A number with its least width and what fills it. -/
  | number (n : Int) (width : Nat) (fill : Char)
  | text (s : String)
  /-- Other parts. -/
  | parts (format : String)
  deriving Repr

/-- What a letter stands for. -/
def part? (m : Moment) (c : Char) : Option Part :=
  let two (n : Nat) : Part := .number n 2 '0'
  let twelve := if m.hour % 12 = 0 then 12 else m.hour % 12
  match c with
  | 'a' => some (.text (short m.dayName))
  | 'A' => some (.text m.dayName)
  | 'b' | 'h' => some (.text (short m.monthName))
  | 'B' => some (.text m.monthName)
  | 'c' => some (.parts "%a %b %e %H:%M:%S %Y")
  | 'C' => some (.number (Int.fdiv m.year 100) 2 '0')
  | 'd' => some (two m.day)
  | 'D' | 'x' => some (.parts "%m/%d/%y")
  | 'e' => some (.number m.day 2 ' ')
  | 'F' => some (.parts "%Y-%m-%d")
  | 'g' => some (.number (Int.fmod m.thursdayWeek.1 100) 2 '0')
  | 'G' => some (.number m.thursdayWeek.1 4 '0')
  | 'H' => some (two m.hour)
  | 'I' => some (two twelve)
  | 'j' => some (.number (m.yearDay + 1 : Nat) 3 '0')
  | 'k' => some (.number m.hour 2 ' ')
  | 'l' => some (.number twelve 2 ' ')
  | 'm' => some (two m.month)
  | 'M' => some (two m.minute)
  | 'n' => some (.text "\n")
  | 'p' => some (.text (if m.hour < 12 then "AM" else "PM"))
  | 'P' => some (.text (if m.hour < 12 then "am" else "pm"))
  | 'r' => some (.parts "%I:%M:%S %p")
  | 'R' => some (.parts "%H:%M")
  | 's' => some (.number m.seconds 1 '0')
  | 'S' => some (two m.second)
  | 't' => some (.text "\t")
  | 'T' | 'X' => some (.parts "%H:%M:%S")
  | 'u' => some (.number (if m.weekday = 0 then 7 else m.weekday : Nat) 1 '0')
  | 'U' => some (two (m.weeksFrom 0))
  | 'V' => some (two m.thursdayWeek.2)
  | 'w' => some (.number m.weekday 1 '0')
  | 'W' => some (two (m.weeksFrom 1))
  | 'y' => some (.number (Int.fmod m.year 100) 2 '0')
  | 'Y' => some (.number m.year 1 '0')
  | 'z' => some (.text "+0000")
  | 'Z' => some (.text "UTC")
  | '%' => some (.text "%")
  | _ => none

/-- How a part is written: what it is filled with, if not as usual, its least width, and whether its
letters are changed. -/
structure Style where
  fill : Option Char := none
  width : Nat := 0
  upper : Bool := false
  opposite : Bool := false

/-- A text at the right end of some columns. -/
def Style.fit (s : Style) (text : String) : String :=
  if s.fill == some '-' then text
  else
    let filler := if s.fill == some '0' then '0' else ' '
    String.ofList (List.replicate (s.width - text.length) filler) ++ text

/-- A number in a style. -/
def Style.number (s : Style) (n : Int) (width : Nat) (fill : Char) : String :=
  let digits := toString n.natAbs
  let sign := if n < 0 then "-" else ""
  let filler := match s.fill with
    | some '_' => ' '
    | some '0' => '0'
    | _ => fill
  let width := if s.fill == some '-' then 0 else if s.width = 0 then width else s.width
  let pad := String.ofList (List.replicate (width - digits.length - sign.length) filler)
  if filler == ' ' then pad ++ sign ++ digits else sign ++ pad ++ digits

/-- A text in a style; the opposite of capitals are small letters for marks that are written in
capitals, and capitals for names. -/
def Style.text (s : Style) (c : Char) (text : String) : String :=
  let text :=
    if s.opposite && (c == 'p' || c == 'Z') then text.toLower
    else if s.upper || s.opposite then text.toUpper
    else text
  s.fit text

/-- The characters that change the style of a part. -/
def Style.read : List Char → Style → Style × List Char
  | c :: rest, s =>
    if c == '_' || c == '-' || c == '0' then Style.read rest { s with fill := some c }
    else if c == '+' then Style.read rest { s with fill := some '0' }
    else if c == '^' then Style.read rest { s with upper := true }
    else if c == '#' then Style.read rest { s with opposite := true }
    else (s, c :: rest)
  | [], s => (s, [])

/-- A moment by a format, with parts of formats to a depth.  `more` knows further letters. -/
def write (m : Moment) (more : Char → Option Part) : (depth limit : Nat) → List Char → String
  | _, 0, _ => ""
  | _, _, [] => ""
  | depth, limit + 1, '%' :: rest =>
    let (style, behind) := Style.read rest {}
    let digits := behind.takeWhile Char.isDigit
    let style := { style with
      width := digits.foldl (fun n (d : Char) => n * 10 + (d.toNat - 48)) 0 }
    let behind := behind.drop digits.length
    let behind := match behind with
      | 'E' :: c :: cs | 'O' :: c :: cs => c :: cs
      | cs => cs
    match behind with
    | [] => style.fit (String.ofList ('%' :: rest))
    | c :: after =>
      let raw := '%' :: rest.take (rest.length - after.length)
      let shown := match (more c).or (m.part? c) with
        | none => String.ofList raw
        | some (.number n width fill) => style.number n width fill
        | some (.text s) => style.text c s
        | some (.parts f) =>
          match depth with
          | 0 => ""
          | depth + 1 => style.text ' ' (m.write more depth (f.length + 1) f.toList)
      shown ++ m.write more depth limit after
  | depth, limit + 1, c :: rest => c.toString ++ m.write more depth limit rest

/-- A moment by a format. -/
def format (m : Moment) (more : Char → Option Part) (text : String) : String :=
  m.write more 2 (text.length + 1) text.toList

end Moment

end HardenAudit.Text
