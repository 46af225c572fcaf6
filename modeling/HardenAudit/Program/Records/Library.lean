import HardenAudit.Program.Records.Streams
import HardenAudit.Text.Calendar

/-!
# The functions that are always there

Functions on texts and numbers, the writing of values by a format, and the replacement of matches.
-/

namespace HardenAudit.Program.Records

open Shell (Conversion)

/-! ## Parts of texts -/

/-- The nearest integer; a half goes to the even one. -/
def nearest (x : Float) : Int :=
  let low := x.floor
  let rest := x - low
  let n := wholeOf low
  if rest < 0.5 then n else if rest > 0.5 then n + 1 else if n % 2 = 0 then n else n + 1

/-- The part of a text from a place on, of a length if one is given; places outside of the text do not
count. -/
def substring (text : String) (start : Float) (length : Option Float) : String :=
  let first := nearest start
  let stop : Int := match length with
    | none => text.length + 1
    | some n => if n != n then first else nearest (start + n)
  let first := max 1 first
  let stop := min stop (text.length + 1)
  if stop ≤ first then ""
  else String.ofList ((text.toList.drop (first - 1).toNat).take (stop - first).toNat)

/-- The place of a part in a text, from one on, or zero. -/
def placeOf (part : List Char) : List Char → Nat → Nat
  | [], n => if part.isEmpty then n else 0
  | c :: cs, n => if part.isPrefixOf (c :: cs) then n else placeOf part cs (n + 1)

/-! ## Replacing -/

/-- What takes the place of a match: characters, or the match itself. -/
inductive Replacing where
  | text (cs : List Char)
  | whole
  deriving Inhabited

/-- Reads what takes the place of a match.  Backslashes before the sign for the match go in pairs, and an
odd one takes its meaning away.  Each round takes a character, so `limit` may be their number. -/
def readReplacing : (limit : Nat) → List Char → List Replacing
  | 0, _ => []
  | _, [] => []
  | limit + 1, '&' :: rest => .whole :: readReplacing limit rest
  | limit + 1, '\\' :: rest =>
    let more := rest.takeWhile (· == '\\')
    let after := rest.drop more.length
    let count := more.length + 1
    match after with
    | '&' :: after =>
      .text (List.replicate (count / 2) '\\')
        :: (if count % 2 = 1 then .text ['&'] else .whole) :: readReplacing limit after
    | _ => .text (List.replicate count '\\') :: readReplacing limit after
  | limit + 1, c :: rest => .text [c] :: readReplacing limit rest

/-- The characters that take the place of a match. -/
def replaced (parts : List Replacing) (match_ : List Char) : List Char :=
  parts.flatMap fun (p : Replacing) => match p with
    | .text cs => cs
    | .whole => match_

/-- Replaces matches from a place on: the text, and how many there were.  Each round goes a character
further, so `limit` may be their number. -/
def replaceFrom (r : Regex) (t : Regex.Subject) (parts : List Replacing) (all : Bool) :
    (limit : Nat) → (place : Nat) → (afterMatch : Bool) → List (List Char) → Nat →
    List (List Char) × Nat
  | 0, _, _, out, n => (out, n)
  | limit + 1, place, afterMatch, out, n =>
    match Rec.search r t place with
    | none => (t.slice place t.chars.size :: out, n)
    | some m =>
      let before := t.slice place m.start
      if m.finish > m.start then
        let out := replaced parts (t.slice m.start m.finish) :: before :: out
        if all then replaceFrom r t parts all limit m.finish true out (n + 1)
        else (t.slice m.finish t.chars.size :: out, n + 1)
      else
        let skip := afterMatch && m.start == place
        let out := before :: out
        let (out, n) := if skip then (out, n) else (replaced parts [] :: out, n + 1)
        if !all then (t.slice m.start t.chars.size :: out, n)
        else if m.start ≥ t.chars.size then (out, n)
        else
          replaceFrom r t parts all limit (m.start + 1) false (t.slice m.start (m.start + 1) :: out) n

/-- Replaces the first match or all of them: the text, and how many there were. -/
def replaceMatches (r : Regex) (text by_ : String) (all : Bool) : String × Nat :=
  let t := Rec.subject text
  let parts := readReplacing (by_.length + 1) by_.toList
  let (out, n) := replaceFrom r t parts all (t.chars.size + 2) 0 false [] 0
  (String.ofList out.reverse.flatten, n)

/-! ## Random numbers -/

/-- Numbers of 32 bits, of which the last ones make the next one. -/
abbrev RandomRow := Array Nat

/-- How many numbers are kept. -/
def randomSize : Nat := 31

/-- So many numbers that each follow from the one before. -/
def firstRandoms : (count : Nat) → Int → List Nat
  | 0, _ => []
  | count + 1, x =>
    let y := Int.tmod (16807 * x) 0x7FFFFFFF
    let y := if y < 0 then y + 0x7FFFFFFF else y
    (x % 0x100000000).toNat :: firstRandoms count y

/-- The row with the next number, which is the sum of two before it. -/
def nextRow (a : RandomRow) : RandomRow :=
  let n := (a[a.size - 3]?.getD 0 + a[a.size - randomSize]?.getD 0) % 0x100000000
  (a.push n).extract (a.size + 1 - randomSize) (a.size + 1)

/-- So many numbers further. -/
def laterRow : (count : Nat) → RandomRow → RandomRow
  | 0, a => a
  | count + 1, a => laterRow count (nextRow a)

/-- The numbers for a seed, of which the first 310 are thrown away. -/
def randomStart (seed : Nat) : RandomRow :=
  let seed : Int := if seed = 0 then 1 else if seed < 0x80000000 then seed else (seed : Int) - 0x100000000
  let first := firstRandoms randomSize seed
  laterRow 310 ((first ++ first.take 3).toArray.extract 3 34)

/-- The next random number below one, and the numbers afterwards. -/
def randomNext (a : RandomRow) : Float × RandomRow :=
  let a := nextRow a
  (Float.ofNat (a.back?.getD 0 / 2) / Float.ofNat 0x7FFFFFFF, a)

namespace Rec

/-! ## Writing by a format -/

/-- Writing by a format: what is left of the format and of the values. -/
structure Formatting where
  rest : List Char
  values : List Value
  /-- The number of the conversion. -/
  place : Nat := 1
  out : List String := []
  deriving Inhabited

/-- The character that a value stands for. -/
def characterOf (v : Value) : List Char :=
  let code (x : Float) : List Char := [Char.ofNat ((wholeOf x) % 256).toNat]
  let first (s : String) : List Char :=
    match s.toList with
    | c :: _ => [c]
    | [] => [Char.ofNat 0]
  match v with
  | .number x => code x
  | .nothing => [Char.ofNat 0]
  | .text s => first s
  | .input s =>
    match looksLike? s with
    | some x => code x
    | none => first s

/-- A number without a sign, as conversions take it. -/
def unsignedOf (x : Float) : Nat :=
  if x < 0 then (wholeOf x % 0x10000000000000000).toNat else x.toUInt64.toNat

/-- One value under a conversion with a letter. -/
def converted (v : Conversion) (c : Char) (x : Value) : Rec (Option String) := do
  if c == 'd' || c == 'i' then pure (some (v.signed (wholeOf x.toNumber)))
  else if c == 'o' || c == 'x' || c == 'X' || c == 'u' then
    pure (some (v.unsigned c (unsignedOf x.toNumber)))
  else if "efgEG".toList.contains c then pure (some (Shell.Real.format v c (realOf x.toNumber)))
  else if c == 'c' then
    pure (some ({ v with precision := none }.text (String.ofList (characterOf x))))
  else if c == 's' then
    let text ← textOf x
    pure (some (v.text text))
  else pure none

/-- A text by a format; `name` is that of the function or statement, and `release` is for what was
written before a conversion fails. -/
def formatted (name : String) (release : String → Rec Unit) (format : String) (values : List Value) :
    Rec String := do
  iterate (fun (f : Formatting) => do
    let plain := f.rest.takeWhile (· != '%')
    let out := if plain.isEmpty then f.out else String.ofList plain :: f.out
    let missing {α : Type} : Rec α := do
      release (String.join out.reverse)
      fail ("not enough arguments passed to " ++ name ++ "(\"" ++ format ++ "\")")
    let improper {α : Type} : Rec α := do
      release (String.join out.reverse)
      fail ("improper conversion(number " ++ toString f.place ++ ") in " ++ name ++ "(\"" ++ format
        ++ "\")")
    match f.rest.drop plain.length with
    | [] => pure (.inr (String.join out.reverse))
    | _ :: '%' :: rest => pure (.inl { f with rest := rest, out := "%" :: out })
    | _ :: cs =>
      let flags := cs.takeWhile fun c => "-+ #0".toList.contains c
      let v := Conversion.withFlags flags
      let rest := cs.drop flags.length
      let number (rest : List Char) (values : List Value) : Rec (Option Int × List Char × List Value) := do
        match rest with
        | '*' :: rest =>
          match values with
          | x :: values => pure (some (wholeOf x.toNumber), rest, values)
          | [] => missing
        | _ =>
          let ds := rest.takeWhile Char.isDigit
          pure (if ds.isEmpty then none else some ((Shell.digits 10 ds 0 0).1 : Int),
            rest.drop ds.length, values)
      let (width, rest, values) ← number rest f.values
      let v := v.withWidth (width.getD 0)
      let (v, rest, values) ← match rest with
        | '.' :: rest => do
          let (n, rest, values) ← number rest values
          pure (v.withPrecision (n.getD 0), rest, values)
        | rest => pure (v, rest, values)
      let rest := rest.dropWhile fun c => c == 'h' || c == 'l'
      match values, rest with
      | [], _ => missing
      | _ :: _, [] => improper
      | x :: values, c :: rest =>
        match ← converted v c x with
        | some text =>
          pure (.inl { rest := rest, values := values, place := f.place + 1, out := text :: out })
        | none => improper) Kernel.endless { rest := format.toList, values := values }

/-! ## Numbers -/

/-- The remainder of two numbers, with the sign of the first one. -/
def remainder (x y : Float) : Float :=
  if y == 0 || !x.isFinite || y != y then 0.0 / 0.0
  else if !y.isFinite then x
  else
    match realOf x, realOf y with
    | .finite negative a, .finite _ b =>
      let e := min a.exponent b.exponent
      let m := a.mantissa * Nat.pow 2 (a.exponent - e).toNat
      let n := b.mantissa * Nat.pow 2 (b.exponent - e).toNat
      let (up, down) := Binary64.twoPow e
      match Floating.ofRatio .double ((m % n) * up) down with
      | some r => ofReal (.finite negative r)
      | none => 0
    | _, _ => 0.0 / 0.0

/-- An operation on two numbers. -/
def operate (op : Operation) (x y : Float) : Float :=
  match op with
  | .add => x + y
  | .subtract => x - y
  | .multiply => x * y
  | .divide => x / y
  | .remainder => remainder x y
  | .power => Float.pow x y

/-- A number without its part behind the point. -/
def truncated (x : Float) : Float := if x < 0 then x.ceil else x.floor

/-- The whole numbers at the start of a text, with blanks between them. -/
def leadingNumbers : List String → List Int
  | [] => []
  | word :: rest =>
    match word.toInt? with
    | some n => n :: leadingNumbers rest
    | none => []

/-- The seconds since 1970 of a text with the year, the month, the day, the hour, the minute and the
second; one more number above nothing tells that clocks are an hour ahead. -/
def secondsOf? (text : String) : Option Int :=
  let words := (text.splitOn " ").filter (· != "")
  match leadingNumbers words with
  | year :: month :: day :: hour :: minute :: second :: more =>
    let ahead : Int := if more.head?.any (· > 0) then 3600 else 0
    some (Text.Moment.daysTo year month day * 86400 + hour * 3600 + minute * 60 + second - ahead)
  | _ => none

/-- Sets the seed of random numbers. -/
def seedRandom (x : Float) : Rec Unit :=
  modify fun s => { s with seed := x, random := randomStart ((wholeOf x) % 0x100000000).toNat }

/-- The next random number. -/
def nextRandom : Rec Float := do
  let s ← get
  if s.random.isEmpty then seedRandom 1
  let (x, a) := randomNext (← get).random
  modify fun s => { s with random := a }
  pure x

end Rec
end HardenAudit.Program.Records
