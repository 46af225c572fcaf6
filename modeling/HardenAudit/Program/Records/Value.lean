import HardenAudit.Shell.Format

/-!
# Values in scripts about records

A value is a number or a text.  What comes from the input is a text that counts as a number where it
looks like one, and what was never set is both zero and the empty text.
-/

namespace HardenAudit.Program.Records

open Shell (Conversion)

/-- A value. -/
inductive Value where
  | nothing
  | number (x : Float)
  | text (s : String)
  /-- A text from the input. -/
  | input (s : String)
  deriving Inhabited

/-! ## Numbers and their texts -/

/-- A number as it is written under conversions. -/
def realOf (x : Float) : Shell.Real :=
  let bits := x.toBits.toNat
  let negative := bits / 0x8000000000000000 == 1
  let power := bits / 0x10000000000000 % 0x800
  let fraction := bits % 0x10000000000000
  if power = 0x7FF then
    if fraction = 0 then .infinite negative else .undefined true
  else if power = 0 then .finite negative ⟨.double, fraction, -1074⟩
  else .finite negative ⟨.double, fraction + 0x10000000000000, (power : Int) - 1075⟩

/-- The number that was read. -/
def ofReal (r : Shell.Real) : Float :=
  let signed (negative : Bool) (x : Float) : Float := if negative then -x else x
  match r with
  | .infinite negative => signed negative (1.0 / 0.0)
  | .undefined _ => 0.0 / 0.0
  | .finite negative x =>
    let bits :=
      if x.mantissa < Binary64.leadingBit then x.mantissa
      else (x.exponent + 1075).toNat * Binary64.leadingBit + (x.mantissa - Binary64.leadingBit)
    signed negative (Float.ofBits (UInt64.ofNat bits))

/-- Digits that are exact in any case. -/
def shortLimit : Nat := 15

/-- The number at the start of a text, or zero, and what follows it. -/
def readNumber (cs : List Char) : Float × List Char :=
  let start := cs.dropWhile Shell.isSpace
  let (negative, body) := match start with
    | '-' :: rest => (true, rest)
    | rest => (false, rest)
  let ds := body.takeWhile Char.isDigit
  let after := body.drop ds.length
  let plain := match after with
    | [] => true
    | c :: _ => c != '.' && c != 'e' && c != 'E' && c != 'x' && c != 'X'
  if !ds.isEmpty && ds.length ≤ shortLimit && plain then
    let x := Float.ofNat (ds.foldl (fun n d => n * 10 + (d.toNat - 48)) 0)
    (if negative then -x else x, after)
  else
    let r := Shell.Real.read .double cs
    (ofReal r.value, r.rest)

/-- The number that a text from the input looks like. -/
def looksLike? (s : String) : Option Float :=
  match s.toList.dropWhile Shell.isSpace with
  | [] => none
  | c :: cs =>
    if !(c.isDigit || c == '+' || c == '-' || c == '.') then none
    else
      let (x, rest) := readNumber (c :: cs)
      if !rest.all Shell.isSpace then none
      else
        match ((c :: cs).reverse.dropWhile Shell.isSpace).head? with
        | some last => if (last.isDigit || last == '.') && x.isFinite then some x else none
        | none => none

/-- The nearest integer of 64 bits towards zero. -/
def wholeOf (x : Float) : Int :=
  let n := x.toInt64.toInt
  if n < -0x7FFFFFFFFFFFFFFF then -0x7FFFFFFFFFFFFFFF else n

/-- The integer that a number is. -/
def whole? (x : Float) : Option Int :=
  let n := wholeOf x
  if Float.ofInt n == x then some n else none

/-- The flags, the width and the precision of a conversion behind its sign, and what follows; stars
are left to the caller. -/
def conversion (cs : List Char) : Conversion × List Char :=
  let flags := cs.takeWhile fun c => "-+ #0".toList.contains c
  let rest := cs.drop flags.length
  let width := rest.takeWhile Char.isDigit
  let rest := rest.drop width.length
  let v := (Conversion.withFlags flags).withWidth (Shell.digits 10 width 0 0).1
  match rest with
  | '.' :: more =>
    let ds := more.takeWhile Char.isDigit
    (v.withPrecision (Shell.digits 10 ds 0 0).1, more.drop ds.length)
  | rest => (v, rest)

/-- A number under the first conversion of a format. -/
def formatNumber (format : String) (x : Float) : String :=
  let before := format.toList.takeWhile (· != '%')
  match format.toList.drop before.length with
  | _ :: cs =>
    let (v, rest) := conversion cs
    match rest with
    | c :: after =>
      let body :=
        if c == 'd' || c == 'i' then v.signed (wholeOf x)
        else if "efgEG".toList.contains c then Shell.Real.format v c (realOf x)
        else ""
      String.ofList before ++ body ++ String.ofList after
    | [] => format
  | [] => format

/-- A number as a text: an integer by its digits, any other number by a format. -/
def numberText (format : String) (x : Float) : String :=
  match whole? x with
  | some n => toString n
  | none => formatNumber format x

namespace Value

/-- The value as a number. -/
def toNumber : Value → Float
  | nothing => 0
  | number x => x
  | text s | input s => (readNumber s.toList).1

/-- The value as a text; numbers that are no integers are written by a format. -/
def toText (format : String) : Value → String
  | nothing => ""
  | number x => numberText format x
  | text s | input s => s

/-- Does the value count as true? -/
def isTrue : Value → Bool
  | nothing => false
  | number x => x != 0
  | text s => s != ""
  | input s =>
    match looksLike? s with
    | some x => x != 0
    | none => s != ""

/-- The number that the value is in a comparison, if it is one. -/
def numeric? : Value → Option Float
  | nothing => some 0
  | number x => some x
  | text _ => none
  | input s => looksLike? s

/-- The order of two values: as numbers if both are numbers, otherwise as texts. -/
def order (format : String) (a b : Value) : Ordering :=
  match a.numeric?, b.numeric? with
  | some x, some y => if x < y then .lt else if x > y then .gt else .eq
  | _, _ =>
    let s := a.toText format
    let t := b.toText format
    if s < t then .lt else if s = t then .eq else .gt

end Value
end HardenAudit.Program.Records
