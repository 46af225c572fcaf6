import HardenAudit.Number.Binary64
import HardenAudit.Shell.Number

/-!
# Escapes and conversions

What escapes in a text stand for, and how numbers and texts are written under a conversion of a
format.  All texts are raw.
-/

namespace HardenAudit.Shell

/-! ## Escapes -/

/-- The character of an escape that is a single letter. -/
def letterEscape? : Char → Option Char
  | 'a' => some (Char.ofNat 7)
  | 'b' => some (Char.ofNat 8)
  | 'e' => some (Char.ofNat 27)
  | 'f' => some (Char.ofNat 12)
  | 'n' => some '\n'
  | 'r' => some '\r'
  | 't' => some '\t'
  | 'v' => some (Char.ofNat 11)
  | '\\' => some '\\'
  | _ => none

/-- Octal digits at the start of a text, so many at most: their character, and the rest. -/
def octalEscape (most : Nat) (cs : List Char) : Char × List Char :=
  let ds := (cs.take most).takeWhile fun c => (digitValue? 8 c).isSome
  let n := (digits 8 ds 0 0).1
  (Char.ofNat (if n > 255 then 255 else n), cs.drop ds.length)

/-- The character of an escape in a format, behind its backslash, and the rest. -/
def formatEscape (cs : List Char) : Char × List Char :=
  match cs with
  | c :: rest =>
    if (digitValue? 8 c).isSome then octalEscape 3 cs
    else
      match letterEscape? c with
      | some e => (e, rest)
      | none => ('\\', cs)
  | [] => ('\\', [])

/-- A text with its escapes replaced, and whether an escape asked to stop all output.  A zero may
stand before octal digits.  Each step takes a character at least, so `limit` may be the length. -/
def unescapeFrom : (limit : Nat) → List Char → List Char × Bool
  | 0, _ => ([], false)
  | _, [] => ([], false)
  | limit + 1, '\\' :: rest =>
    match rest with
    | 'c' :: _ => ([], true)
    | '0' :: more =>
      let (c, rest) := octalEscape 3 more
      let (cs, stop) := unescapeFrom limit rest
      (c :: cs, stop)
    | _ =>
      let (c, rest) := formatEscape rest
      let (cs, stop) := unescapeFrom limit rest
      (c :: cs, stop)
  | limit + 1, c :: rest =>
    let (cs, stop) := unescapeFrom limit rest
    (c :: cs, stop)

/-- A text with its escapes replaced, and whether an escape asked to stop all output. -/
def unescape (text : String) : String × Bool :=
  let (cs, stop) := unescapeFrom (text.length + 1) text.toList
  (String.ofList cs, stop)

/-! ## Conversions -/

/-- A conversion of a format without its letter. -/
structure Conversion where
  left : Bool := false
  plus : Bool := false
  space : Bool := false
  alternate : Bool := false
  zero : Bool := false
  width : Nat := 0
  precision : Option Nat := none
  deriving Repr, Inhabited

namespace Conversion

/-- The conversion with flags. -/
def withFlags (flags : List Char) : Conversion where
  left := flags.contains '-'
  plus := flags.contains '+'
  space := flags.contains ' '
  alternate := flags.contains '#'
  zero := flags.contains '0'

/-- The conversion with a width; a negative one puts the text to the left. -/
def withWidth (v : Conversion) (n : Int) : Conversion :=
  if n < 0 then { v with left := true, width := n.natAbs } else { v with width := n.toNat }

/-- The conversion with a precision; a negative one does not count. -/
def withPrecision (v : Conversion) (n : Int) : Conversion :=
  { v with precision := if n < 0 then none else some n.toNat }

/-- A text filled up to the width; zeros go between a sign and digits. -/
def fill (v : Conversion) (zeros : Bool) (sign body : String) : String :=
  let missing := v.width - (sign.length + body.length)
  let pad (c : Char) : String := String.ofList (List.replicate missing c)
  if v.left then sign ++ body ++ pad ' '
  else if zeros then sign ++ pad '0' ++ body
  else pad ' ' ++ sign ++ body

/-- A text. -/
def text (v : Conversion) (s : String) : String :=
  v.fill false "" (match v.precision with
    | some n => String.ofList (s.toList.take n)
    | none => s)

/-- The digits of a number, as many as the precision asks for. -/
def digitsOf (v : Conversion) (base n : Nat) : String :=
  let ds := if n = 0 && v.precision == some 0 then [] else Nat.toDigits base n
  String.ofList (List.replicate (v.precision.getD 1 - ds.length) '0' ++ ds)

/-- The sign of a number. -/
def sign (v : Conversion) (negative : Bool) : String :=
  if negative then "-" else if v.plus then "+" else if v.space then " " else ""

/-- A number with a sign. -/
def signed (v : Conversion) (n : Int) : String :=
  v.fill (v.zero && v.precision.isNone) (v.sign (n < 0)) (v.digitsOf 10 n.natAbs)

/-- A number without a sign, in the base that a letter stands for. -/
def unsigned (v : Conversion) (letter : Char) (n : Nat) : String :=
  let base := if letter == 'o' then 8 else if letter == 'u' then 10 else 16
  let body := v.digitsOf base n
  let body := if letter == 'o' && v.alternate && !body.startsWith "0" then "0" ++ body else body
  let mark := if v.alternate && n != 0 && base = 16 then "0x" else ""
  let zeros := v.zero && v.precision.isNone
  let all := v.fill zeros mark body
  if letter == 'X' then String.ofList (all.toList.map Char.toUpper) else all

end Conversion

/-! ## Numbers with a point -/

/-- A number with a point, as it is read from a text. -/
inductive Real where
  | finite (negative : Bool) (x : Floating)
  | infinite (negative : Bool)
  | undefined (negative : Bool)
  deriving Repr, Inhabited

namespace Real

/-- A number at the start of a text, what follows it, and whether it is out of range. -/
structure Reading where
  value : Real
  present : Bool
  rest : List Char
  outOfRange : Bool := false
  deriving Inhabited

/-- An exponent behind its letter: its value, and the rest. -/
def exponent? (cs : List Char) : Option (Int × List Char) :=
  let (negative, cs) := match cs with
    | '-' :: r => (true, r)
    | '+' :: r => (false, r)
    | r => (false, r)
  let (n, count, rest) := digits 10 cs 0 0
  if count = 0 then none
  else
    let n : Int := min n 100000
    some (if negative then -n else n, rest)

/-- The digits of a number around its point, as one number, the digits behind the point, and the
rest. -/
def significand (base : Nat) (cs : List Char) : Nat × Nat × Nat × List Char :=
  let (n, whole, rest) := digits base cs 0 0
  match rest with
  | '.' :: more =>
    let (n, all, rest') := digits base more n 0
    if whole + all = 0 then (0, 0, 0, cs) else (n, whole + all, all, rest')
  | _ => (n, whole, 0, rest)

/-- Reads a number in base ten or sixteen, without its sign. -/
def readUnsigned (w : Width) (negative : Bool) (cs : List Char) : Option Reading :=
  let lower := cs.map Char.toLower
  let make (num den : Nat) (rest : List Char) : Reading :=
    match Floating.ofRatio w num den with
    | some x => ⟨finite negative x, true, rest, num != 0 && x.isSmall⟩
    | none => ⟨infinite negative, true, rest, true⟩
  if "infinity".toList.isPrefixOf lower then some ⟨infinite negative, true, cs.drop 8, false⟩
  else if "inf".toList.isPrefixOf lower then some ⟨infinite negative, true, cs.drop 3, false⟩
  else if "nan".toList.isPrefixOf lower then some ⟨undefined negative, true, cs.drop 3, false⟩
  else
    let hex := match cs with
      | '0' :: x :: more =>
        if x == 'x' || x == 'X' then
          let (n, count, behind, rest) := significand 16 more
          if count = 0 then none
          else
            let (e, rest) := match rest with
              | p :: tail =>
                if p == 'p' || p == 'P' then (exponent? tail).getD (0, rest) else (0, rest)
              | [] => (0, rest)
            let (up, down) := Binary64.twoPow (e - 4 * behind)
            some (make (n * up) down rest)
        else none
      | _ => none
    match hex with
    | some r => some r
    | none =>
      let (n, count, behind, rest) := significand 10 cs
      if count = 0 then none
      else
        let (e, rest) := match rest with
          | p :: tail =>
            if p == 'e' || p == 'E' then (exponent? tail).getD (0, rest) else (0, rest)
          | [] => (0, rest)
        /- Beyond these exponents any number is too large or too small. -/
        let e : Int := max (0 - ((6000 + count : Nat) : Int)) (min 6000 (e - behind))
        some (if 0 ≤ e then make (n * Nat.pow 10 e.toNat) 1 rest
          else make n (Nat.pow 10 e.natAbs) rest)

/-- Reads a number of a width at the start of a text. -/
def read (w : Width) (text : List Char) : Reading :=
  let (negative, cs) := match text.dropWhile isSpace with
    | '-' :: r => (true, r)
    | '+' :: r => (false, r)
    | r => (false, r)
  (readUnsigned w negative cs).getD ⟨finite false (.zero w), false, text, false⟩

/-- Is a quotient less than a power of ten? -/
def isBelowTenPow (num den : Nat) (e : Int) : Bool :=
  if 0 ≤ e then num < den * Nat.pow 10 e.toNat else num * Nat.pow 10 e.natAbs < den

/-- The exponent of ten of a positive quotient: there are at most five of them for one exponent of
two. -/
def decimalExponent (num den : Nat) : Int :=
  let binary : Int := (num.log2 : Int) - den.log2 - 1
  let guess := Int.fdiv (binary * 30103) 100000 - 1
  let steps := (List.range 5).find? fun (k : Nat) => isBelowTenPow num den (guess + k + 1)
  guess + (steps.getD 0 : Nat)

/-- Digits with a point before the last ones. -/
def pointed (n places : Nat) (alternate : Bool) : String :=
  let ds := Nat.toDigits 10 n
  let ds := List.replicate (places + 1 - ds.length) '0' ++ ds
  let whole := ds.take (ds.length - places)
  let part := ds.drop (ds.length - places)
  String.ofList (whole ++ (if places > 0 || alternate then ['.'] else []) ++ part)

/-- The digits and the exponent of a quotient with so many digits behind the first one. -/
def scientificDigits (num den places : Nat) : Nat × Int :=
  if num = 0 then (0, 0)
  else
    let e := decimalExponent num den
    let shift : Int := places - e
    let n := if 0 ≤ shift then Binary64.roundDiv (num * Nat.pow 10 shift.toNat) den
      else Binary64.roundDiv num (den * Nat.pow 10 shift.natAbs)
    if n ≥ Nat.pow 10 (places + 1) then (n / 10, e + 1) else (n, e)

/-- An exponent as it is written. -/
def exponentText (e : Int) : String :=
  let ds := toString e.natAbs
  (if e < 0 then "e-" else "e+") ++ (if ds.length < 2 then "0" ++ ds else ds)

/-- Without zeros at the end of the part behind the point. -/
def stripped (s : String) : String :=
  if s.toList.contains '.' then
    let cs := s.toList.reverse.dropWhile (· == '0')
    String.ofList ((if cs.head? == some '.' then cs.drop 1 else cs).reverse)
  else s

/-- A number under the conversion with a letter, without its sign. -/
def body (v : Conversion) (letter : Char) (x : Floating) : String :=
  let (num, den) := x.ratio
  let places := v.precision.getD 6
  let fixed (places : Nat) : String :=
    pointed (Binary64.roundDiv (num * Nat.pow 10 places) den) places v.alternate
  match letter with
  | 'f' => fixed places
  | 'e' =>
    let (n, e) := scientificDigits num den places
    pointed n places v.alternate ++ exponentText e
  | 'g' =>
    let p := if places = 0 then 1 else places
    let (n, e) := scientificDigits num den (p - 1)
    if -4 ≤ e ∧ e < p then
      let s := fixed (p - 1 - e).toNat
      if v.alternate then s else stripped s
    else
      let s := pointed n (p - 1) v.alternate
      (if v.alternate then s else stripped s) ++ exponentText e
  | _ =>
    /- Wide numbers have four binary digits before the point, others one. -/
    let before := (x.width.bits - 1) % 4 + 1
    let size := x.width.bits - before
    let unit := Nat.pow 2 size
    let top := (x.width.least + size : Int)
    let e : Int := if x.mantissa = 0 then 0 else max (x.exponent + size) top
    let digits := size / 4
    let (whole, ds) := match v.precision with
      | none =>
        let ds := hexDigits digits (x.mantissa % unit)
        (x.mantissa / unit, (ds.reverse.dropWhile (· == '0')).reverse)
      | some places =>
        if places ≥ digits then
          (x.mantissa / unit, hexDigits digits (x.mantissa % unit) ++ List.replicate (places - digits) '0')
        else
          let step := Nat.pow 16 places
          let n := Binary64.roundDiv (x.mantissa * step) unit
          (n / step, hexDigits places (n % step))
    let (whole, e) := if whole ≥ 16 then (1, e + 4) else (whole, e)
    "0x" ++ String.ofList (Nat.toDigits 16 whole)
      ++ (if ds.isEmpty && !v.alternate then "" else "." ++ String.ofList ds)
      ++ "p" ++ (if e < 0 then "-" else "+") ++ toString e.natAbs
where
  /-- So many digits in base sixteen. -/
  hexDigits (count n : Nat) : List Char :=
    let ds := Nat.toDigits 16 n
    if count = 0 then [] else List.replicate (count - ds.length) '0' ++ ds

/-- A number under the conversion with a letter. -/
def format (v : Conversion) (letter : Char) (r : Real) : String :=
  let low := letter.toLower
  let all := match r with
    | finite negative x =>
      let text := body v low x
      if low == 'a' then
        v.fill v.zero (v.sign negative ++ "0x") (String.ofList (text.toList.drop 2))
      else v.fill v.zero (v.sign negative) text
    | infinite negative => v.fill false (v.sign negative) "inf"
    | undefined negative => v.fill false (v.sign negative) "nan"
  if letter.isUpper then String.ofList (all.toList.map Char.toUpper) else all

end Real
end HardenAudit.Shell
