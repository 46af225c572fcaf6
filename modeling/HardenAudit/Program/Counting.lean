import HardenAudit.Program.Basic
import HardenAudit.Shell.Format

/-!
# Rows of numbers: `seq`

The numbers are exact; they are written with as many places behind the point as the first number and
the step have.
-/

namespace HardenAudit.Program

open Kernel (Work)

namespace Counting

open Shell (Conversion)

/-- A number that was given: its value as a fraction or nothing if it is infinite, the width of its
text, and the places behind its point if they are known. -/
structure Operand where
  numerator : Int
  denominator : Nat := 1
  infinite : Bool := false
  width : Nat := 1
  places : Option Nat := some 0
  deriving Inhabited

/-- The text of a number without what is never written. -/
def bare (text : String) : List Char :=
  text.toList.dropWhile fun c => Shell.isSpace c || c == '+'

/-- The places behind the point and the width of a decimal number when it is written without an
exponent. -/
def layout (cs : List Char) : Nat × Nat :=
  let isMark (c : Char) : Bool := c == 'e' || c == 'E'
  let whole := cs.takeWhile fun c => c != '.' && !isMark c
  let rest := cs.drop whole.length
  let point := rest.head? == some '.'
  let part := if point then (rest.drop 1).takeWhile (!isMark ·) else []
  let tail := cs.dropWhile (!isMark ·)
  let bareWidth : Int := (cs.length : Int)
    + (if !point then 0 else if part.isEmpty then -1
      else if whole.getLast?.any Char.isDigit then 0 else 1)
  match tail with
  | [] => (part.length, bareWidth.toNat)
  | _ :: digits =>
    let e : Int := ((Shell.Real.exponent? digits).map (·.1)).getD 0
    let places : Int := part.length + (if e < 0 then 0 - e else 0 - min (part.length : Int) e)
    let width := bareWidth - tail.length
      + (if e < 0 && (if point then part.isEmpty else true) then 1 else 0) + e.natAbs
    (places.toNat, width.toNat)

/-- Reads a number. -/
def operand? (text : String) : Except String Operand :=
  let r := Shell.Real.read .extended text.toList
  let wrong := "invalid floating point argument: " ++ quote text
  if !r.present || !r.rest.isEmpty then .error wrong
  else
    let cs := bare text
    match r.value with
    | .undefined _ => .error ("invalid " ++ quote "not-a-number" ++ " argument: " ++ quote text)
    | .infinite negative =>
      if r.outOfRange then .error wrong
      else .ok { numerator := if negative then -1 else 1, infinite := true }
    | .finite negative x =>
      let signed (n : Nat) : Int := if negative then -(n : Int) else n
      if cs.any fun c => c == 'x' || c == 'X' then
        let (num, den) := x.ratio
        .ok { numerator := signed num, denominator := den, width := 0
              places := if cs.any fun c => c == '.' || c == 'p' then none else some 0 }
      else
        let (n, count, behind, rest) := Shell.Real.significand 10 (cs.dropWhile (· == '-'))
        let e : Int := match rest with
          | _ :: digits => ((Shell.Real.exponent? digits).map (·.1)).getD 0
          | [] => 0
        let e : Int := max (0 - ((6000 + count : Nat) : Int)) (e - behind)
        let (places, width) := layout cs
        .ok { numerator := signed (n * Nat.pow 10 e.toNat), denominator := Nat.pow 10 (-e).toNat
              width := width, places := some places }

/-- How a number is written between two texts. -/
structure Pattern where
  before : String := ""
  conversion : Conversion := {}
  letter : Char := 'f'
  after : String := ""
  deriving Inhabited

/-- Plain text of a format up to a directive, and the rest. -/
def plain : List Char → List Char × List Char
  | '%' :: '%' :: rest =>
    let (text, rest) := plain rest
    ('%' :: text, rest)
  | '%' :: rest => ([], '%' :: rest)
  | c :: rest =>
    let (text, rest) := plain rest
    (c :: text, rest)
  | [] => ([], [])

/-- Reads a format, which has one directive. -/
def pattern? (format : String) : Except String Pattern :=
  let wrong (what : String) : Except String Pattern := .error ("format " ++ quote format ++ what)
  let (before, rest) := plain format.toList
  match rest with
  | [] => wrong " has no % directive"
  | _ :: cs =>
    let flags := cs.takeWhile ("-+#0 \x27".toList.contains ·)
    let cs := cs.drop flags.length
    let width := cs.takeWhile Char.isDigit
    let cs := cs.drop width.length
    let (precision, cs) : Option (List Char) × List Char := match cs with
      | '.' :: more => (some (more.takeWhile Char.isDigit), more.dropWhile Char.isDigit)
      | _ => (none, cs)
    let number (ds : List Char) : Int := ((Shell.digits 10 ds 0 0).1 : Nat)
    let v := (Conversion.withFlags flags).withWidth (number width)
    let v := match precision with
      | some ds => v.withPrecision (number ds)
      | none => v
    match (if cs.head? == some 'L' then cs.drop 1 else cs) with
    | [] => wrong " ends in %"
    | letter :: cs =>
      if !"efgaEFGA".toList.contains letter then
        wrong (" has unknown %" ++ letter.toString ++ " directive")
      else
        let (after, rest) := plain cs
        if !rest.isEmpty then wrong " has too many % directives"
        else .ok ⟨String.ofList before, v, letter, String.ofList after⟩

/-- A number under a pattern. -/
def Pattern.text (p : Pattern) (numerator : Int) (denominator : Nat) : String :=
  let value : Shell.Real := match Floating.ofRatio .extended numerator.natAbs denominator with
    | some x => .finite (numerator < 0) x
    | none => .infinite (numerator < 0)
  p.before ++ value.format p.conversion p.letter ++ p.after

/-- A number with so many places behind the point, filled up with zeros. -/
def fixedText (places width : Nat) (numerator : Int) (denominator : Nat) : String :=
  let n := Binary64.roundDiv (numerator.natAbs * Nat.pow 10 places) denominator
  let body := Shell.Real.pointed n places false
  let sign := if numerator < 0 then "-" else ""
  sign ++ String.ofList (List.replicate (width - sign.length - body.length) '0') ++ body

/-- The width of all numbers, if they are equally wide. -/
def commonWidth (first last : Operand) (places : Nat) : Nat :=
  let p : Int := places
  let firstPlaces : Int := (first.places.getD 0 : Nat)
  let lastPlaces : Int := (last.places.getD 0 : Nat)
  let one : Int := first.width + (p - firstPlaces) + (if firstPlaces = 0 && p > 0 then 1 else 0)
  let other : Int := last.width + (p - lastPlaces)
    + (if lastPlaces > 0 && p = 0 then -1 else if lastPlaces = 0 && p > 0 then 1 else 0)
  (max one other).toNat

/-- Does an option take the next argument? -/
def takesNext (arg : String) : Bool :=
  match arg.toList with
  | '-' :: '-' :: cs => !cs.contains '=' && (cs.head? == some 'f' || cs.head? == some 's')
  | '-' :: cs => (cs.dropWhile (· == 'w')).length = 1
  | _ => false

/-- Arguments up to the first that is no option; a dash before a number is a sign.  `value` tells that
the next argument belongs to an option. -/
def optionArgs : (value : Bool) → List String → List String × List String
  | _, [] => ([], [])
  | value, arg :: rest =>
    let isOption := match arg.toList with
      | '-' :: c :: _ => !c.isDigit && c != '.'
      | _ => false
    if !value && arg == "--" then ([arg], rest)
    else if value || isOption then
      let (options, others) := optionArgs (!value && takesNext arg) rest
      (arg :: options, others)
    else ([], arg :: rest)

end Counting

open Counting in
/-- Writes the numbers from one to another. -/
def seq : Program := fun argv _ => do
  let (options, words) := optionArgs false (argv.drop 1)
  let c ← call { Options.make "f:s:w" [("format", 'f'), ("separator", 's'), ("equal-width", 'w')] with
    strict := true } 1 (argv.take 1 ++ options)
  if words.isEmpty then misuse c.name 1 "missing operand"
  if let _ :: _ :: _ :: extra :: _ := words then misuse c.name 1 ("extra operand " ++ quote extra)
  let pattern : Option Pattern ← match c.value? 'f' with
    | none => pure none
    | some format =>
      match pattern? format with
      | .ok p => pure (some p)
      | .error message => giveUp c.name 1 message
  if pattern.isSome && c.has 'w' then
    misuse c.name 1 "format string may not be specified when printing equal width strings"
  let read (text : String) : Work Operand :=
    match operand? text with
    | .ok x => pure x
    | .error message => misuse c.name 1 message
  let one : Operand := { numerator := 1 }
  let (first, step, last) ← match words with
    | [a, s, b] => do
      let a ← read a
      let step ← read s
      if step.numerator = 0 then misuse c.name 1 ("invalid Zero increment value: " ++ quote s)
      pure (a, step, ← read b)
    | [a, b] => do
      let a ← read a
      pure (a, one, ← read b)
    | words => do pure (one, one, ← read (words.head?.getD ""))
  let known := first.places.isSome && step.places.isSome && last.places.isSome
  let places := max (first.places.getD 0) (step.places.getD 0)
  let denominator := first.denominator * step.denominator * last.denominator
  let scaled (x : Operand) : Int := x.numerator * ((denominator / x.denominator : Nat) : Int)
  let a := scaled first
  let s := scaled step
  let b := scaled last
  let up := step.numerator > 0
  let count : Option Nat :=
    if first.infinite || step.infinite then some 0
    else if last.infinite then (if up == decide (last.numerator > 0) then none else some 0)
    else if up then some (if a > b then 0 else ((b - a) / s).toNat + 1)
    else some (if a < b then 0 else ((a - b) / (0 - s)).toNat + 1)
  let width := if c.has 'w' && known then commonWidth first last places else 0
  let text (i : Nat) : String :=
    let n := a + s * (i : Int)
    match pattern with
    | some p => p.text n denominator
    | none =>
      if known then fixedText places width n denominator
      else ({ letter := 'g' } : Pattern).text n denominator
  let separator := (c.value? 's').getD "\n"
  let block : Nat := 1000
  Work.iterate (fun (i : Nat) => do
    if count.any (i ≥ ·) then pure (.inr ())
    else
      let upTo := match count with
        | some n => min n (i + block)
        | none => i + block
      let texts := (List.range (upTo - i)).map fun (k : Nat) => text (i + k)
      put c.name (separator.intercalate texts ++ (if count == some upTo then "\n" else separator))
      pure (.inl upTo)) Kernel.endless 0
  pure 0

end HardenAudit.Program
