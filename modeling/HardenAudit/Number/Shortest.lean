import HardenAudit.Number.Binary64

/-!
# The shortest decimal of a number

The fewest digits that read back to the number, and of these the nearest to it.  They are searched
for on the decimal grids of one digit, two digits and so on: on each grid only the two neighbours of
the number can be a hit.
-/

namespace HardenAudit.Binary64

/-- `digits * 10 ^ exponent`. -/
structure Decimal where
  digits : Nat
  exponent : Int
  deriving DecidableEq, Repr, Inhabited

/-- Ten to a power, as numerator and denominator. -/
def tenRatio (e : Int) : Nat × Nat := (Nat.pow 10 e.toNat, Nat.pow 10 (-e).toNat)

/-- Number of decimal digits before the point of a positive quotient; zero or less for one below a
tenth. -/
def magnitude (num den : Nat) : Int :=
  let guess : Int := ((Nat.toDigits 10 num).length : Int) - (Nat.toDigits 10 den).length
  let (up, down) := tenRatio guess
  if num * down < den * up then guess else guess + 1

/-- Does the decimal read back as the number? -/
def readsBack (x : Binary64) (d : Decimal) : Bool :=
  let (up, down) := tenRatio d.exponent
  ofRatio (d.digits * up) down == some x

/-- The better one of the neighbours of the number on the grid of a decimal exponent that read back
as it: the nearer one, and of two equally near the even one. -/
def onGrid (x : Binary64) (e : Int) : Option Decimal :=
  let (num, den) := x.ratio
  let (up, down) := tenRatio e
  let low := num * down / (den * up)
  let rest := num * down % (den * up)
  let below : Decimal := ⟨low, e⟩
  let above : Decimal := ⟨low + 1, e⟩
  let upward := decide (2 * rest > den * up) || (decide (2 * rest = den * up) && low % 2 == 1)
  match readsBack x below && low != 0, readsBack x above with
  | true, true => some (if upward then above else below)
  | true, false => some below
  | false, true => some above
  | false, false => none

/-- The first hit on the grids of `count` digits and more. -/
def search (x : Binary64) (size : Int) : Nat → Nat → Option Decimal
  | 0, _ => none
  | fuel + 1, count =>
    match onGrid x (size - count) with
    | some d => some d
    | none => search x size fuel (count + 1)

/-- The shortest decimal of a positive number; seventeen digits are always enough. -/
def shortest (x : Binary64) : Decimal :=
  let (num, den) := x.ratio
  (search x (magnitude num den) 17 1).getD default

/-- The digits of a decimal without the zeros at the end, and the place of its point: how many
digits stand before it. -/
def layout (d : Decimal) : List Char × Int :=
  let written := Nat.toDigits 10 d.digits
  let kept := (written.reverse.dropWhile (· == '0')).reverse
  (kept, written.length + d.exponent)

/-- Zeros in a row. -/
def zeros (n : Nat) : List Char := List.replicate n '0'

/-- The written form of a non-negative number: positional from a hundred-thousandth up to below ten
to the sixteenth, with at least one digit on each side of the point; scientific elsewhere. -/
def text (x : Binary64) : String :=
  if x.mantissa = 0 then "0.0"
  else
    let (ds, point) := layout x.shortest
    if -5 < point ∧ point ≤ 0 then
      String.ofList ('0' :: '.' :: zeros (-point).toNat ++ ds)
    else if 0 < point ∧ point ≤ 16 then
      let n := point.toNat
      if ds.length ≤ n then String.ofList (ds ++ zeros (n - ds.length) ++ ['.', '0'])
      else String.ofList (ds.take n ++ '.' :: ds.drop n)
    else
      let e := point - 1
      let mark := if e < 0 then "e-" else "e+"
      let lead := String.ofList (ds.take 1)
      let rest := if ds.length ≤ 1 then "" else "." ++ String.ofList (ds.drop 1)
      lead ++ rest ++ mark ++ toString e.natAbs

end HardenAudit.Binary64
