/-!
# Numbers with a 53-bit mantissa

Non-negative floating-point numbers in exact arithmetic: a mantissa times a power of two.  An exact
quotient is rounded to the nearest such number, and to the even one of two that are equally near.
-/

namespace HardenAudit

/-- The number `mantissa * 2 ^ exponent`. -/
structure Binary64 where
  mantissa : Nat
  exponent : Int
  deriving DecidableEq, Repr, Inhabited

namespace Binary64

/-- The number zero. -/
def zero : Binary64 := ⟨0, -1074⟩

/-- Two to a power, as numerator and denominator. -/
def twoPow (e : Int) : Nat × Nat := (Nat.pow 2 e.toNat, Nat.pow 2 (-e).toNat)

/-- A quotient rounded to the nearest natural number, a half to the even one. -/
def roundDiv (num den : Nat) : Nat :=
  let q := num / den
  let r := num % den
  if 2 * r < den then q else if 2 * r > den then q + 1 else if q % 2 = 0 then q else q + 1

/-- The leading bit of a full mantissa: the least mantissa of 53 binary digits. -/
def leadingBit : Nat := 0x10000000000000

/-- The exponent at which a quotient has 53 binary digits before the point, but no less than the
smallest one there is. -/
def scaleOf (num den : Nat) : Int :=
  let guess : Int := (num.log2 : Int) - den.log2 - 52
  let (up, down) := twoPow guess
  let e := if num * down < leadingBit * (den * up) then guess - 1 else guess
  max e (-1074)

/-- The number nearest to a quotient; `none` if it is too large. -/
def ofRatio (num den : Nat) : Option Binary64 :=
  if num = 0 then some zero
  else
    let e := scaleOf num den
    let (up, down) := twoPow e
    let m := roundDiv (num * down) (den * up)
    let (m, e) := if m = 2 * leadingBit then (leadingBit, e + 1) else (m, e)
    if e > 971 then none else some ⟨m, e⟩

/-- The number as numerator and denominator. -/
def ratio (x : Binary64) : Nat × Nat :=
  let (up, down) := twoPow x.exponent
  (x.mantissa * up, down)

/-- The number nearest to a power of ten. -/
def tenPow (k : Nat) : Binary64 := (ofRatio (Nat.pow 10 k) 1).getD zero

/-- The rounded product. -/
def mul (x y : Binary64) : Option Binary64 :=
  ofRatio (x.ratio.1 * y.ratio.1) (x.ratio.2 * y.ratio.2)

/-- The rounded quotient. -/
def div (x y : Binary64) : Option Binary64 :=
  ofRatio (x.ratio.1 * y.ratio.2) (x.ratio.2 * y.ratio.1)

/-- The largest power of ten in one step of scaling. -/
def stepLimit : Nat := 308

/-- A number times a power of ten, in steps that each round: an exponent beyond the limit is taken
off in whole steps.  `none` if the result is too large. -/
def scaleTen : Nat → Binary64 → Int → Option Binary64
  | 0, _, _ => some zero
  | fuel + 1, x, e =>
    if e.natAbs ≤ stepLimit then
      if 0 ≤ e then x.mul (tenPow e.natAbs) else x.div (tenPow e.natAbs)
    else if x.mantissa = 0 then some zero
    else if 0 ≤ e then none
    else
      match x.div (tenPow stepLimit) with
      | none => none
      | some y => scaleTen fuel y (e + stepLimit)

/-- The value of a significand and a decimal exponent, rounded at each step.  Four steps are enough
to take any significand of 64 bits to zero. -/
def ofDecimal (significand : Nat) (e : Int) : Option Binary64 :=
  match ofRatio significand 1 with
  | none => none
  | some x => scaleTen 4 x e

end Binary64
end HardenAudit

/-!
## Floating-point numbers of several widths

Non-negative numbers with a mantissa of a given width, in exact arithmetic.  An exact quotient is
rounded to the nearest number of the width, and to the even one of two that are equally near.
-/

namespace HardenAudit

/-- How many binary digits a full mantissa has, and the exponents that there are. -/
structure Width where
  bits : Nat
  least : Int
  most : Int
  deriving DecidableEq, Repr, Inhabited

namespace Width

/-- Numbers of 64 bits in all. -/
def double : Width := ⟨53, -1074, 971⟩

/-- Numbers of 80 bits in all. -/
def extended : Width := ⟨64, -16445, 16320⟩

/-- The least full mantissa. -/
def leadingBit (w : Width) : Nat := Nat.pow 2 (w.bits - 1)

end Width

/-- The number `mantissa * 2 ^ exponent`. -/
structure Floating where
  width : Width
  mantissa : Nat
  exponent : Int
  deriving DecidableEq, Repr, Inhabited

namespace Floating

/-- The number zero. -/
def zero (w : Width) : Floating := ⟨w, 0, w.least⟩

/-- The exponent at which a quotient has as many binary digits before the point as a mantissa, but no
less than the smallest one there is. -/
def scaleOf (w : Width) (num den : Nat) : Int :=
  let guess : Int := (num.log2 : Int) - den.log2 - (w.bits - 1 : Nat)
  let (up, down) := Binary64.twoPow guess
  max (if num * down < w.leadingBit * (den * up) then guess - 1 else guess) w.least

/-- The number nearest to a quotient; `none` if it is too large. -/
def ofRatio (w : Width) (num den : Nat) : Option Floating :=
  if num = 0 then some (zero w)
  else
    let e := scaleOf w num den
    let (up, down) := Binary64.twoPow e
    let m := Binary64.roundDiv (num * down) (den * up)
    let (m, e) := if m = 2 * w.leadingBit then (w.leadingBit, e + 1) else (m, e)
    if e > w.most then none else some ⟨w, m, e⟩

/-- The number nearest to a natural one, which is small. -/
def ofNat (w : Width) (n : Nat) : Floating := (ofRatio w n 1).getD (zero w)

/-- The number as numerator and denominator. -/
def ratio (x : Floating) : Nat × Nat :=
  let (up, down) := Binary64.twoPow x.exponent
  (x.mantissa * up, down)

/-- Has the number a mantissa that is not full? -/
def isSmall (x : Floating) : Bool := x.mantissa < x.width.leadingBit

end Floating
end HardenAudit
