/-!
# Numbers in texts

Integers as they are read from the start of a text: after blanks, with a sign, in base ten, eight
or sixteen, and cut off at the ends of the range.
-/

namespace HardenAudit.Shell

/-- The value of a digit in a base. -/
def digitValue? (base : Nat) (c : Char) : Option Nat :=
  let v :=
    if '0' ≤ c ∧ c ≤ '9' then some (c.toNat - 48)
    else if 'a' ≤ c ∧ c ≤ 'z' then some (c.toNat - 87)
    else if 'A' ≤ c ∧ c ≤ 'Z' then some (c.toNat - 55)
    else none
  v.filter (· < base)

/-- Digits at the start of a text: their value, how many there are, and the rest. -/
def digits (base : Nat) : List Char → (value count : Nat) → Nat × Nat × List Char
  | [], value, count => (value, count, [])
  | c :: rest, value, count =>
    match digitValue? base c with
    | some d => digits base rest (value * base + d) (count + 1)
    | none => (value, count, c :: rest)

/-- Blanks that may stand before a number. -/
def isSpace (c : Char) : Bool := c == ' ' || (9 ≤ c.toNat && c.toNat ≤ 13)

/-- A number at the start of a text. -/
structure Numeral where
  value : Int
  /-- Is there a digit at all? -/
  present : Bool
  rest : List Char
  deriving Repr, Inhabited

/-- Reads a number without a sign; `base` zero stands for the base that the text shows. -/
def unsigned (base : Nat) (text : List Char) : Numeral :=
  let plain (base : Nat) (text : List Char) : Numeral :=
    let (value, count, rest) := digits base text 0 0
    ⟨value, count > 0, rest⟩
  let marked? : Option (Nat × List Char) := match text with
    | '0' :: x :: c :: rest =>
      if (x == 'x' || x == 'X') && (digitValue? 16 c).isSome && (base = 0 || base = 16) then
        some (16, c :: rest)
      else none
    | _ => none
  match marked? with
  | some (base, rest) => plain base rest
  | none =>
    if base = 0 then plain (if text.head? == some '0' then 8 else 10) text else plain base text

/-- Reads a number with a sign. -/
def integer (base : Nat) (text : List Char) : Numeral :=
  let start := text.dropWhile isSpace
  let n := match start with
    | '-' :: rest =>
      let n := unsigned base rest
      { n with value := -n.value }
    | '+' :: rest => unsigned base rest
    | _ => unsigned base start
  if n.present then n else { n with rest := text }

/-- The greatest number of 64 bits. -/
def greatest : Int := 0x7FFFFFFFFFFFFFFF

/-- The least number of 64 bits. -/
def least : Int := -0x8000000000000000

/-- Is the number in the range of 64 bits? -/
def inRange (n : Int) : Bool := least ≤ n && n ≤ greatest

/-- The nearest number in the range of 64 bits. -/
def clamp (n : Int) : Int := max least (min greatest n)

/-- The number that a text is, apart from blanks around it; `base` zero stands for the base that the
text shows, and lets a text without any digit be zero. -/
def wholeNumber? (base : Nat) (text : String) : Option Int :=
  let n := integer base text.toList
  if (!n.present && base != 0) || !inRange n.value then none
  else if n.rest.all isSpace then some n.value
  else none

/-- The number of an option or a parameter that a text is: from zero to the greatest of 32 bits. -/
def plainNumber? (text : String) : Option Nat :=
  match wholeNumber? 10 text with
  | some n => if 0 ≤ n ∧ n ≤ 0x7FFFFFFF then some n.toNat else none
  | none => none

/-- A number in a base, in lower case. -/
def inBase (base : Nat) (n : Nat) : String := String.ofList (Nat.toDigits base n)

end HardenAudit.Shell
