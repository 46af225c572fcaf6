import HardenAudit.Json.Cursor
import HardenAudit.Number.Shortest

/-!
# Reading literals, numbers and strings

Readers for the parts of a JSON text that hold no other parts.  Each returns what it read and the
cursor behind it, or the error of the first character that does not fit.
-/

namespace HardenAudit.Json

/-- The letters of a literal, one by one. -/
def readLetters : List Char → Cursor → Except ReadError Cursor
  | [], c => .ok c
  | letter :: letters, c =>
    match c.rest with
    | [] => c.fail .endOfValue
    | x :: _ => if x = letter then readLetters letters (c.advance 1) else c.failPeek .expectedIdent

/-! ## Numbers -/

/-- A number as it was written: an integer that fits into 64 bits, or a floating-point number. -/
inductive Number where
  | natural (n : Nat)
  /-- An integer below zero, by its absolute value. -/
  | negative (n : Nat)
  | float (below : Bool) (x : Binary64)
  deriving DecidableEq, Repr, Inhabited

/-- A number as a wrong value is described. -/
def Number.found : Number → Found
  | natural n => .integer n
  | negative n => .integer (-n)
  | float below x => .float ((if below then "-" else "") ++ x.text)

/-- Largest natural number of 64 bits. -/
def wordMax : Nat := 0xFFFFFFFFFFFFFFFF

/-- Absolute value of the least negative number of 64 bits. -/
def negativeMax : Nat := 0x8000000000000000

/-- Largest exponent that is taken at its value. -/
def exponentMax : Nat := 0x7FFFFFFF

/-- Value of a decimal digit. -/
def digitValue (c : Char) : Nat := c.toNat - '0'.toNat

/-- Digits appended to a significand as long as it stays within 64 bits: the significand, and the
digits that were left over. -/
def appendDigits : Nat → List Char → Nat × List Char
  | n, [] => (n, [])
  | n, d :: ds =>
    let next := n * 10 + digitValue d
    if next > wordMax then (n, d :: ds) else appendDigits next ds

/-- The leading digits. -/
def digits (c : Cursor) : List Char := c.rest.takeWhile Char.isDigit

/-- An exponent and the cursor behind it; `none` for an exponent beyond the limit, with the cursor
behind the digit that went too far. -/
def readExponentDigits : Nat → Position → List Char → Option Nat × Cursor
  | n, p, [] => (some n, ⟨p, []⟩)
  | n, p, d :: ds =>
    if d.isDigit then
      let next := n * 10 + digitValue d
      if next > exponentMax then (none, ⟨p.past d, ds⟩) else readExponentDigits next (p.past d) ds
    else (some n, ⟨p, d :: ds⟩)

/-- The value of a significand with a decimal exponent. -/
def floatOf (negative : Bool) (significand : Nat) (e : Int) (c : Cursor) :
    Except ReadError (Number × Cursor) :=
  match Binary64.ofDecimal significand e with
  | some x => .ok (.float negative x, c)
  | none => c.fail .numberOutOfRange

/-- The part from an exponent mark on. -/
def readExponent (negative : Bool) (significand : Nat) (e : Int) (c : Cursor) :
    Except ReadError (Number × Cursor) :=
  let c := c.advance 1
  let sign := c.rest.head?
  let c := if sign = some '+' ∨ sign = some '-' then c.advance 1 else c
  match c.rest with
  | [] => c.fail .endOfValue
  | d :: _ =>
    if !d.isDigit then c.failPeek .invalidNumber
    else
      match readExponentDigits 0 c.position c.rest with
      | (some n, c) => floatOf negative significand (if sign = some '-' then e - n else e + n) c
      | (none, c) =>
        if significand ≠ 0 ∧ sign ≠ some '-' then c.fail .numberOutOfRange
        else .ok (.float negative .zero, c.advance (digits c).length)

/-- The part from a decimal point on. -/
def readFraction (negative : Bool) (significand : Nat) (e : Int) (c : Cursor) :
    Except ReadError (Number × Cursor) :=
  let c := c.advance 1
  let ds := digits c
  if ds = [] then c.failPeek (if c.rest = [] then .endOfValue else .invalidNumber)
  else
    let (significand, left) := appendDigits significand ds
    let e := e - (ds.length - left.length : Nat)
    let c := c.advance ds.length
    match c.rest with
    | x :: _ =>
      if x = 'e' ∨ x = 'E' then readExponent negative significand e c
      else floatOf negative significand e c
    | [] => floatOf negative significand e c

/-- The part from the first digit on. -/
def readUnsigned (negative : Bool) (c : Cursor) : Except ReadError (Number × Cursor) :=
  match c.rest with
  | [] => c.fail .endOfValue
  | d :: _ =>
    if !d.isDigit then c.failPeek .invalidNumber
    else
      let ds := digits c
      if d = '0' ∧ ds.length > 1 then (c.advance 1).failPeek .invalidNumber
      else
        let (significand, left) := appendDigits 0 ds
        let e : Int := left.length
        let c := c.advance ds.length
        match c.rest.head? with
        | some '.' => readFraction negative significand e c
        | some 'e' => readExponent negative significand e c
        | some 'E' => readExponent negative significand e c
        | _ =>
          if left ≠ [] then floatOf negative significand e c
          else if !negative then .ok (.natural significand, c)
          else if significand = 0 ∨ significand > negativeMax then floatOf true significand 0 c
          else .ok (.negative significand, c)

/-- A number, from its sign or its first digit on. -/
def readNumber (c : Cursor) : Except ReadError (Number × Cursor) :=
  if c.rest.head? = some '-' then readUnsigned true (c.advance 1) else readUnsigned false c

/-! ## Strings -/

/-- Value of a hexadecimal digit. -/
def hexValue? (c : Char) : Option Nat :=
  if c.isDigit then some (digitValue c)
  else if 'a' ≤ c ∧ c ≤ 'f' then some (c.toNat - 'a'.toNat + 10)
  else if 'A' ≤ c ∧ c ≤ 'F' then some (c.toNat - 'A'.toNat + 10)
  else none

/-- Four hexadecimal digits. -/
def readHex (c : Cursor) : Except ReadError (Nat × Cursor) :=
  if (c.rest.take 4).foldl (fun n x => n + x.utf8Size) 0 < 4 then
    .error ⟨.endOfString, c.position.pastAll c.rest⟩
  else
    match (c.rest.take 4).mapM hexValue? with
    | some ds => .ok (ds.foldl (fun n d => n * 16 + d) 0, c.advance 4)
    | none => .error ⟨.invalidEscape, c.position.pastBytes 4 c.rest⟩

/-- The character of an escape that is a single letter. -/
def simpleEscape? : Char → Option Char
  | '"' => some '"'
  | '\\' => some '\\'
  | '/' => some '/'
  | 'b' => some (Char.ofNat 8)
  | 'f' => some (Char.ofNat 12)
  | 'n' => some '\n'
  | 'r' => some '\r'
  | 't' => some '\t'
  | _ => none

/-- A given character of a surrogate pair's middle. -/
def readMiddle (x : Char) (c : Cursor) : Except ReadError Cursor :=
  match c.rest with
  | [] => c.fail .endOfString
  | y :: _ => if y = x then .ok (c.advance 1) else c.failPeek .unfinishedSurrogate

/-- The character of a four-digit escape, and how many characters stand behind the `u`. -/
def readUnicode (c : Cursor) : Except ReadError (Char × Nat) := do
  let (high, c) ← readHex c
  if 0xDC00 ≤ high ∧ high ≤ 0xDFFF then c.fail .loneSurrogate
  else if 0xD800 ≤ high ∧ high ≤ 0xDBFF then
    let c ← readMiddle '\\' c
    let c ← readMiddle 'u' c
    let (low, c) ← readHex c
    if 0xDC00 ≤ low ∧ low ≤ 0xDFFF then
      pure (Char.ofNat (0x10000 + (high - 0xD800) * 0x400 + (low - 0xDC00)), 10)
    else c.fail .loneSurrogate
  else pure (Char.ofNat high, 4)

/-- The character of an escape, and how many characters stand behind the backslash. -/
def readEscape (c : Cursor) : Except ReadError (Char × Nat) :=
  match c.rest with
  | [] => c.fail .endOfString
  | x :: _ =>
    match simpleEscape? x with
    | some y => .ok (y, 1)
    | none =>
      if x = 'u' then (readUnicode (c.advance 1)).map fun (y, n) => (y, n + 1)
      else c.failPeek .invalidEscape

/-- The characters of a string up to its closing quote, and the cursor behind the quote; the next
`skip` characters belong to the escape before. -/
def readChars : (skip : Nat) → Position → List Char → Except ReadError (List Char × Cursor)
  | _, p, [] => .error ⟨.endOfString, p⟩
  | skip + 1, p, x :: rest => readChars skip (p.past x) rest
  | 0, p, x :: rest =>
    if x = '"' then .ok ([], ⟨p.past x, rest⟩)
    else if x = '\\' then
      match readEscape ⟨p.past x, rest⟩ with
      | .error e => .error e
      | .ok (y, n) => (readChars n (p.past x) rest).map fun (ys, c) => (y :: ys, c)
    else if x.toNat < 0x20 then .error ⟨.controlCharacter, p.past x⟩
    else (readChars 0 (p.past x) rest).map fun (ys, c) => (x :: ys, c)

/-- A string, from its opening quote on. -/
def readString (c : Cursor) : Except ReadError (String × Cursor) :=
  let c := c.advance 1
  (readChars 0 c.position c.rest).map fun (cs, c) => (String.ofList cs, c)

end HardenAudit.Json
