import HardenAudit.Json.Scalar

/-!
# The grammar of JSON texts

What a JSON text is, without regard to how one is read.  Blanks, digits, numbers and the pieces of strings
are well formed by construction.  The items of arrays and the members of objects stand between commas, each
with the blanks around its parts, and a value is whatever the constructors of `IsValue` build.

A string is spelled by its pieces.  A piece stands for a character, but for the escape of a surrogate: two
such escapes, of a high surrogate and a low one, stand for a character beyond the basic plane, and any
other one for no character, so that the string spells no text (`spell?`).
-/

namespace HardenAudit.Json

/-! ## Blanks -/

/-- Blanks, as they may stand between the parts of a text. -/
structure Blanks where
  chars : List Char
  blank : ∀ c ∈ chars, c = ' ' ∨ c = '\n' ∨ c = '\t' ∨ c = '\r'

namespace Blanks

def none : Blanks := ⟨[], fun _ h => absurd h List.not_mem_nil⟩

def append (b b' : Blanks) : Blanks :=
  ⟨b.chars ++ b'.chars, fun c h => (List.mem_append.mp h).elim (b.blank c) (b'.blank c)⟩

end Blanks

/-! ## Strings -/

/-- A hexadecimal digit in either case. -/
structure HexDigit where
  value : Fin 16
  upper : Bool

def HexDigit.char (d : HexDigit) : Char :=
  if d.upper then (Nat.digitChar d.value).toUpper else Nat.digitChar d.value

/-- A code unit of sixteen bits, by its hexadecimal digits. -/
structure CodeUnit where
  (first second third fourth : HexDigit)

namespace CodeUnit

def chars (u : CodeUnit) : List Char := [u.first.char, u.second.char, u.third.char, u.fourth.char]

def code (u : CodeUnit) : Nat :=
  ((u.first.value * 16 + u.second.value) * 16 + u.third.value) * 16 + u.fourth.value

/-- The unit opens a surrogate pair. -/
def High (u : CodeUnit) : Prop := 0xD800 ≤ u.code ∧ u.code ≤ 0xDBFF

/-- The unit closes a surrogate pair. -/
def Low (u : CodeUnit) : Prop := 0xDC00 ≤ u.code ∧ u.code ≤ 0xDFFF

instance (u : CodeUnit) : Decidable u.High := inferInstanceAs (Decidable (_ ∧ _))

instance (u : CodeUnit) : Decidable u.Low := inferInstanceAs (Decidable (_ ∧ _))

/-- The character of a surrogate pair. -/
def pair (high low : CodeUnit) : Char :=
  Char.ofNat (0x10000 + (high.code - 0xD800) * 0x400 + (low.code - 0xDC00))

end CodeUnit

/-- The escapes that are one letter. -/
inductive Escape where
  | quote | backslash | slash | backspace | formFeed | lineFeed | carriageReturn | tab
  deriving DecidableEq, Repr

namespace Escape

def letter : Escape → Char
  | quote => '"'
  | backslash => '\\'
  | slash => '/'
  | backspace => 'b'
  | formFeed => 'f'
  | lineFeed => 'n'
  | carriageReturn => 'r'
  | tab => 't'

def char : Escape → Char
  | quote => '"'
  | backslash => '\\'
  | slash => '/'
  | backspace => Char.ofNat 8
  | formFeed => Char.ofNat 12
  | lineFeed => '\n'
  | carriageReturn => '\r'
  | tab => '\t'

end Escape

/-- A character that stands for itself in a string. -/
structure PlainChar where
  char : Char
  plain : char ≠ '"' ∧ char ≠ '\\' ∧ 0x20 ≤ char.toNat

/-- A piece of a string. -/
inductive Piece where
  | plain (c : PlainChar)
  | escape (e : Escape)
  | unit (u : CodeUnit)

def Piece.text : Piece → List Char
  | plain c => [c.char]
  | escape e => ['\\', e.letter]
  | unit u => '\\' :: 'u' :: u.chars

/-- The characters that pieces spell; none if a surrogate is not part of a pair. -/
def spell? : List Piece → Option (List Char)
  | [] => some []
  | .plain c :: pieces => (spell? pieces).map (c.char :: ·)
  | .escape e :: pieces => (spell? pieces).map (e.char :: ·)
  | .unit u :: pieces =>
    if u.Low then none
    else if u.High then
      match pieces with
      | .unit v :: pieces => if v.Low then (spell? pieces).map (u.pair v :: ·) else none
      | _ => none
    else (spell? pieces).map (Char.ofNat u.code :: ·)

/-- The pieces up to the closing quote, and what follows it. -/
def closed (pieces : List Piece) (rest : List Char) : List Char :=
  pieces.flatMap Piece.text ++ '"' :: rest

/-- A string with its quotes. -/
def stringText (pieces : List Piece) : List Char := '"' :: closed pieces []

/-! ## Numbers -/

/-- Digits, at least one. -/
structure Digits where
  chars : List Char
  nonempty : chars ≠ []
  digit : ∀ c ∈ chars, c.isDigit = true

/-- A whole number, which has no needless zero in front. -/
structure Whole extends Digits where
  leading : chars.head? = some '0' → chars = ['0']

/-- The value of a whole number. -/
def Whole.value (w : Whole) : Nat := Nat.ofDigitChars 10 w.chars 0

/-- An exponent: its mark, its sign if it has one, and its digits. -/
structure Exponent where
  mark : Char
  isMark : mark = 'e' ∨ mark = 'E'
  sign : Option Char
  isSign : ∀ c ∈ sign, c = '+' ∨ c = '-'
  digits : Digits

/-- A number as it is written. -/
structure NumberLiteral where
  negative : Bool
  whole : Whole
  fraction : Option Digits
  exponent : Option Exponent

namespace NumberLiteral

def fractionText : Option Digits → List Char
  | none => []
  | some ds => '.' :: ds.chars

def exponentText : Option Exponent → List Char
  | none => []
  | some e => e.mark :: (e.sign.toList ++ e.digits.chars)

/-- The number without its sign. -/
def unsigned (n : NumberLiteral) : List Char :=
  n.whole.chars ++ (fractionText n.fraction ++ exponentText n.exponent)

def text (n : NumberLiteral) : List Char := if n.negative then '-' :: n.unsigned else n.unsigned

end NumberLiteral

/-! ## Arrays and objects -/

/-- An item of an array: a text with blanks around it. -/
structure Item where
  before : Blanks
  value : List Char
  after : Blanks

def Item.text (i : Item) : List Char := i.before.chars ++ (i.value ++ i.after.chars)

/-- A member of an object: its name with blanks around it, and behind a colon its item. -/
structure Member where
  before : Blanks
  name : List Piece
  between : Blanks
  item : Item

namespace Member

def text (m : Member) : List Char :=
  m.before.chars ++ '"' :: closed m.name (m.between.chars ++ ':' :: m.item.text)

/-- The name that the pieces spell. -/
def key? (m : Member) : Option String := (spell? m.name).map String.ofList

end Member

/-- Entries with a comma in front of each but the first, and a closing mark behind them. -/
def entries (close : Char) : (first : Bool) → List (List Char) → List Char
  | _, [] => [close]
  | first, e :: es => (if first then [] else [',']) ++ (e ++ entries close false es)

def arrayText (b : Blanks) (items : List Item) : List Char :=
  '[' :: (b.chars ++ entries ']' true (items.map Item.text))

def objectText (b : Blanks) (members : List Member) : List Char :=
  '\x7b' :: (b.chars ++ entries '\x7d' true (members.map Member.text))

/-- The texts of JSON values. -/
inductive IsValue : List Char → Prop where
  | null : IsValue ['n', 'u', 'l', 'l']
  | truth : IsValue ['t', 'r', 'u', 'e']
  | falsity : IsValue ['f', 'a', 'l', 's', 'e']
  | number (n : NumberLiteral) : IsValue n.text
  | string (pieces : List Piece) : IsValue (stringText pieces)
  | array (b : Blanks) (items : List Item) (values : ∀ i ∈ items, IsValue i.value) :
    IsValue (arrayText b items)
  | object (b : Blanks) (members : List Member) (values : ∀ m ∈ members, IsValue m.item.value) :
    IsValue (objectText b members)

/-- What may follow a number that ends: nothing that would carry it on. -/
def Ends (rest : List Char) : Prop :=
  ∀ c ∈ rest.head?, c.isDigit = false ∧ c ≠ '.' ∧ c ≠ 'e' ∧ c ≠ 'E'

/-! ## How texts begin -/

theorem Blanks.isSpace (b : Blanks) {c : Char} (h : c ∈ b.chars) : Cursor.isSpace c = true := by
  rcases b.blank c h with rfl | rfl | rfl | rfl <;> rfl

theorem Ends.nil : Ends [] := fun _ h => by cases h

/-- Blanks end a number. -/
theorem Ends.of_blanks (b : Blanks) : Ends b.chars := by
  intro c hc
  rcases b.blank c (List.mem_of_head? hc) with rfl | rfl | rfl | rfl <;> decide

/-- Behind blanks a mark ends a number. -/
theorem Ends.blanks (b : Blanks) {x : Char} {rest : List Char} (h : Ends (x :: rest)) :
    Ends (b.chars ++ x :: rest) := by
  intro c hc
  match hchars : b.chars with
  | [] =>
    rw [hchars] at hc
    exact h c hc
  | y :: ys =>
    rw [hchars] at hc
    have hy : y = c := Option.some.inj hc
    subst hy
    rcases b.blank y (hchars ▸ List.mem_cons_self) with rfl | rfl | rfl | rfl <;> decide

theorem entries_exists_cons {close : Char} (h : close = ']' ∨ close = '\x7d') (es : List (List Char))
    (rest : List Char) : ∃ x t, entries close false es ++ rest = x :: t ∧ Ends (x :: t) ∧
      Cursor.isSpace x = false := by
  cases es with
  | nil =>
    refine ⟨close, rest, rfl, fun c hc => ?_, ?_⟩
    · obtain rfl : close = c := Option.some.inj hc
      rcases h with rfl | rfl <;> decide
    · rcases h with rfl | rfl <;> rfl
  | cons e es =>
    refine ⟨',', _, rfl, fun c hc => ?_, rfl⟩
    obtain rfl : ',' = c := Option.some.inj hc
    decide

/-- What follows a value among entries ends it. -/
theorem Ends.entries {close : Char} (h : close = ']' ∨ close = '\x7d') (b : Blanks)
    (es : List (List Char)) (rest : List Char) :
    Ends (b.chars ++ (entries close false es ++ rest)) := by
  obtain ⟨x, t, heq, hends, -⟩ := entries_exists_cons h es rest
  rw [heq]
  exact .blanks b hends

theorem Digits.exists_cons (ds : Digits) : ∃ d t, ds.chars = d :: t ∧ d.isDigit = true := by
  cases h : ds.chars with
  | nil => exact absurd h ds.nonempty
  | cons d t => exact ⟨d, t, rfl, ds.digit d (h ▸ List.mem_cons_self)⟩

theorem NumberLiteral.exists_cons (n : NumberLiteral) :
    ∃ x t, n.text = x :: t ∧ (x = '-' ∨ x.isDigit = true) := by
  unfold NumberLiteral.text
  split
  · exact ⟨'-', _, rfl, .inl rfl⟩
  · obtain ⟨d, t, hchars, hd⟩ := n.whole.exists_cons
    exact ⟨d, t ++ _, by rw [NumberLiteral.unsigned, hchars]; rfl, .inr hd⟩

/-- A digit is none of the other characters that a reader looks for. -/
theorem not_mark_of_isDigit {c : Char} (h : c.isDigit = true) :
    Cursor.isSpace c = false ∧ c ∉ ['n', 't', 'f', '-', '.', 'e', 'E', '"', '[', ']', '\x7b', '\x7d'] := by
  constructor
  · rw [← Bool.not_eq_true]
    intro hspace
    unfold Cursor.isSpace at hspace
    simp only [Bool.or_eq_true, beq_iff_eq] at hspace
    rcases hspace with ((rfl | rfl) | rfl) | rfl <;> revert h <;> decide
  · intro hmem
    have hall : ['n', 't', 'f', '-', '.', 'e', 'E', '"', '[', ']', '\x7b', '\x7d'].all
        (!Char.isDigit ·) = true := by decide
    have hnot := List.all_eq_true.mp hall c hmem
    rw [h] at hnot
    cases hnot

/-- No value begins with a blank or with the end of an array. -/
theorem IsValue.exists_cons {v : List Char} (h : IsValue v) :
    ∃ x t, v = x :: t ∧ Cursor.isSpace x = false ∧ x ≠ ']' := by
  cases h with
  | number n =>
    obtain ⟨x, t, htext, hx⟩ := n.exists_cons
    refine ⟨x, t, htext, ?_⟩
    rcases hx with rfl | hx
    · decide
    · obtain ⟨hspace, hmark⟩ := not_mark_of_isDigit hx
      exact ⟨hspace, fun h => hmark (by rw [h]; decide)⟩
  | null => exact ⟨_, _, rfl, rfl, by decide⟩
  | truth => exact ⟨_, _, rfl, rfl, by decide⟩
  | falsity => exact ⟨_, _, rfl, rfl, by decide⟩
  | string pieces => exact ⟨_, _, rfl, rfl, by decide⟩
  | array b items => exact ⟨_, _, rfl, rfl, by decide⟩
  | object b members => exact ⟨_, _, rfl, rfl, by decide⟩

/-! ## What the first character tells -/

theorem NumberLiteral.head?_ne (n : NumberLiteral) {x : Char} (hx : x ≠ '-' ∧ x.isDigit = false) :
    n.text.head? ≠ some x := by
  obtain ⟨y, t, htext, hy⟩ := n.exists_cons
  rw [htext]
  intro h
  obtain rfl : y = x := Option.some.inj h
  rcases hy with rfl | hy
  · exact hx.1 rfl
  · rw [hx.2] at hy
    cases hy

namespace IsValue

variable {v : List Char}

theorem eq_stringText (h : IsValue v) (hx : v.head? = some '"') : ∃ pieces, v = stringText pieces := by
  cases h with
  | string pieces => exact ⟨pieces, rfl⟩
  | number n => exact absurd hx (n.head?_ne (by decide))
  | null | truth | falsity | array | object => cases hx

theorem eq_arrayText (h : IsValue v) (hx : v.head? = some '[') :
    ∃ b items, v = arrayText b items ∧ ∀ i ∈ items, IsValue i.value := by
  cases h with
  | array b items values => exact ⟨b, items, rfl, values⟩
  | number n => exact absurd hx (n.head?_ne (by decide))
  | null | truth | falsity | string | object => cases hx

theorem eq_objectText (h : IsValue v) (hx : v.head? = some '\x7b') :
    ∃ b members, v = objectText b members ∧ ∀ m ∈ members, IsValue m.item.value := by
  cases h with
  | object b members values => exact ⟨b, members, rfl, values⟩
  | number n => exact absurd hx (n.head?_ne (by decide))
  | null | truth | falsity | string | array => cases hx

theorem eq_number (h : IsValue v) {x : Char} (hx : v.head? = some x) (hnumber : x = '-' ∨ x.isDigit = true) :
    ∃ n : NumberLiteral, v = n.text := by
  cases h with
  | number n => exact ⟨n, rfl⟩
  | null | truth | falsity | string | array | object =>
    cases hx
    exact absurd hnumber (by decide)

end IsValue

end HardenAudit.Json
