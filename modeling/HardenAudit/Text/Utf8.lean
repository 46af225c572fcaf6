/-!
# UTF-8, strict and lossy

A byte string is read by a machine that is either between characters or inside a sequence whose
next byte must lie in a known range.  A byte outside that range ends the sequence: what was read of
it is one damaged unit, and the byte itself is looked at afresh.  So each maximal damaged stretch
gives exactly one unit, and no ASCII byte is ever swallowed.
-/

namespace HardenAudit.Text

/-- Raw bytes, as a program writes them. -/
abbrev Bytes := List UInt8

namespace Utf8

/-- Between characters, or inside a sequence: the code read so far, how many bytes are still due,
and the range of the next one. -/
inductive Machine where
  | ready
  | within (code : Nat) (due : Nat) (low high : UInt8)
  deriving DecidableEq, Repr

/-- What a byte means between characters: a unit at once, or the start of a sequence. -/
def lead (b : UInt8) : List (Option Char) × Machine :=
  if b < 0x80 then ([some (Char.ofNat b.toNat)], .ready)
  else if b < 0xC2 then ([none], .ready)
  else if b < 0xE0 then ([], .within (b.toNat % 0x20) 1 0x80 0xBF)
  else if b = 0xE0 then ([], .within 0 2 0xA0 0xBF)
  else if b = 0xED then ([], .within 0xD 2 0x80 0x9F)
  else if b < 0xF0 then ([], .within (b.toNat % 0x10) 2 0x80 0xBF)
  else if b = 0xF0 then ([], .within 0 3 0x90 0xBF)
  else if b < 0xF4 then ([], .within (b.toNat % 8) 3 0x80 0xBF)
  else if b = 0xF4 then ([], .within 4 3 0x80 0x8F)
  else ([none], .ready)

/-- One byte: the units that it completes, and the machine after it. -/
def step : Machine → UInt8 → List (Option Char) × Machine
  | .ready, b => lead b
  | .within code due low high, b =>
    if low ≤ b ∧ b ≤ high then
      let code := code * 0x40 + b.toNat % 0x40
      if due = 1 then ([some (Char.ofNat code)], .ready)
      else ([], .within code (due - 1) 0x80 0xBF)
    else
      let (units, next) := lead b
      (none :: units, next)

/-- Units of a byte string: `some` for a character, `none` for a damaged stretch. -/
def unitsFrom : Machine → Bytes → List (Option Char)
  | .ready, [] => []
  | .within .., [] => [none]
  | m, b :: rest =>
    let (units, next) := step m b
    units ++ unitsFrom next rest

/-- Units of a byte string read from its beginning. -/
def units (bytes : Bytes) : List (Option Char) := unitsFrom .ready bytes

/-- The character that stands for a damaged stretch. -/
def replacement : Char := Char.ofNat 0xFFFD

/-- Text of a byte string, with one replacement character for each damaged stretch. -/
def decodeLossy (bytes : Bytes) : String :=
  String.ofList ((units bytes).map (·.getD replacement))

/-- Text of a byte string, if no part of it is damaged. -/
def decode? (bytes : Bytes) : Option String :=
  ((units bytes).mapM id).map String.ofList

/-- Bytes of a text. -/
def encode (text : String) : Bytes := text.toList.flatMap String.utf8EncodeChar

end Utf8
end HardenAudit.Text

/-!
## Raw texts

A raw text is a string whose characters have codes below 256, each for one byte.  Programs and
scripts work on raw texts, so that a character of several bytes counts as several, and so that bytes
which are no text survive.
-/

namespace HardenAudit.Text.Raw

/-- The raw text of some bytes. -/
def ofBytes (bytes : Bytes) : String := String.ofList (bytes.map fun b => Char.ofNat b.toNat)

/-- The bytes of a raw text. -/
def toBytes (raw : String) : Bytes := raw.toList.map fun c => c.toNat.toUInt8

/-- Is every character a plain ASCII one, so that raw and ordinary text are the same? -/
def isAscii (s : String) : Bool := s.toList.all (·.toNat < 0x80)

/-- The raw text of an ordinary text. -/
def ofText (text : String) : String :=
  if isAscii text then text else ofBytes (Utf8.encode text)

/-- The ordinary text of a raw text. -/
def toText (raw : String) : String :=
  if isAscii raw then raw else Utf8.decodeLossy (toBytes raw)

end HardenAudit.Text.Raw
