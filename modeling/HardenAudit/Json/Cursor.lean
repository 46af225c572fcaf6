/-!
# Places in a text and errors at them

A reader holds the characters that are left and its place: the line, counted from one, and the
number of bytes since the last line break.  An error stands either at the place reached or one byte
further, on the byte that was looked at.
-/

namespace HardenAudit.Json

/-- A place in a text. -/
structure Position where
  line : Nat := 1
  column : Nat := 0
  deriving DecidableEq, Repr, Inhabited

namespace Position

/-- The place behind a character. -/
def past (p : Position) (c : Char) : Position :=
  if c = '\n' then ⟨p.line + 1, 0⟩ else ⟨p.line, p.column + c.utf8Size⟩

/-- The place behind the first byte of a character. -/
def pastByte (p : Position) (c : Char) : Position :=
  if c = '\n' then ⟨p.line + 1, 0⟩ else ⟨p.line, p.column + 1⟩

/-- The place behind some characters. -/
def pastAll (p : Position) (cs : List Char) : Position := cs.foldl past p

/-- The place behind a number of bytes. -/
def pastBytes (p : Position) : Nat → List Char → Position
  | 0, _ => p
  | _ + 1, [] => p
  | n + 1, c :: rest =>
    if c.utf8Size ≤ n + 1 then (p.past c).pastBytes (n + 1 - c.utf8Size) rest
    else ⟨p.line, p.column + (n + 1)⟩

end Position

/-- What a reader found in place of a value of the right type. -/
inductive Found where
  | null
  | boolean (b : Bool)
  | integer (n : Int)
  | float (text : String)
  | string (quoted : String)
  | sequence
  | map
  deriving DecidableEq, Repr, Inhabited

/-- What was found, in words. -/
def Found.text : Found → String
  | null => "null"
  | boolean b => "boolean `" ++ (if b then "true" else "false") ++ "`"
  | integer n => "integer `" ++ toString n ++ "`"
  | float text => "floating point `" ++ text ++ "`"
  | string quoted => "string " ++ quoted
  | sequence => "sequence"
  | map => "map"

/-- Why a text could not be read. -/
inductive Cause where
  | endOfValue
  | endOfObject
  | endOfList
  | endOfString
  | expectedColon
  | expectedListComma
  | expectedObjectComma
  | expectedIdent
  | expectedValue
  | invalidEscape
  | invalidNumber
  | numberOutOfRange
  | controlCharacter
  | keyMustBeString
  | loneSurrogate
  | unfinishedSurrogate
  | trailingComma
  | trailingCharacters
  | duplicateField (name : String)
  | invalidType (found : Found) (expected : String)
  | invalidValue (found : Found) (expected : String)
  deriving DecidableEq, Repr, Inhabited

/-- The wording of a cause. -/
def Cause.text : Cause → String
  | endOfValue => "EOF while parsing a value"
  | endOfObject => "EOF while parsing an object"
  | endOfList => "EOF while parsing a list"
  | endOfString => "EOF while parsing a string"
  | expectedColon => "expected `:`"
  | expectedListComma => "expected `,` or `]`"
  | expectedObjectComma => "expected `,` or `\x7d`"
  | expectedIdent => "expected ident"
  | expectedValue => "expected value"
  | invalidEscape => "invalid escape"
  | invalidNumber => "invalid number"
  | numberOutOfRange => "number out of range"
  | controlCharacter => "control character (\\u0000-\\u001F) found while parsing a string"
  | keyMustBeString => "key must be a string"
  | loneSurrogate => "lone leading surrogate in hex escape"
  | unfinishedSurrogate => "unexpected end of hex escape"
  | trailingComma => "trailing comma"
  | trailingCharacters => "trailing characters"
  | duplicateField name => "duplicate field `" ++ name ++ "`"
  | invalidType found expected => "invalid type: " ++ found.text ++ ", expected " ++ expected
  | invalidValue found expected => "invalid value: " ++ found.text ++ ", expected " ++ expected

/-- A cause and its place. -/
structure ReadError where
  cause : Cause
  position : Position
  deriving DecidableEq, Repr, Inhabited

/-- The wording of an error. -/
def ReadError.message (e : ReadError) : String :=
  e.cause.text ++ " at line " ++ toString e.position.line ++ " column " ++ toString e.position.column

/-- A reader's place and the characters that are left. -/
structure Cursor where
  position : Position
  rest : List Char
  deriving DecidableEq, Repr, Inhabited

namespace Cursor

/-- The cursor at the beginning of a text. -/
def ofText (text : String) : Cursor := ⟨{}, text.toList⟩

/-- The cursor behind the first `n` characters that are left. -/
def advance (c : Cursor) (n : Nat) : Cursor :=
  ⟨c.position.pastAll (c.rest.take n), c.rest.drop n⟩

/-- The place of the byte that is looked at; at the end of the text, the end. -/
def peeked (c : Cursor) : Position :=
  match c.rest with
  | [] => c.position
  | x :: _ => c.position.pastByte x

/-- An error at the place reached. -/
def fail {α : Type} (c : Cursor) (cause : Cause) : Except ReadError α := .error ⟨cause, c.position⟩

/-- An error on the byte that is looked at. -/
def failPeek {α : Type} (c : Cursor) (cause : Cause) : Except ReadError α := .error ⟨cause, c.peeked⟩

/-- Characters that may stand between the parts of a JSON text. -/
def isSpace (c : Char) : Bool := c == ' ' || c == '\n' || c == '\t' || c == '\r'

/-- Blanks skipped from a place on. -/
def skipFrom : Position → List Char → Cursor
  | p, [] => ⟨p, []⟩
  | p, c :: rest => if isSpace c then skipFrom (p.past c) rest else ⟨p, c :: rest⟩

/-- The cursor behind the blanks. -/
def skip (c : Cursor) : Cursor := skipFrom c.position c.rest

end Cursor
end HardenAudit.Json
