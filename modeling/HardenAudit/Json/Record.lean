import HardenAudit.Json.Ignored
import HardenAudit.Text.Printable

/-!
# Reading records

A record has fields with names, in a fixed order, and a default for each.  It is written either as
an object that names some of its fields, in any order and among members that mean nothing here, or
as a list that gives the first few fields in order.  Fields that are not given keep their defaults.
-/

namespace HardenAudit.Json

/-! ## Values of one type -/

/-- The error for a value of the wrong type.  A value without parts is read first, so that its own
errors come first; the error stands behind it. -/
def wrongType {α : Type} (expected : String) (c : Cursor) : Except ReadError α :=
  match c.rest with
  | [] => c.failPeek .endOfValue
  | x :: _ =>
    if x = 'n' then do
      let c ← readLetters ['n', 'u', 'l', 'l'] c
      c.fail (.invalidType .null expected)
    else if x = 't' then do
      let c ← readLetters ['t', 'r', 'u', 'e'] c
      c.fail (.invalidType (.boolean true) expected)
    else if x = 'f' then do
      let c ← readLetters ['f', 'a', 'l', 's', 'e'] c
      c.fail (.invalidType (.boolean false) expected)
    else if x = '-' ∨ x.isDigit then do
      let (n, c) ← readNumber c
      c.fail (.invalidType n.found expected)
    else if x = '"' then do
      let (s, c) ← readString c
      c.fail (.invalidType (.string (Text.quoted s)) expected)
    else if x = '[' then c.fail (.invalidType .sequence expected)
    else if x = '\x7b' then c.fail (.invalidType .map expected)
    else c.failPeek .expectedValue

/-- A string that is called `expected` in errors. -/
def stringValue (expected : String) (c : Cursor) : Except ReadError (String × Cursor) :=
  let c := c.skip
  if c.rest.head? = some '"' then readString c else wrongType expected c

/-- A natural number of 64 bits. -/
def wordValue (c : Cursor) : Except ReadError (UInt64 × Cursor) :=
  let c := c.skip
  match c.rest with
  | [] => wrongType "u64" c
  | x :: _ =>
    if x = '-' ∨ x.isDigit then
      match readNumber c with
      | .error e => .error e
      | .ok (.natural n, c) => .ok (n.toUInt64, c)
      | .ok (.negative n, c) => c.fail (.invalidValue (.integer (-n)) "u64")
      | .ok (.float below x, c) => c.fail (.invalidType (Number.float below x).found "u64")
    else wrongType "u64" c

/-- The end of a list, or the cursor at its next item. -/
inductive NextItem where
  | done (c : Cursor)
  | item (c : Cursor)

/-- Goes on to the next item of a list; in front of the first one there is no comma. -/
def nextItem (first : Bool) (c : Cursor) : Except ReadError NextItem :=
  let c := c.skip
  match c.rest with
  | [] => c.failPeek .endOfList
  | x :: _ =>
    if x = ']' then .ok (.done (c.advance 1))
    else if first then .ok (.item c)
    else if x ≠ ',' then c.failPeek .expectedListComma
    else
      let c := (c.advance 1).skip
      match c.rest with
      | [] => c.failPeek .endOfValue
      | y :: _ => if y = ']' then c.failPeek .trailingComma else .ok (.item c)

/-- The items of a list of strings and its end. -/
def stringItems : Nat → (first : Bool) → Cursor → Except ReadError (List String × Cursor)
  | 0, _, c => c.fail .endOfList
  | fuel + 1, first, c =>
    match nextItem first c with
    | .error e => .error e
    | .ok (.done c) => .ok ([], c)
    | .ok (.item c) =>
      match stringValue "a string" c with
      | .error e => .error e
      | .ok (s, c) => (stringItems fuel false c).map fun (ss, c) => (s :: ss, c)

/-- A list of strings.  Every step eats a character, so the steps are enough. -/
def stringsValue (c : Cursor) : Except ReadError (List String × Cursor) :=
  let c := c.skip
  if c.rest.head? = some '[' then
    let c := c.advance 1
    stringItems (c.rest.length + 1) true c
  else wrongType "a sequence" c

/-! ## Records -/

/-- A field of a record: its name, and a reader that puts a value into the record. -/
structure FieldReader (σ : Type) where
  name : String
  read : σ → Cursor → Except ReadError (σ × Cursor)

namespace FieldReader

/-- A field that is read by `read` and stored by `store`. -/
def of {σ α : Type} (name : String) (read : Cursor → Except ReadError (α × Cursor))
    (store : σ → α → σ) : FieldReader σ where
  name := name
  read := fun s c => (read c).map fun (a, c) => (store s a, c)

end FieldReader

/-- The end of an object, or the cursor at the quote of its next key. -/
inductive NextKey where
  | done (c : Cursor)
  | key (c : Cursor)

/-- Goes on to the next key of an object; in front of the first one there is no comma. -/
def nextKey (first : Bool) (c : Cursor) : Except ReadError NextKey :=
  let c := c.skip
  match c.rest with
  | [] => c.failPeek .endOfObject
  | x :: _ =>
    if x = '\x7d' then .ok (.done (c.advance 1))
    else if first then if x = '"' then .ok (.key c) else c.failPeek .keyMustBeString
    else if x ≠ ',' then c.failPeek .expectedObjectComma
    else
      let c := (c.advance 1).skip
      match c.rest with
      | [] => c.failPeek .endOfValue
      | y :: _ =>
        if y = '"' then .ok (.key c)
        else if y = '\x7d' then c.failPeek .trailingComma
        else c.failPeek .keyMustBeString

/-- The colon behind a key. -/
def readColon (c : Cursor) : Except ReadError Cursor :=
  let c := c.skip
  match c.rest with
  | [] => c.failPeek .endOfObject
  | x :: _ => if x = ':' then .ok (c.advance 1) else c.failPeek .expectedColon

/-- The error for a field that is given twice; it stands behind the blanks after the key, and behind
a brace if one follows there. -/
def repeated {α : Type} (name : String) (c : Cursor) : Except ReadError α :=
  let c := c.skip
  let c := if c.rest.head? = some '\x7d' then c.advance 1 else c
  c.fail (.duplicateField name)

/-- The members of an object and its end; `seen` holds the fields given so far. -/
def readMembers {σ : Type} (fields : List (FieldReader σ)) :
    Nat → (first : Bool) → (seen : List String) → σ → Cursor → Except ReadError (σ × Cursor)
  | 0, _, _, _, c => c.fail .endOfObject
  | fuel + 1, first, seen, s, c =>
    match nextKey first c with
    | .error e => .error e
    | .ok (.done c) => .ok (s, c)
    | .ok (.key c) =>
      match readString c with
      | .error e => .error e
      | .ok (key, c) =>
        match fields.find? (·.name == key) with
        | none =>
          match readColon c with
          | .error e => .error e
          | .ok c =>
            match ignore c with
            | .error e => .error e
            | .ok c => readMembers fields fuel false seen s c
        | some field =>
          if seen.contains key then repeated key c
          else
            match readColon c with
            | .error e => .error e
            | .ok c =>
              match field.read s c with
              | .error e => .error e
              | .ok (s, c) => readMembers fields fuel false (key :: seen) s c

/-- What may follow the last field of a record that is written as a list. -/
def readListEnd (c : Cursor) : Except ReadError Cursor :=
  let c := c.skip
  match c.rest with
  | [] => c.failPeek .endOfList
  | x :: _ =>
    if x = ']' then .ok (c.advance 1)
    else if x = ',' then
      let c := (c.advance 1).skip
      c.failPeek (if c.rest.head? = some ']' then .trailingComma else .trailingCharacters)
    else c.failPeek .trailingCharacters

/-- The fields of a record that is written as a list, and its end. -/
def readPositions {σ : Type} :
    List (FieldReader σ) → (first : Bool) → σ → Cursor → Except ReadError (σ × Cursor)
  | [], _, s, c => (readListEnd c).map fun c => (s, c)
  | field :: fields, first, s, c =>
    match nextItem first c with
    | .error e => .error e
    | .ok (.done c) => .ok (s, c)
    | .ok (.item c) =>
      match field.read s c with
      | .error e => .error e
      | .ok (s, c) => readPositions fields false s c

/-- A record in either form, over its defaults. -/
def readRecord {σ : Type} (title : String) (fields : List (FieldReader σ)) (defaults : σ) (c : Cursor) :
    Except ReadError (σ × Cursor) :=
  let c := c.skip
  if c.rest.head? = some '\x7b' then
    let c := c.advance 1
    readMembers fields (c.rest.length + 1) true [] defaults c
  else if c.rest.head? = some '[' then readPositions fields true defaults (c.advance 1)
  else wrongType ("struct " ++ title) c

/-- Reads a whole text; nothing but blanks may follow the value. -/
def readWhole {α : Type} (read : Cursor → Except ReadError (α × Cursor)) (text : String) :
    Except ReadError α :=
  match read (.ofText text) with
  | .error e => .error e
  | .ok (a, c) =>
    let c := c.skip
    if c.rest = [] then .ok a else c.failPeek .trailingCharacters

end HardenAudit.Json
