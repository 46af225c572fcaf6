import HardenAudit.Json.Scalar

/-!
# Passing over values

A value that nobody asks for is only checked for its shape.  Numbers may be of any size, escapes of
surrogates need no partner, and there is no limit on nesting.
-/

namespace HardenAudit.Json

/-- Passes over the digits from a place on which one is due. -/
def ignoreDigits (c : Cursor) : Except ReadError Cursor :=
  match digits c with
  | [] => c.failPeek .invalidNumber
  | ds => .ok (c.advance ds.length)

/-- Passes over an exponent, if there is one. -/
def ignoreExponent (c : Cursor) : Except ReadError Cursor :=
  match c.rest.head? with
  | some x =>
    if x = 'e' ∨ x = 'E' then
      let c := c.advance 1
      let c := if c.rest.head? = some '+' ∨ c.rest.head? = some '-' then c.advance 1 else c
      ignoreDigits c
    else .ok c
  | none => .ok c

/-- Passes over a number from its sign or its first digit on. -/
def ignoreNumber (c : Cursor) : Except ReadError Cursor := do
  let c := if c.rest.head? = some '-' then c.advance 1 else c
  let ds := digits c
  if ds.head? = some '0' ∧ ds.length > 1 then (c.advance 1).failPeek .invalidNumber
  else
    let c ← ignoreDigits c
    if c.rest.head? = some '.' then
      let c ← ignoreDigits (c.advance 1)
      ignoreExponent c
    else ignoreExponent c

/-- Passes over the characters of a string and its closing quote. -/
def ignoreChars : (skip : Nat) → Position → List Char → Except ReadError Cursor
  | _, p, [] => .error ⟨.endOfString, p⟩
  | skip + 1, p, x :: rest => ignoreChars skip (p.past x) rest
  | 0, p, x :: rest =>
    if x = '"' then .ok ⟨p.past x, rest⟩
    else if x = '\\' then
      let c : Cursor := ⟨p.past x, rest⟩
      match rest with
      | [] => c.fail .endOfString
      | y :: _ =>
        if (simpleEscape? y).isSome then ignoreChars 1 c.position rest
        else if y = 'u' then
          match readHex (c.advance 1) with
          | .error e => .error e
          | .ok _ => ignoreChars 5 c.position rest
        else c.failPeek .invalidEscape
    else if x.toNat < 0x20 then .error ⟨.controlCharacter, p⟩
    else ignoreChars 0 (p.past x) rest

/-- Passes over a string from its opening quote on. -/
def ignoreString (c : Cursor) : Except ReadError Cursor :=
  let c := c.advance 1
  ignoreChars 0 c.position c.rest

mutual

/-- Passes over a value. -/
def ignoreValue : Nat → Cursor → Except ReadError Cursor
  | 0, c => c.fail .endOfValue
  | fuel + 1, c =>
    let c := c.skip
    match c.rest with
    | [] => c.failPeek .endOfValue
    | x :: _ =>
      if x = 'n' then readLetters ['n', 'u', 'l', 'l'] c
      else if x = 't' then readLetters ['t', 'r', 'u', 'e'] c
      else if x = 'f' then readLetters ['f', 'a', 'l', 's', 'e'] c
      else if x = '-' ∨ x.isDigit then ignoreNumber c
      else if x = '"' then ignoreString c
      else if x = '[' then
        let c := (c.advance 1).skip
        if c.rest.head? = some ']' then .ok (c.advance 1)
        else if c.rest = [] then c.failPeek .endOfList
        else ignoreItems fuel c
      else if x = '\x7b' then
        let c := (c.advance 1).skip
        if c.rest.head? = some '\x7d' then .ok (c.advance 1)
        else ignoreMembers fuel c
      else c.failPeek .expectedValue

/-- Passes over the items of a list and its end. -/
def ignoreItems : Nat → Cursor → Except ReadError Cursor
  | 0, c => c.fail .endOfList
  | fuel + 1, c =>
    match ignoreValue fuel c with
    | .error e => .error e
    | .ok c =>
      let c := c.skip
      match c.rest with
      | [] => c.failPeek .endOfList
      | x :: _ =>
        if x = ',' then ignoreItems fuel (c.advance 1)
        else if x = ']' then .ok (c.advance 1)
        else c.failPeek .expectedListComma

/-- Passes over the members of an object and its end. -/
def ignoreMembers : Nat → Cursor → Except ReadError Cursor
  | 0, c => c.fail .endOfObject
  | fuel + 1, c =>
    let c := c.skip
    match c.rest with
    | [] => c.failPeek .endOfObject
    | x :: _ =>
      if x ≠ '"' then c.failPeek .keyMustBeString
      else
        match ignoreString c with
        | .error e => .error e
        | .ok c =>
          let c := c.skip
          match c.rest with
          | [] => c.failPeek .endOfObject
          | x :: _ =>
            if x ≠ ':' then c.failPeek .expectedColon
            else
              match ignoreValue fuel (c.advance 1) with
              | .error e => .error e
              | .ok c =>
                let c := c.skip
                match c.rest with
                | [] => c.failPeek .endOfObject
                | x :: _ =>
                  if x = ',' then ignoreMembers fuel (c.advance 1)
                  else if x = '\x7d' then .ok (c.advance 1)
                  else c.failPeek .expectedObjectComma

end

/-- Passes over one value.  Every second step eats a character, so the steps are enough. -/
def ignore (c : Cursor) : Except ReadError Cursor := ignoreValue (2 * c.rest.length + 2) c

end HardenAudit.Json
