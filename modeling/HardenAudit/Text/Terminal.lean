import HardenAudit.Text.Printable
import HardenAudit.Text.Utf8

/-!
# Control characters for terminals

A text may hold characters that a terminal takes for commands.  `shielded` keeps them as visible
escapes; `plain` takes the commands out.  A command starts with an escape character and is read by a
machine whose state says what may follow; a blank inside a command breaks it off.
-/

namespace HardenAudit.Text.Terminal

/-- One character with a visible form instead of what a terminal would take for a command. -/
def shieldChar (c : Char) : String :=
  let n := c.toNat
  if n = 0x1B then "\\x1b"
  else if n = 0x07 then "\\x07"
  else if n = 0x08 then "\\x08"
  else if n = 0x0C then "\\x0c"
  else if n = 0x7F then "\\x7f"
  else if 0x80 ≤ n ∧ n ≤ 0x9F then "\\u\x7b" ++ hex n ++ "\x7d"
  else c.toString

/-- A text that a terminal shows without obeying it. -/
def shielded (text : String) : String := String.join (text.toList.map shieldChar)

/-- Where in a command the reader is. -/
inductive State where
  | ground
  | escape
  | escapeMiddle
  | entry
  | param
  | middle
  | ignore
  | deviceEntry
  | deviceParam
  | deviceMiddle
  | deviceIgnore
  | deviceBody
  | message
  | titleText
  /-- Inside a character of several bytes, of which so many are still due. -/
  | character (due : Nat)
  deriving DecidableEq, Repr, Inhabited

namespace State

/-- Is the byte a control character that a command lets through? -/
def isControl (b : UInt8) : Bool := b < 0x18 || b == 0x19 || (0x1C ≤ b && b < 0x20)

/-- The state after a byte inside a command. -/
def next (s : State) (b : UInt8) : State :=
  let among (low high : UInt8) : Bool := low ≤ b && b ≤ high
  if b == 0x18 || b == 0x1A then ground
  else if b == 0x1B then escape
  else
    match s with
    | ground => ground
    | escape =>
      if among 0x20 0x2F then escapeMiddle
      else if b == 0x5B then entry
      else if b == 0x5D then titleText
      else if b == 0x50 then deviceEntry
      else if b == 0x58 || b == 0x5E || b == 0x5F then message
      else if among 0x30 0x7E then ground
      else escape
    | escapeMiddle => if among 0x30 0x7E then ground else escapeMiddle
    | entry =>
      if among 0x20 0x2F then middle
      else if among 0x30 0x3F then param
      else if among 0x40 0x7E then ground
      else entry
    | param =>
      if among 0x20 0x2F then middle
      else if among 0x3C 0x3F then ignore
      else if among 0x40 0x7E then ground
      else param
    | middle =>
      if among 0x30 0x3F then ignore else if among 0x40 0x7E then ground else middle
    | ignore => if among 0x40 0x7E then ground else ignore
    | deviceEntry =>
      if among 0x20 0x2F then deviceMiddle
      else if among 0x30 0x3F then deviceParam
      else if among 0x40 0x7E then deviceBody
      else deviceEntry
    | deviceParam =>
      if among 0x20 0x2F then deviceMiddle
      else if among 0x3C 0x3F then deviceIgnore
      else if among 0x40 0x7E then deviceBody
      else deviceParam
    | deviceMiddle =>
      if among 0x30 0x3F then deviceIgnore else if among 0x40 0x7E then deviceBody else deviceMiddle
    | deviceIgnore => if b == 0x9C then ground else deviceIgnore
    | deviceBody => if b == 0x9C then ground else deviceBody
    | message => if b == 0x9C then ground else message
    | titleText => if b == 0x07 then ground else titleText
    | character due => character due

/-- Does a control character act in this state, rather than belong to what is being read? -/
def actsOnControl : State → Bool
  | ground | escape | escapeMiddle | entry | param | middle | ignore => true
  | _ => false

/-- Is the byte one that a reader in this state shows? -/
def shows (s : State) (b : UInt8) : Bool :=
  if isControl b then s.actsOnControl && (b == 0x09 || b == 0x0A || b == 0x0C || b == 0x0D)
  else s == ground && ((0x20 ≤ b && b < 0x7F) || (0xC2 ≤ b && b ≤ 0xF4))

end State

/-- Bytes that follow the first byte of a character. -/
def continuation (b : UInt8) : Nat := if b < 0xE0 then 1 else if b < 0xF0 then 2 else 3

/-- The reader: its state, and whether it is in a stretch that it shows.  Such a stretch goes on by
the rules of the ground, whatever command it has broken off, and ends at the first byte that the
ground does not show. -/
structure Reader where
  state : State := .ground
  showing : Bool := false
  deriving DecidableEq, Repr, Inhabited

namespace Reader

/-- One byte in a stretch that is shown; `none` if the stretch ends before it. -/
def continue? (r : Reader) (b : UInt8) : Option Reader :=
  match r.state with
  | .character due => some { r with state := if due ≤ 1 then .ground else .character (due - 1) }
  | _ =>
    if 0xC2 ≤ b ∧ b ≤ 0xF4 then some { r with state := .character (continuation b) }
    else if State.shows .ground b then some r
    else none

/-- One byte: is it shown, and the reader after it. -/
def step (r : Reader) (b : UInt8) : Bool × Reader :=
  match if r.showing then r.continue? b else none with
  | some r => (true, r)
  | none =>
    let state := if r.showing && State.next .ground b != .ground then State.next .ground b else r.state
    if state.shows b then
      match ({ state := state.next b, showing := true } : Reader).continue? b with
      | some r => (true, r)
      | none => (false, { state := state.next b })
    else (false, { state := state.next b })

end Reader

/-- The bytes that are shown, from a reader on. -/
def visibleFrom : Reader → Bytes → Bytes
  | _, [] => []
  | r, b :: rest =>
    let (shown, r) := r.step b
    if shown then b :: visibleFrom r rest else visibleFrom r rest

/-- A text without the commands for terminals in it. -/
def plain (text : String) : String := Utf8.decodeLossy (visibleFrom {} (Utf8.encode text))

/-- The command that makes what follows stand out. -/
def standOut : String := "\x1b[33m"

/-- The command that ends all emphasis. -/
def reset : String := "\x1b[0m"

/-- A word that was made to stand out, as it looks without commands. -/
def emphasized (word : String) : String := plain (standOut ++ word ++ reset)

end HardenAudit.Text.Terminal
