import HardenAudit.ExtendedShell.Builtin.Options
import HardenAudit.Shell.Fields

/-!
# Commands that read: `read` and `mapfile`
-/

namespace HardenAudit.ExtendedShell.Builtin

open Sh

/-- The number that an option's value is; none if it is no number from zero on. -/
def countOf? (text : String) : Option Nat :=
  match Shell.wholeNumber? 10 text with
  | some n => if 0 ≤ n then some n.toNat else none
  | none => none

/-- Complains about a name that is none. -/
def badName (name : String) : Sh Nat := do
  warn ("\x60" ++ name ++ "\x27: not a valid identifier")
  pure 1

/-- A descriptor that an option names, if it is open. -/
def descriptor? (text : Option String) : Sh (Option Nat) := do
  match text with
  | none => pure (some 0)
  | some text =>
    match countOf? text with
    | none =>
      warn (text ++ ": invalid file descriptor specification")
      pure none
    | some fd =>
      match ← ask (.statusOf fd) with
      | .ok _ => pure (some fd)
      | .error e =>
        warn (text ++ ": invalid file descriptor: " ++ e.text)
        pure none

/-! ## Reading a line -/

/-- How a line is read. -/
structure LineManner where
  fd : Nat
  raw : Bool
  /-- The character that ends the line; none if only the number of characters does. -/
  stop : Option Char
  /-- Characters to be read at most. -/
  most : Option Nat
  /-- The time up to which the line has to come. -/
  deadline : Option Nat := none
  deriving Inhabited

/-- Why no more is read. -/
inductive LineEnd where
  | complete
  | inputEnded
  | timeOver
  deriving DecidableEq, Repr, Inhabited

/-- The status that tells how reading a line ended; time that is over counts as the signal of an alarm. -/
def LineEnd.status : LineEnd → Nat
  | .complete => 0
  | .inputEnded => 1
  | .timeOver => 142

/-- A line under way: its cells, in reverse, and whether a backslash was read. -/
structure LineSoFar where
  cells : List Shell.Cell := [.start false]
  count : Nat := 0
  escaped : Bool := false
  deriving Inhabited

/-- Must reading stop because a time is over? -/
def isLate (fd : Nat) (deadline : Option Nat) : Sh Bool := do
  match deadline with
  | none => pure false
  | some time => pure !(← ask (.ready fd time))

/-- Reads a line; gives its cells, and why it ended. -/
def readCells (m : LineManner) : Sh (List Shell.Cell × LineEnd) :=
  iterate (fun (l : LineSoFar) => do
    let full := match m.most with
      | some n => decide (l.count ≥ n)
      | none => false
    if full then pure (.inr (l.cells.reverse, .complete))
    else if ← isLate m.fd m.deadline then pure (.inr (l.cells.reverse, .timeOver))
    else
      match ← ask (.read m.fd 1) with
      | .ok [b] =>
        let c := Char.ofNat b.toNat
        if l.escaped then
          if c == '\n' then pure (.inl { l with escaped := false })
          else
            let cells : List Shell.Cell := [.start false, .char c true false]
            pure (.inl { l with cells := cells ++ l.cells, escaped := false, count := l.count + 1 })
        else if m.stop == some c then pure (.inr (l.cells.reverse, .complete))
        else if c.toNat == 0 then pure (.inl l)
        else if !m.raw && c == '\\' then pure (.inl { l with escaped := true })
        else pure (.inl { l with cells := .char c false true :: l.cells, count := l.count + 1 })
      | _ => pure (.inr (l.cells.reverse, .inputEnded))) Kernel.endless {}

/-- The microseconds of a number of seconds, which may have a point. -/
def microseconds? (text : String) : Option Nat :=
  let whole := text.toList.takeWhile Char.isDigit
  let behind := text.toList.drop whole.length
  let value (ds : List Char) : Nat := (Shell.digits 10 ds 0 0).1
  match behind with
  | [] => some (value whole * 1000000)
  | '.' :: ds =>
    let six := ((ds ++ List.replicate 6 '0').take 6)
    if ds.all Char.isDigit then some (value whole * 1000000 + value six) else none
  | _ => none

/-- How long reading may take: what an option says, or a variable. -/
def readingTime (option : Option String) : Sh (Option Nat) := do
  match option with
  | some text => pure (microseconds? text)
  | none =>
    let found := ((← get).known? "TMOUT").bind fun v => if v.isSet then v.value.get? .whole else none
    pure ((found.bind microseconds?).filter (· > 0))

/-- Assigns fields to names, one each; names that are left over get an empty value.  Stops at a name that
is none. -/
def assignFields : List String → List String → Sh Bool
  | [], _ => pure true
  | name :: names, fields => do
    if !isReference name then
      let _ ← badName name
      pure false
    else
      let worked ← assignNamed name (fields.head?.getD "")
      if worked then assignFields names (fields.drop 1) else pure false

/-- Makes a variable a list; says whether that worked. -/
def storeList (name : String) (values : List String) : Sh Bool := do
  let target ← follow name
  let v := ((← get).known? target).getD {}
  if v.readOnly then
    warnPlain (target ++ ": readonly variable")
    pure false
  else
    modify fun s => s.putVariable target { v with value := .list (.ofList values), isSet := true }
    pure true

/-- Reads a line into variables: a field each, and the rest of the line for the last one. -/
def read (args : List String) : Sh Nat :=
  withOptions "ersa:d:i:n:N:p:t:u:" args fun g => do
    let list := g.value? 'a'
    let count := (g.value? 'N').or (g.value? 'n')
    let time ← readingTime (g.value? 't')
    if (g.value? 't').isSome && time.isNone then
      warn ((g.value? 't').getD "" ++ ": invalid timeout specification")
      return 1
    if let some text := count then
      if (countOf? text).isNone then
        warn (text ++ ": invalid number")
        return 1
    let some fd ← descriptor? (g.value? 'u') | return 1
    match g.rest with
    | first :: _ =>
      if !isReference first then return ← badName first
    | [] => pure ()
    let now ← ask .now
    if time == some 0 then return if ← ask (.ready fd now) then 0 else 1
    let whole := g.has 'N'
    let stop := if whole then none
      else match g.value? 'd' with
        | some text => some ((text.toList.head?).getD (Char.ofNat 0))
        | none => some '\n'
    let (cells, end_) ← readCells
      { fd := fd, raw := g.has 'r', stop := stop, most := count.bind countOf?
        deadline := time.map (now + ·) }
    let status := end_.status
    let ifs ← separators
    let result (worked : Bool) : Sh Nat := pure (if worked then status else 1)
    match list with
    | some name =>
      if !isReference name then badName name
      else
        let fields := (Shell.splitFields ifs none cells).map Shell.Cell.text
        let worked ← storeList name fields
        result worked
    | none =>
      match g.rest with
      | [] =>
        let worked ← assignNamed "REPLY" (Shell.Cell.text cells)
        result worked
      | names =>
        let fields := if whole then [Shell.Cell.text cells]
          else (Shell.splitFields ifs (some names.length) cells).map Shell.Cell.text
        let worked ← assignFields names fields
        result worked

/-! ## Reading all lines -/

/-- Reads a line with its end; none at the end of the input. -/
def nextLine? (fd : Nat) (stop : Char) : Sh (Option String) :=
  iterate (fun (cs : List Char) => do
    match ← ask (.read fd 1) with
    | .ok [b] =>
      let c := Char.ofNat b.toNat
      if c == stop then pure (.inr (some (String.ofList (c :: cs).reverse)))
      else if c.toNat == 0 then pure (.inl cs)
      else pure (.inl (c :: cs))
    | _ => pure (.inr (if cs.isEmpty then none else some (String.ofList cs.reverse)))) Kernel.endless []

/-- Lines on their way into a list. -/
structure Filling where
  skip : Nat
  left : Option Nat
  index : Nat
  seen : Nat := 0
  deriving Inhabited

/-- Reads lines into a list; `run` carries out a text of commands. -/
def mapfile (run : String → Sh Nat) (args : List String) : Sh Nat :=
  withOptions "d:u:n:O:tC:c:s:" args fun g => do
    let number (letter : Char) (standard : Nat) (what : String) : Sh (Option Nat) := do
      match g.value? letter with
      | none => pure (some standard)
      | some text =>
        match countOf? text with
        | some n => pure (some n)
        | none =>
          warn (text ++ ": invalid " ++ what)
          pure none
    let some fd ← descriptor? (g.value? 'u') | return 1
    let some most ← number 'n' 0 "line count" | return 1
    let some origin ← number 'O' 0 "array origin" | return 1
    let some skip ← number 's' 0 "line count" | return 1
    let some quantum ← number 'c' 5000 "callback quantum" | return 1
    let name := g.rest.head?.getD "MAPFILE"
    if name == "" then
      warn "empty array variable name"
      return 1
    if !Shell.isName name then return ← badName name
    let target ← follow name
    let v := ((← get).known? target).getD {}
    if v.readOnly then
      warnPlain (target ++ ": readonly variable")
      return 1
    match v.value with
    | .table _ =>
      warn (name ++ ": not an indexed array")
      return 1
    | _ => pure ()
    let stop := match g.value? 'd' with
      | some text => (text.toList.head?).getD (Char.ofNat 0)
      | none => '\n'
    let start := match v.value, v.isSet && (g.value? 'O').isSome with
      | .list s, true => s
      | .text t, true => if t == "" then {} else .ofList [t]
      | _, _ => {}
    modify fun s => s.putVariable target { v with value := .list start, isSet := true }
    iterate (fun (f : Filling) => do
      if f.left == some 0 then pure (.inr 0)
      else
        match ← nextLine? fd stop with
        | none => pure (.inr 0)
        | some line =>
          if f.skip > 0 then pure (.inl { f with skip := f.skip - 1 })
          else
            let text := if g.has 't' && line.toList.getLast? == some stop
              then String.ofList line.toList.dropLast else line
            let text := String.ofList (text.toList.filter (·.toNat != 0))
            if let some action := g.value? 'C' then
              if quantum > 0 && (f.seen + 1) % quantum == 0 then
                let _ ← run (action ++ " " ++ toString f.index ++ " " ++ Quoting.single text)
                flush
            let _ ← storeAt target (.number f.index) text
            pure (.inl { f with
              index := f.index + 1, seen := f.seen + 1, left := f.left.map (· - 1) }))
      Kernel.endless
      { skip := skip, left := if most = 0 then none else some most, index := origin }

end HardenAudit.ExtendedShell.Builtin
