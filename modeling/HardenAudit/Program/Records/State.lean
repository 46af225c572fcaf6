import HardenAudit.Kernel.Course
import HardenAudit.Program.Records.Expression
import HardenAudit.Program.Records.Syntax
import HardenAudit.Program.Records.Table

/-!
# The state of a script about records

Variables, tables, and the record with its fields.  The record is split when a field is asked for, and
put together again when it is asked for after a field was changed.
-/

namespace HardenAudit.Program.Records

open Kernel (Course Environment Refusal Request Work)

/-- What a variable holds. -/
inductive Slot where
  | nothing
  | value (v : Value)
  | table (n : Nat)
  /-- Nothing so far; if it is used as an array, it is the table with this number. -/
  | open_ (n : Nat)
  deriving Inhabited

/-- Why a statement is left. -/
inductive Jump where
  | next
  | nextFile
  | exit
  | return (v : Value)
  | break
  | continue
  /-- An error, which was reported already. -/
  | failed
  deriving Inhabited

/-- Something that records are read from. -/
structure Supply where
  fd : Nat
  /-- The number of the command that writes it. -/
  pid : Option Nat := none
  /-- What was read and not used. -/
  left : List Char := []
  ended : Bool := false
  deriving Inhabited

/-- Something that output goes to. -/
structure Drain where
  fd : Nat
  pid : Option Nat := none
  /-- What was not yet passed on, in reverse, and its length. -/
  waiting : List String := []
  size : Nat := 0
  deriving Inhabited

/-- The state. -/
structure State where
  name : String
  script : Script
  env : Environment
  shared : Array Slot := #[]
  parameters : Array Slot := #[]
  tables : Array Table := #[]
  /-- The record; not up to date if fields were changed. -/
  record : Value := .input ""
  fields : Array Value := #[]
  /-- Are the fields those of the record, and is the record that of the fields? -/
  isSplit : Bool := true
  isJoined : Bool := true
  /-- Expressions that were read from texts. -/
  regexes : Std.HashMap String Regex := {}
  input : Option Supply := none
  /-- The number of the argument that comes next, and whether any argument was a file. -/
  argument : Nat := 1
  anyFile : Bool := false
  finished : Bool := false
  output : Drain := { fd := 1 }
  /-- Files and commands that were opened, the latest first. -/
  drains : List (String × Drain) := []
  supplies : List (String × Supply) := []
  /-- Rules that go from a record to another one and are under way. -/
  ranges : List Nat := []
  status : Nat := 0
  depth : Nat := 0
  /-- The numbers from which random ones are made, and where the next one comes from. -/
  random : Array Nat := #[]
  seed : Float := 0
  deriving Inhabited

/-- Running a script. -/
abbrev Rec (α : Type) : Type := Course State Jump α

namespace Rec

/-- Asks the kernel for something. -/
def ask (request : Request) : Rec request.Answer := Course.ask request

/-- Gives what became of a part instead of leaving it. -/
def attempt {α : Type} (m : Rec α) : Rec (Except Jump α) := Course.attempt m

/-- Repeats a step until it gives a result; `limit` bounds the repetitions. -/
def iterate {σ α : Type} [Inhabited α] (step : σ → Rec (σ ⊕ α)) (limit : Nat) (x : σ) : Rec α :=
  Course.iterate step limit x

/-! ## Variables -/

/-- What a variable holds. -/
def slot (v : Ref) : Rec Slot := do
  let s ← get
  pure (match v with
    | .shared n => s.shared[n]?.getD .nothing
    | .parameter n => s.parameters[n]?.getD .nothing)

/-- Changes what a variable holds. -/
def setSlot (v : Ref) (x : Slot) : Rec Unit := modify fun s =>
  match v with
  | .shared n => { s with shared := s.shared.setIfInBounds n x }
  | .parameter n => { s with parameters := s.parameters.setIfInBounds n x }

/-- The value of a special variable, apart from the number of fields. -/
def specialValue (name : String) : Rec Value := do
  match (← get).shared[special name]?.getD .nothing with
  | .value v => pure v
  | _ => pure .nothing

/-- Sets a special variable, apart from the number of fields. -/
def setSpecial (name : String) (v : Value) : Rec Unit := setSlot (.shared (special name)) (.value v)

/-- How numbers are written when they become texts. -/
def format : Rec String := do
  match ← specialValue "CONVFMT" with
  | .text f | .input f => pure f
  | v => pure (v.toText "%.6g")

/-- A value as a text. -/
def textOf (v : Value) : Rec String := do
  match v with
  | .text t | .input t => pure t
  | .nothing => pure ""
  | v => do
    let f ← format
    pure (v.toText f)

/-- The text of a special variable. -/
def specialText (name : String) : Rec String := do
  let v ← specialValue name
  textOf v

/-! ## Errors -/

/-- Writes to the second stream. -/
def printError (text : String) : Rec Unit :=
  iterate (fun (bytes : Text.Bytes) => do
    if bytes.isEmpty then pure (.inr ())
    else
      match ← ask (.write 2 bytes) with
      | .ok count => pure (.inl (bytes.drop count))
      | .error _ => pure (.inr ())) Kernel.endless (Text.Raw.toBytes text)

/-- Gives up with a message. -/
def giveUp {α : Type} (message : String) : Rec α := do
  let s ← get
  printError (s.name ++ ": " ++ message ++ "\n")
  modify fun s => { s with status := 2 }
  throw .failed

/-- Gives up because of what the script does. -/
def fail {α : Type} (message : String) : Rec α := do
  let file ← specialText "FILENAME"
  let fnr ← specialValue "FNR"
  let nr ← specialValue "NR"
  giveUp ("run time error: " ++ message ++ "\n\tFILENAME=\"" ++ file ++ "\" FNR="
    ++ toString (wholeOf fnr.toNumber) ++ " NR=" ++ toString (wholeOf nr.toNumber))

/-! ## Regular expressions -/

/-- The expression that a text is. -/
def regexOf (text : String) : Rec Regex := do
  match (← get).regexes[text]? with
  | some r => pure r
  | none =>
    match Expression.read text with
    | .ok r =>
      modify fun s => { s with regexes := s.regexes.insert text r }
      pure r
    | .error message => fail ("regular expression compile failed (" ++ message ++ ")\n" ++ text)

/-- The first match in a text from a place on. -/
def search (r : Regex) (t : Regex.Subject) (i : Nat) : Option Regex.Match :=
  r.search? t (fun _ _ => true) i

/-- The text that is searched. -/
def subject (text : String) : Regex.Subject := { chars := text.toList.toArray }

/-! ## Splitting -/

/-- What separates the parts of a text. -/
inductive Separator where
  | blanks
  | one (c : Char)
  | nothing
  | regex (r : Regex)
  deriving Inhabited

/-- The separator that a text stands for. -/
def separatorOf (text : String) : Rec Separator := do
  match text.toList with
  | [] => pure .nothing
  | [' '] => pure .blanks
  | [c] => pure (.one c)
  | _ => do
    let r ← regexOf text
    pure (.regex r)

/-- The parts between blanks; each takes a character, so `limit` may be their number. -/
def betweenBlanks : (limit : Nat) → List Char → List String
  | 0, _ => []
  | limit + 1, cs =>
    let isBlank (c : Char) : Bool := c == ' ' || c == '\t' || c == '\n'
    match cs.dropWhile isBlank with
    | [] => []
    | start =>
      let word := start.takeWhile (!isBlank ·)
      String.ofList word :: betweenBlanks limit (start.drop word.length)

/-- The parts between matches that are not empty; each round takes a character at least, so `limit` may
be their number. -/
def betweenMatches (r : Regex) (t : Regex.Subject) : (limit : Nat) → (start from_ : Nat) → List String
  | 0, _, _ => []
  | limit + 1, start, from_ =>
    match search r t from_ with
    | none => [String.ofList (t.slice start t.chars.size)]
    | some m =>
      if m.finish > m.start then
        String.ofList (t.slice start m.start) :: betweenMatches r t limit m.finish m.finish
      else if m.start ≥ t.chars.size then [String.ofList (t.slice start t.chars.size)]
      else betweenMatches r t limit start (m.start + 1)

/-- The parts of a text. -/
def parts (s : Separator) (lines : Bool) (text : String) : List String :=
  if text = "" then []
  else
    match s with
    | .blanks => betweenBlanks (text.length + 1) text.toList
    | .nothing => text.toList.map Char.toString
    | .one c =>
      if lines && c != '\n' then
        (text.splitOn "\n").flatMap fun l => l.splitOn c.toString
      else text.splitOn c.toString
    | .regex r =>
      let cut (t : String) : List String :=
        let sub := subject t
        betweenMatches r sub (sub.chars.size + 2) 0 0
      if lines then (text.splitOn "\n").flatMap cut else cut text

/-! ## The record -/

/-- Makes sure that the fields are those of the record. -/
def splitRecord : Rec Unit := do
  let s ← get
  if !s.isSplit then
    let fs ← specialText "FS"
    let separator ← separatorOf fs
    let text ← textOf s.record
    let lines := (← specialText "RS") == ""
    let fields := (parts separator lines text).map Value.input
    modify fun s => { s with fields := fields.toArray, isSplit := true }

/-- The whole record. -/
def wholeRecord : Rec Value := do
  let s ← get
  if s.isJoined then pure s.record
  else
    let ofs ← specialText "OFS"
    let texts ← s.fields.toList.mapM textOf
    let v := Value.input (ofs.intercalate texts)
    modify fun s => { s with record := v, isJoined := true }
    pure v

/-- Replaces the record. -/
def setRecord (v : Value) : Rec Unit :=
  modify fun s => { s with record := v, isSplit := false, isJoined := true }

/-- The number of fields. -/
def fieldCount : Rec Nat := do
  splitRecord
  pure (← get).fields.size

/-- The field with a number. -/
def field (n : Nat) : Rec Value := do
  if n = 0 then wholeRecord
  else
    splitRecord
    pure ((← get).fields[n - 1]?.getD .nothing)

/-- The fields, filled up or cut off to a number. -/
def resized (fields : Array Value) (n : Nat) : Array Value :=
  if n ≤ fields.size then fields.extract 0 n
  else fields ++ Array.replicate (n - fields.size) (.input "")

/-- Fields of a record at most. -/
def fieldLimit : Nat := 0x1000000

/-- Changes a field. -/
def setField (n : Nat) (v : Value) : Rec Unit := do
  if n = 0 then setRecord v
  else
    splitRecord
    if n > fieldLimit then fail "program limit exceeded: maximum number of fields"
    modify fun s => { s with
      fields := (resized s.fields (max n s.fields.size)).setIfInBounds (n - 1) v, isJoined := false }

/-- Changes the number of fields. -/
def setFieldCount (x : Float) : Rec Unit := do
  splitRecord
  if x < 0 then fail "negative value assigned to NF"
  let n := (wholeOf x).toNat
  if n > fieldLimit then fail "program limit exceeded: maximum number of fields"
  modify fun s => { s with fields := resized s.fields n, isJoined := false }

/-! ## Reading and assigning variables -/

/-- Is it the variable for the number of fields? -/
def isFieldCount (v : Ref) : Bool := v == .shared 0

/-- The value of a variable. -/
def variableValue (v : Ref) : Rec Value := do
  if isFieldCount v then
    let n ← fieldCount
    pure (.number (Float.ofNat n))
  else
    match ← slot v with
    | .value x => pure x
    | .table _ => fail "illegal reference to an array"
    | _ => pure .nothing

/-- Assigns to a variable.  A new separator is for the records to come, and has to be an expression. -/
def setVariable (v : Ref) (x : Value) : Rec Unit := do
  if isFieldCount v then setFieldCount x.toNumber
  else if v == .shared (special "FS") || v == .shared (special "RS") then
    splitRecord
    setSlot v (.value x)
    let text ← textOf x
    let _ ← separatorOf text
  else setSlot v (.value x)

/-- A new table. -/
def newTable (t : Table) : Rec Nat := do
  let s ← get
  set { s with tables := s.tables.push t }
  pure s.tables.size

/-- The number of the table that a variable holds. -/
def tableNumber (v : Ref) : Rec Nat := do
  match ← slot v with
  | .table n => pure n
  | .open_ n =>
    setSlot v (.table n)
    pure n
  | .nothing =>
    let n ← newTable .empty
    setSlot v (.table n)
    pure n
  | .value _ => fail "type error: a variable is used as an array"

/-- A table by its number. -/
def table (n : Nat) : Rec Table := do pure ((← get).tables[n]?.getD .empty)

/-- Changes a table. -/
def setTable (n : Nat) (t : Table) : Rec Unit :=
  modify fun s => { s with tables := s.tables.setIfInBounds n t }

/-- The key that a value is. -/
def keyOf (v : Value) : Rec Key := do
  match v with
  | .number x =>
    match whole? x with
    | some n => pure (.number n)
    | none => do
      let t ← textOf v
      pure (.text t)
  | v => do
    let t ← textOf v
    pure (.text t)

/-- Notes a record: its numbers in all of the input and in the file. -/
def count (name : String) : Rec Unit := do
  let v ← specialValue name
  setSpecial name (.number (v.toNumber + 1))

end Rec
end HardenAudit.Program.Records
