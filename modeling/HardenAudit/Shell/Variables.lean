import HardenAudit.Shell.Number
import HardenAudit.Shell.State

/-!
# Variables

Looking up, assigning and marking variables.  A variable that is made local keeps its old state in
the innermost scope, which is put back when the scope ends.
-/

namespace HardenAudit.Shell

open Kernel (Environment)

/-- The characters that separate fields unless `IFS` says otherwise. -/
def standardSeparators : String := " \t\n"

/-- The value of a variable. -/
def State.value? (s : State) (name : String) : Option String :=
  (s.vars.find? name).bind (·.value)

/-- The characters that separate fields. -/
def State.separators (s : State) : String := (s.value? "IFS").getD standardSeparators

/-- The state with a variable changed. -/
def State.setVariable (s : State) (name : String) (v : Variable) : State :=
  { s with vars := s.vars.insert name v }

/-- The state without a variable. -/
def State.removeVariable (s : State) (name : String) : State :=
  { s with vars := s.vars.filter (· != name) }

/-- The variables that programs are given. -/
def State.environment (s : State) : Environment :=
  s.vars.entries.filterMap fun e =>
    if e.2.exported then e.2.value.map (e.1, ·) else none

namespace Sh

/-- The number that a text is, or an error. -/
def number (text : String) : Sh Nat :=
  match plainNumber? text with
  | some n => pure n
  | none => fail ("Illegal number: " ++ text)

/-- What else happens when a variable gets a value. -/
def noticeValue (name value : String) : Sh Unit := do
  if name = "OPTIND" then
    let n ← number value
    modify fun s => { s with
      arguments := { s.arguments with place := { next := if n = 0 then 1 else n } } }

/-- Assigns to a variable, and may mark it. -/
def assign (name value : String) (exported : Bool) : Sh Unit := do
  if !isName name then fail (name ++ ": bad variable name")
  let old := ((← get).vars.find? name).getD {}
  if old.readOnly then fail (name ++ ": is read only")
  noticeValue name value
  let all ← hasOption 'a'
  modify fun s => s.setVariable name
    { old with value := some value, exported := old.exported || exported || all }

/-- Takes a variable away. -/
def unset (name : String) : Sh Unit := do
  if !isName name then fail (name ++ ": bad variable name")
  match (← get).vars.find? name with
  | none => pure ()
  | some v =>
    if v.readOnly then fail (name ++ ": is read only")
    modify fun s =>
      if s.scopes.any fun scope => scope.any (·.1 == name) then
        s.setVariable name { v with value := none }
      else s.removeVariable name

/-- The name and the value of an assignment; without a value there is none. -/
def splitAssignment (text : String) : String × Option String :=
  let name := text.toList.takeWhile (· != '=')
  match text.toList.drop name.length with
  | [] => (String.ofList name, none)
  | _ :: value => (String.ofList name, some (String.ofList value))

/-- Marks a variable. -/
def markVariable (name : String) (exported readOnly : Bool) : Sh Unit := do
  if !isName name then fail (name ++ ": bad variable name")
  let old := ((← get).vars.find? name).getD {}
  modify fun s => s.setVariable name
    { old with exported := old.exported || exported, readOnly := old.readOnly || readOnly }

/-- Notes in the innermost scope what something was before. -/
def noteBefore (name : String) (old : Option Variable) : Sh Unit := modify fun s =>
  match s.scopes with
  | scope :: rest => { s with scopes := ((name, old) :: scope) :: rest }
  | [] => s

/-- The name under which a scope keeps the options, which is not that of a variable. -/
def optionsName : String := "-"

/-- Makes the options local to the innermost scope. -/
def makeOptionsLocal : Sh Unit := do
  noteBefore optionsName (some { value := some (String.ofList (← get).options) })

/-- Makes a variable local to the innermost scope, perhaps with a value. -/
def makeLocal (text : String) (exported : Bool) : Sh Unit := do
  let (name, value) := splitAssignment text
  if !isName name then fail (name ++ ": bad variable name")
  let old := (← get).vars.find? name
  noteBefore name old
  match value with
  | some value => assign name value exported
  | none =>
    if old.isNone then modify fun s => s.setVariable name { exported := exported }

/-- Starts a scope. -/
def pushScope : Sh Unit := modify fun s => { s with scopes := [] :: s.scopes }

/-- Ends a scope: its variables are what they were before. -/
def popScope : Sh Unit := modify fun s =>
  match s.scopes with
  | scope :: rest =>
    scope.foldl (fun s e => match e with
      | (name, some v) =>
        if name = optionsName then { s with options := (v.value.getD "").toList }
        else s.setVariable name v
      | (name, none) => s.removeVariable name) { s with scopes := rest }
  | [] => s

end Sh

/-- A text in single quotes, with its own single quotes in double quotes; each round takes something
off the text, so `limit` may be its length. -/
def quoteFrom : (limit : Nat) → List Char → List Char
  | 0, _ => []
  | limit + 1, text =>
    let plain := text.takeWhile (· != '\x27')
    let after := text.drop plain.length
    let quotes := after.takeWhile (· == '\x27')
    let rest := after.drop quotes.length
    ['\x27'] ++ plain ++ ['\x27']
      ++ (if quotes.isEmpty then [] else ['"'] ++ quotes ++ ['"'])
      ++ (if rest.isEmpty then [] else quoteFrom limit rest)

/-- A text in quotes, so that it reads as itself. -/
def inQuotes (text : String) : String := String.ofList (quoteFrom (text.length + 1) text.toList)

end HardenAudit.Shell
