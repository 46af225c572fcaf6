import HardenAudit.FileSystem.Setup
import HardenAudit.Program.Display

/-!
# Who runs, and on what: `id`, `whoami`, `groups`, `logname`, `uname`, `arch`, `tty`, `sync`
-/

namespace HardenAudit.Program

open Kernel (Work)

/-- The number of the user, and of the group. -/
def userNumber : Nat := 1000

/-- The number of an account and of its group. -/
def account? (name : String) : Option (Nat × Nat) :=
  match FileSystem.accounts.find? fun a => a.1 == name with
  | some (_, number, group, _) => some (number, group)
  | none => none

/-- The name of an account by its number. -/
def accountName? (number : Nat) : Option String :=
  (FileSystem.accounts.find? fun a => a.2.1 == number).map (·.1)

/-- The name of a group by its number; the groups have the names of accounts, one apart. -/
def groupName? (number : Nat) : Option String :=
  if number = 65534 then some "nogroup" else accountName? number

/-- A number with the name behind it. -/
def withName (number : Nat) (name : Option String) : String :=
  toString number ++ (match name with
    | some n => "(" ++ n ++ ")"
    | none => "")

/-- Refuses operands. -/
def withoutOperands (c : Call) : Work Unit := do
  if let extra :: _ := c.rest then misuse c.name 1 ("extra operand " ++ quote extra)

/-- Shows who runs the program, or who somebody is. -/
def identity : Program := fun argv _ => do
  let c ← call (.make "agGnruzZ" [("group", 'g'), ("groups", 'G'), ("name", 'n'), ("real", 'r'),
    ("user", 'u'), ("zero", 'z')]) 1 argv
  let chosen := (c.options.filter fun o => "gGu".toList.contains o.1).map (·.1)
  if chosen.eraseDups.length > 1 then giveUp c.name 1 "cannot print \"only\" of more than one choice"
  if chosen.isEmpty && (c.has 'n' || c.has 'r') then
    giveUp c.name 1 "cannot print only names or real IDs in default format"
  let tell (number group : Nat) : Work Unit :=
    let one (n : Nat) (name : Option String) : String :=
      if c.has 'n' then name.getD (toString n) else toString n
    put c.name (ended (match chosen.head? with
      | some 'u' => one number (accountName? number)
      | some _ => one group (groupName? group)
      | none =>
        "uid=" ++ withName number (accountName? number) ++ " gid=" ++ withName group (groupName? group)
          ++ " groups=" ++ withName group (groupName? group)))
  if c.rest.isEmpty then
    tell userNumber userNumber
    pure 0
  else
    eachOf c.rest fun name => do
      match account? name with
      | some (number, group) =>
        tell number group
        pure 0
      | none =>
        report c.name (quote name ++ ": no such user")
        pure 1

/-- Shows the name of the user. -/
def whoami : Program := fun argv _ => do
  let c ← call (.make "" []) 1 argv
  withoutOperands c
  put c.name (ended ((accountName? userNumber).getD ""))
  pure 0

/-- Shows the groups of users. -/
def showGroups : Program := fun argv _ => do
  let c ← call (.make "" []) 1 argv
  if c.rest.isEmpty then
    put c.name (ended ((groupName? userNumber).getD ""))
    pure 0
  else
    eachOf c.rest fun name => do
      match account? name with
      | some (_, group) =>
        put c.name (ended (name ++ " : " ++ (groupName? group).getD (toString group)))
        pure 0
      | none =>
        report c.name (quote name ++ ": no such user")
        pure 1

/-- Nobody is logged in. -/
def logname : Program := fun argv _ => do
  let c ← call (.make "" []) 1 argv
  withoutOperands c
  giveUp c.name 1 "no login name"

/-- Shows the kind of the machine. -/
def arch : Program := fun argv _ => do
  let c ← call (.make "" []) 1 argv
  withoutOperands c
  put c.name "x86_64\n"
  pure 0

/-- Shows what the system is. -/
def uname : Program := fun argv _ => do
  let c ← call (.make "asnrvmpio" [("all", 'a'), ("kernel-name", 's'), ("nodename", 'n'),
    ("kernel-release", 'r'), ("kernel-version", 'v'), ("machine", 'm'), ("processor", 'p'),
    ("hardware-platform", 'i'), ("operating-system", 'o')]) 1 argv
  withoutOperands c
  let asked (letter : Char) : Bool := c.has letter || c.has 'a'
  let parts :=
    (if asked 's' || c.options.isEmpty then ["Linux"] else [])
      ++ (if asked 'm' then ["x86_64"] else [])
      ++ (if c.has 'p' then ["unknown"] else []) ++ (if c.has 'i' then ["unknown"] else [])
      ++ (if asked 'o' then ["GNU/Linux"] else [])
  put c.name (ended (" ".intercalate parts))
  pure 0

/-- The input is no terminal. -/
def tty : Program := fun argv _ => do
  let c ← call (.make "s" [("silent", 's'), ("quiet", 's')]) 2 argv
  if let extra :: _ := c.rest then misuse c.name 2 ("extra operand " ++ quote extra)
  if !c.has 's' then put c.name "not a tty\n"
  pure 1

/-- Everything is where it belongs as soon as it is written; only names are looked at. -/
def sync : Program := fun argv _ => do
  let c ← call (.make "df" [("data", 'd'), ("file-system", 'f')]) 1 argv
  eachOf c.rest fun path => do
    match ← Work.ask (.openFile path .input) with
    | .ok fd =>
      close fd
      pure 0
    | .error e =>
      report c.name ("error opening " ++ shellQuote path ++ ": " ++ e.text)
      pure 1

end HardenAudit.Program
