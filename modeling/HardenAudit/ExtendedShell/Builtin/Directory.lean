import HardenAudit.ExtendedShell.Builtin.Options
import HardenAudit.Shell.Builtin.Directory

/-!
# The current directory, and limits: `cd`, `pwd`, `pushd`, `popd`, `dirs`, `umask`, `ulimit`, `times`
-/

namespace HardenAudit.ExtendedShell.Builtin

open Sh

/-! ## The current directory -/

/-- The path of the current directory by the files themselves. -/
def physical : Sh String := do
  match ← ask .here with
  | .ok path => pure path
  | .error _ => pure ""

/-- Goes to a directory; gives the reason if that fails. -/
def enter (path : String) (direct : Bool) : Sh (Option Kernel.Refusal) := do
  let old := (← get).directory
  let logical := Shell.Builtin.reached old path
  let settle (new : String) : Sh (Option Kernel.Refusal) := do
    let _ ← storeAt "OLDPWD" .whole old
    let _ ← storeAt "PWD" .whole new
    modify fun s => { s with directory := new }
    pure none
  let plainly : Sh (Option Kernel.Refusal) := do
    match ← ask (.enter path) with
    | .ok _ =>
      let new ← physical
      settle new
    | .error e => pure (some e)
  if direct then plainly
  else
    match ← ask (.enter logical) with
    | .ok _ => settle logical
    | .error e =>
      -- the text of the path may lead elsewhere than its files
      match ← plainly with
      | none => pure none
      | some _ => pure (some e)

/-- Changes the current directory. -/
def cd (args : List String) : Sh Nat :=
  withOptions "LPe@" args fun g => do
    let choice := ((g.options.map (·.1)).filter fun c => c == 'L' || c == 'P').getLast?
    let direct := choice == some 'P' || (choice.isNone && (← hasOption "physical"))
    let go (path : String) (shown : Bool) (target : String) : Sh Nat := do
      match ← enter path direct with
      | none =>
        if shown then print ((← get).directory ++ "\n")
        pure 0
      | some e =>
        warn (target ++ ": " ++ e.text)
        pure 1
    match g.rest with
    | _ :: _ :: _ =>
      warn "too many arguments"
      pure 1
    | [] =>
      match ← lookup "HOME" with
      | some home => if home == "" then pure 0 else go home false home
      | none =>
        warn "HOME not set"
        pure 1
    | ["-"] =>
      match ← lookup "OLDPWD" with
      | some old => go old true old
      | none =>
        warn "OLDPWD not set"
        pure 1
    | [path] =>
      if path == "" then return 0
      let further := (← lookup "CDPATH").getD ""
      let starts := if Shell.Builtin.isAnchored path || further == "" then [] else further.splitOn ":"
      let rec search : List String → Sh Nat
        | [] => go path false path
        | p :: rest => do
          let candidate := if p == "" then path else if p.endsWith "/" then p ++ path else p ++ "/" ++ path
          match ← ask (.inspect candidate) with
          | .ok status =>
            if status.kind == .directory then go candidate (p != "" && p != ".") candidate else search rest
          | .error _ => search rest
      search starts

/-- Shows the current directory. -/
def pwd (args : List String) : Sh Nat :=
  withOptions "LP" args fun g => do
    let choice := (g.options.map (·.1)).getLast?
    let direct := choice == some 'P' || (choice.isNone && (← hasOption "physical"))
    let path ← if direct then physical else pure (← get).directory
    print (path ++ "\n")
    pure 0

/-! ## The stack of directories -/

/-- A directory as it is shown: the home is a tilde. -/
def shownDirectory (home : Option String) (long : Bool) (path : String) : String :=
  match home with
  | some h =>
    if long || h == "" || h == "/" then path
    else if path == h then "~"
    else if path.startsWith (h ++ "/") then "~" ++ String.ofList (path.toList.drop h.length)
    else path
  | none => path

/-- Shows the stack in a row. -/
def showStack : Sh Unit := do
  let s ← get
  let home ← lookup "HOME"
  print (" ".intercalate ((s.directory :: s.stack).map (shownDirectory home false)) ++ "\n")

/-- The place in a row of so many that a text such as `+2` or `-1` stands for. -/
def stackPlace? (size : Nat) (text : String) : Option (Option Nat) :=
  match text.toList with
  | sign :: c :: cs =>
    if (sign == '+' || sign == '-') && (c :: cs).all Char.isDigit then
      let n := (Shell.digits 10 (c :: cs) 0 0).1
      if n ≥ size then some none
      else some (some (if sign == '+' then n else size - 1 - n))
    else none
  | _ => none

/-- What is wrong with a place in the stack. -/
def badPlace (text : String) : Sh Nat := do
  if (← get).stack.isEmpty then warn "directory stack empty"
  else warn (text ++ ": directory stack index out of range")
  pure 1

/-- Shows the stack. -/
def dirs (args : List String) : Sh Nat := do
  let flags := args.takeWhile fun a =>
    a.startsWith "-" && a.length > 1 && (a.toList.drop 1).all ("clpv".toList.contains ·)
  let letters := String.toList (String.join (flags.map fun f => String.ofList (f.toList.drop 1)))
  let s ← get
  let all := s.directory :: s.stack
  let home ← lookup "HOME"
  let shown := shownDirectory home (letters.contains 'l')
  match args.drop flags.length with
  | text :: _ =>
    match stackPlace? all.length text with
    | some (some i) =>
      print (shown (all.getD i "") ++ "\n")
      pure 0
    | some none => badPlace text
    | none =>
      warn (text ++ (if text.startsWith "-" then ": invalid number" else ": invalid option"))
      showUsage
      pure 2
  | [] =>
    if letters.contains 'c' then
      modify fun s => { s with stack := [] }
    else if letters.contains 'v' then
      for (path, i) in all.zipIdx do
        let number := toString i
        print (String.ofList (List.replicate (2 - number.length) ' ') ++ number ++ "  " ++ shown path ++ "\n")
    else if letters.contains 'p' then
      for path in all do
        print (shown path ++ "\n")
    else print (" ".intercalate (all.map shown) ++ "\n")
    pure 0

/-- Goes to a directory for a command of the stack. -/
def enterFor (path : String) : Sh Bool := do
  match ← enter path false with
  | none => pure true
  | some e =>
    warn (path ++ ": " ++ e.text)
    pure false

/-- Puts a directory on the stack and goes there. -/
def pushd (args : List String) : Sh Nat := do
  let stays := args.head? == some "-n"
  let args := if stays then args.drop 1 else args
  let args := if args.head? == some "--" then args.drop 1 else args
  let s ← get
  let all := s.directory :: s.stack
  let finish : Sh Nat := do
    showStack
    pure 0
  match args with
  | [] =>
    match s.stack with
    | [] =>
      warn "no other directory"
      pure 1
    | top :: rest =>
      if stays then finish
      else if ← enterFor top then
        modify fun t => { t with stack := s.directory :: rest }
        finish
      else pure 1
  | text :: _ =>
    match stackPlace? all.length text with
    | some none => badPlace text
    | some (some i) =>
      let turned := all.drop i ++ all.take i
      if stays then
        modify fun t => { t with stack := turned.drop 1 }
        finish
      else if ← enterFor (turned.head?.getD "") then
        modify fun t => { t with stack := turned.drop 1 }
        finish
      else pure 1
    | none =>
      if stays then
        modify fun t => { t with stack := text :: s.stack }
        finish
      else if text.startsWith "-" && text != "-" then
        warn (text ++ ": invalid number")
        showUsage
        pure 2
      else
        let target ← if text == "-" then do
            let old ← lookup "OLDPWD"
            pure (old.getD "")
          else pure text
        if ← enterFor target then
          modify fun t => { t with stack := s.directory :: s.stack }
          finish
        else pure 1

/-- Takes a directory off the stack. -/
def popd (args : List String) : Sh Nat := do
  let stays := args.head? == some "-n"
  let args := if stays then args.drop 1 else args
  let s ← get
  let all := s.directory :: s.stack
  let finish : Sh Nat := do
    showStack
    pure 0
  match s.stack with
  | [] =>
    warn "directory stack empty"
    pure 1
  | top :: rest =>
    let place := match args with
      | [] => some (some (if stays then 1 else 0))
      | text :: _ => stackPlace? all.length text
    match place with
    | none =>
      warn ((args.head?.getD "") ++ ": invalid argument")
      showUsage
      pure 2
    | some none =>
      warn ((args.head?.getD "") ++ ": directory stack index out of range")
      pure 1
    | some (some 0) =>
      if ← enterFor top then
        modify fun t => { t with stack := rest }
        finish
      else pure 1
    | some (some i) =>
      modify fun t => { t with stack := s.stack.eraseIdx (i - 1) }
      finish

/-! ## The mask -/

/-- Why a symbolic mode is wrong: the character, and what it should have been. -/
abbrev ModeTrouble := Char × String

/-- Permissions after one clause such as `g+w`. -/
def clause (allowed : Nat) (text : String) : Except ModeTrouble Nat := do
  let cs := text.toList
  let who := cs.takeWhile ("ugoa".toList.contains ·)
  let shifts := (if who.isEmpty || who.contains 'a' then ['u', 'g', 'o'] else who).map fun c =>
    if c == 'u' then 64 else if c == 'g' then 8 else 1
  match cs.drop who.length with
  | op :: rest =>
    if op != '=' && op != '+' && op != '-' then throw (op, "operator")
    let letters := rest.takeWhile fun c => "rwxXst".toList.contains c
    match rest.drop letters.length with
    | c :: _ => throw (c, "character")
    | [] =>
      let bits := (Shell.Builtin.permissionBits? letters).getD 0
      pure (shifts.foldl (fun n shift =>
        let old := (n / shift) % 8
        let new := if op == '=' then bits else if op == '+' then old ||| bits else old &&& (7 - bits)
        n - old * shift + new * shift) allowed)
  | [] => throw (Char.ofNat 0, "operator")

/-- Shows or sets the mask of permissions. -/
def umask (args : List String) : Sh Nat :=
  withOptions "Sp" args fun g => do
    let symbolic (mask : Nat) : String :=
      "u=" ++ Shell.Builtin.permissions mask 64 ++ ",g=" ++ Shell.Builtin.permissions mask 8 ++ ",o="
        ++ Shell.Builtin.permissions mask 1
    let mask ← ask (.mask none)
    match g.rest with
    | [] =>
      let ds := Nat.toDigits 8 mask
      let octal := String.ofList (List.replicate (4 - ds.length) '0' ++ ds)
      let text := if g.has 'S' then symbolic mask else octal
      let start := if g.has 'p' then (if g.has 'S' then "umask -S " else "umask ") else ""
      print (start ++ text ++ "\n")
      pure 0
    | text :: _ =>
      if (text.toList.head?.map Char.isDigit).getD false then
        let value := (Shell.digits 8 text.toList 0 0).1
        if !text.toList.all fun c => (Shell.digitValue? 8 c).isSome then
          warn (text ++ ": octal number out of range")
          pure 1
        else if value > 0o777 then
          warn (text ++ ": octal number out of range")
          pure 1
        else
          let _ ← ask (.mask (some value))
          pure 0
      else
        match (text.splitOn ",").foldlM clause (511 - mask % 512) with
        | .ok allowed =>
          let _ ← ask (.mask (some (511 - allowed)))
          if g.has 'S' then print (symbolic (511 - allowed) ++ "\n")
          pure 0
        | .error (c, what) =>
          warn ("\x60" ++ c.toString ++ "\x27: invalid symbolic mode " ++ what)
          pure 1

/-! ## Limits and times -/

/-- A limit as it is listed: its letter, its name, its unit's name, and how large the unit is. -/
structure LimitKind where
  letter : Char
  name : String
  unitName : String
  unit : Nat
  deriving Inhabited

/-- The limits in the order of their list. -/
def limitKinds : List LimitKind :=
  [⟨'R', "real-time non-blocking time", "microseconds", 1⟩, ⟨'c', "core file size", "blocks", 512⟩,
   ⟨'d', "data seg size", "kbytes", 1024⟩, ⟨'e', "scheduling priority", "", 1⟩,
   ⟨'f', "file size", "blocks", 512⟩, ⟨'i', "pending signals", "", 1⟩,
   ⟨'l', "max locked memory", "kbytes", 1024⟩, ⟨'m', "max memory size", "kbytes", 1024⟩,
   ⟨'n', "open files", "", 1⟩, ⟨'p', "pipe size", "512 bytes", 1⟩,
   ⟨'q', "POSIX message queues", "bytes", 1⟩, ⟨'r', "real-time priority", "", 1⟩,
   ⟨'s', "stack size", "kbytes", 1024⟩, ⟨'t', "cpu time", "seconds", 1⟩,
   ⟨'u', "max user processes", "", 1⟩, ⟨'v', "virtual memory", "kbytes", 1024⟩,
   ⟨'x', "file locks", "", 1⟩]

/-- The letter under which the system knows a limit. -/
def limitLetter : Char → Char
  | 'u' => 'p'
  | 'x' => 'w'
  | c => c

/-- Shows or sets limits. -/
def ulimit (args : List String) : Sh Nat :=
  withOptions "SHabcdefiklmnpqrstuvxPRT" args fun g => do
    let letters := g.options.map (·.1)
    let chosen := letters.filter fun c => !"HSa".toList.contains c
    let hard := letters.contains 'H'
    let soft := letters.contains 'S'
    let known ← ask .limits
    let limit (c : Char) : Kernel.Limit :=
      if c == 'p' then ⟨'p', some 8, some 8⟩
      else if c == 'e' then ⟨'e', some 0, some 0⟩
      else if c == 'q' then ⟨'q', some 819200, some 819200⟩
      else (known.find? (·.resource == limitLetter c)).getD ⟨c, none, none⟩
    let shown (k : LimitKind) : String :=
      match if hard && !soft then (limit k.letter).highest else (limit k.letter).current with
      | none => "unlimited"
      | some n => toString (n / k.unit)
    let line (k : LimitKind) : String :=
      let right := "(" ++ (if k.unitName == "" then "" else k.unitName ++ ", ") ++ "-" ++ k.letter.toString ++ ")"
      k.name ++ String.ofList (List.replicate (max (if k.unitName == "" then 1 else 2) (40 - k.name.length - right.length)) ' ') ++ right ++ " "
        ++ shown k ++ "\n"
    if letters.contains 'a' then
      for k in limitKinds do
        print (line k)
      return 0
    match g.rest with
    | [] =>
      let kinds := limitKinds.filter fun k => (if chosen.isEmpty then ['f'] else chosen).contains k.letter
      for k in kinds do
        print (if chosen.length > 1 then line k else shown k ++ "\n")
      return 0
    | text :: _ =>
      let letter := (chosen.getLast?).getD 'f'
      let kind := (limitKinds.find? (·.letter == letter)).getD default
      let old := limit letter
      let value : Option (Option Nat) := match text with
        | "unlimited" => some none
        | "hard" => some old.highest
        | "soft" => some old.current
        | _ => if text != "" && text.toList.all Char.isDigit
          then some (some ((Shell.digits 10 text.toList 0 0).1 * kind.unit)) else none
      match value with
      | none =>
        warn (text ++ ": invalid number")
        return 1
      | some value =>
        let both := !hard && !soft
        let new : Kernel.Limit :=
          { old with
            resource := limitLetter letter
            current := if soft || both then value else old.current
            highest := if hard || both then value else old.highest }
        match ← ask (.setLimit new) with
        | .ok _ => return 0
        | .error e =>
          warn (kind.name ++ ": cannot modify limit: " ++ e.text)
          return 1

/-- Shows the time that was used up. -/
def times (_ : List String) : Sh Nat := do
  print "0m0.000s 0m0.000s\n0m0.000s 0m0.000s\n"
  pure 0

end HardenAudit.ExtendedShell.Builtin
