import HardenAudit.Shell.Options

/-!
# The current directory, and limits: `cd`, `pwd`, `umask`, `ulimit`, `times`
-/

namespace HardenAudit.Shell.Builtin

open Sh

/-! ## The current directory -/

/-- The parts of a path between slashes that are not empty. -/
def pathParts (path : List Char) : List (List Char) :=
  (Path.splitSlash path).filter (· != [])

/-- A path after steps down and up from a start. -/
def walkParts (start : List (List Char)) (parts : List (List Char)) : List (List Char) :=
  parts.foldl (fun done part =>
    if part = ['.'] then done
    else if part = ['.', '.'] then done.dropLast
    else done ++ [part]) start

/-- The directory that a path leads to from the current one, by its text alone. -/
def reached (directory path : String) : String :=
  let start := if path.startsWith "/" then [] else pathParts directory.toList
  let parts := walkParts start (pathParts path.toList)
  let lead := match path.toList with
    | '/' :: '/' :: c :: _ => if c == '/' then "/" else "//"
    | ['/', '/'] => "//"
    | _ => "/"
  lead ++ String.ofList (['/'].intercalate parts)

/-- The path of the current directory, which may have been removed. -/
def whereabouts : Sh String := do
  match ← ask .here with
  | .ok path => pure path
  | .error e =>
    warn ("getcwd() failed: " ++ e.text)
    pure ""

/-- Goes to a directory; says whether that worked. -/
def enter (path : String) (physical : Bool) : Sh Bool := do
  let old := (← get).directory
  let logical := reached old path
  match ← ask (.enter (if physical then path else logical)) with
  | .error _ => pure false
  | .ok _ =>
    let new ← if physical then whereabouts else pure logical
    assign "OLDPWD" old true
    modify fun s => { s with directory := new }
    assign "PWD" new true
    pure true

/-- Does a path say by itself from where it starts? -/
def isAnchored (path : String) : Bool :=
  match path.toList with
  | '/' :: _ => true
  | ['.'] | '.' :: '/' :: _ | ['.', '.'] | '.' :: '.' :: '/' :: _ => true
  | _ => false

/-- Changes the current directory. -/
def cd (args : List String) : Sh Nat := do
  let g ← given "LP" args
  let physical := (g.options.getLast?.map (·.1)) == some 'P'
  let s ← get
  let (target, shown) := match g.rest with
    | [] => ((s.value? "HOME").getD "", false)
    | "-" :: _ => ((s.value? "OLDPWD").getD "", true)
    | path :: _ => (path, false)
  let show_ (shown : Bool) : Sh Nat := do
    if shown then print ((← get).directory ++ "\n")
    pure 0
  let go (path : String) (shown : Bool) : Sh Nat := do
    if ← enter path physical then show_ shown else fail ("can\x27t cd to " ++ target)
  if isAnchored target then go target shown
  else
    let path := if target = "" then "." else target
    let prefixes := match s.value? "CDPATH" with
      | some text => text.splitOn ":"
      | none => []
    let rec search : List String → Sh Nat
      | [] => go path shown
      | p :: rest => do
        let candidate := if p = "" then path else p ++ "/" ++ path
        match ← ask (.inspect candidate) with
        | .ok status =>
          if status.kind == .directory then go candidate (shown || p != "") else search rest
        | .error _ => search rest
    search prefixes

/-- Shows the current directory. -/
def pwd (args : List String) : Sh Nat := do
  let g ← given "LP" args
  let physical := (g.options.getLast?.map (·.1)) == some 'P'
  let path ← if physical then whereabouts else pure (← get).directory
  print (path ++ "\n")
  pure 0

/-! ## The mask -/

/-- The permissions of one class of users that a mask leaves. -/
def permissions (mask shift : Nat) : String :=
  let bits := 7 - (mask / shift) % 8
  String.join [if bits / 4 % 2 = 1 then "r" else "", if bits / 2 % 2 = 1 then "w" else "",
    if bits % 2 = 1 then "x" else ""]

/-- The bits of permission letters. -/
def permissionBits? (cs : List Char) : Option Nat :=
  (cs.mapM fun (c : Char) => (match c with
    | 'r' => some 4
    | 'w' => some 2
    | 'x' => some 1
    | 'X' | 's' | 't' => some 0
    | _ => none : Option Nat)).map fun bits => bits.foldl (fun n b => n ||| b) 0

/-- Permissions after one clause such as `g+w`. -/
def clause? (allowed : Nat) (text : String) : Option Nat := do
  let cs := text.toList
  let who := cs.takeWhile ("ugoa".toList.contains ·)
  let shifts := (if who.isEmpty || who.contains 'a' then ['u', 'g', 'o'] else who).map fun c =>
    if c == 'u' then 64 else if c == 'g' then 8 else 1
  match cs.drop who.length with
  | op :: rest =>
    let bits ← permissionBits? rest
    if op == '=' || op == '+' || op == '-' then
      some (shifts.foldl (fun n shift =>
        let old := (n / shift) % 8
        let new := if op == '=' then bits else if op == '+' then old ||| bits else old &&& (7 - bits)
        n - old * shift + new * shift) allowed)
    else none
  | [] => none

/-- Permissions after clauses between commas. -/
def clauses? (allowed : Nat) (text : String) : Option Nat :=
  (text.splitOn ",").foldlM clause? allowed

/-- Shows or sets the mask of permissions. -/
def umask (args : List String) : Sh Nat := do
  let g ← given "S" args
  let mask ← ask (.mask none)
  match g.rest with
  | [] =>
    if g.options.isEmpty then
      let ds := Nat.toDigits 8 mask
      print (String.ofList (List.replicate (4 - ds.length) '0' ++ ds) ++ "\n")
    else
      print ("u=" ++ permissions mask 64 ++ ",g=" ++ permissions mask 8 ++ ",o="
        ++ permissions mask 1 ++ "\n")
    pure 0
  | text :: _ =>
    if (text.toList.head?.map Char.isDigit).getD false then
      if !text.toList.all fun c => (digitValue? 8 c).isSome then fail ("Illegal number: " ++ text)
      let _ ← ask (.mask (some ((digits 8 text.toList 0 0).1 % 512)))
      pure 0
    else
      match clauses? (511 - mask % 512) text with
      | some allowed =>
        let _ ← ask (.mask (some (511 - allowed)))
        pure 0
      | none => fail ("Illegal mode: " ++ text)

/-! ## Limits and times -/

/-- The limits by letter, with their names and units. -/
def limits : List (Char × String × Nat) :=
  [('t', "time(seconds)", 1), ('f', "file(blocks)", 512), ('d', "data(kbytes)", 1024),
   ('s', "stack(kbytes)", 1024), ('c', "coredump(blocks)", 512), ('m', "memory(kbytes)", 1024),
   ('l', "locked memory(kbytes)", 1024), ('p', "process", 1), ('n', "nofiles", 1),
   ('v', "vmemory(kbytes)", 1024), ('w', "locks", 1), ('r', "rtprio", 1)]

/-- A limit as it is shown. -/
def limitText (highest : Bool) (unit : Nat) (l : Kernel.Limit) : String :=
  match if highest then l.highest else l.current with
  | none => "unlimited"
  | some n => toString (n / unit)

/-- Shows or sets limits. -/
def ulimit (args : List String) : Sh Nat := do
  let g ← given "HSatfdscmlpnvwr" args
  let letters := g.options.map (·.1)
  let letter := ((letters.filter fun c => !"HSa".toList.contains c).getLast?).getD 'f'
  let side := (letters.filter fun c => c == 'H' || c == 'S').getLast?
  let known ← ask .limits
  let limit (c : Char) : Kernel.Limit := (known.find? (·.resource == c)).getD ⟨c, none, none⟩
  let unit := ((limits.lookup letter).map (·.2)).getD 1
  match g.rest with
  | [] =>
    if letters.contains 'a' then
      for (c, name, unit) in limits do
        let gap := String.ofList (List.replicate (20 - name.length) ' ')
        print (name ++ gap ++ " " ++ limitText (side == some 'H') unit (limit c) ++ "\n")
    else print (limitText (side == some 'H') unit (limit letter) ++ "\n")
    pure 0
  | text :: more =>
    if letters.contains 'a' || !more.isEmpty then fail "too many arguments"
    if text != "unlimited" && !text.toList.all Char.isDigit then fail "bad number"
    let value := if text = "unlimited" then none else some ((digits 10 text.toList 0 0).1 * unit)
    let old := limit letter
    let new : Kernel.Limit :=
      { old with
        current := if side == some 'H' then old.current else value
        highest := if side == some 'S' then old.highest else value }
    match ← ask (.setLimit new) with
    | .ok _ => pure 0
    | .error e => fail ("error setting limit: " ++ e.text)

/-- Shows the time that was used up. -/
def times (_ : List String) : Sh Nat := do
  print "0m0.000000s 0m0.000000s\n0m0.000000s 0m0.000000s\n"
  pure 0

end HardenAudit.Shell.Builtin
