import HardenAudit.Shell.Fields
import HardenAudit.Shell.Options

/-!
# Commands that change variables and arguments
-/

namespace HardenAudit.Shell.Builtin

open Sh

/-- Shows the variables that pass a test, with a word before each. -/
def showVariables (word : String) (test : Variable → Bool) : Sh Unit := do
  for (name, v) in (← get).vars.entries do
    if test v then
      let value := match v.value with
        | some text => "=" ++ inQuotes text
        | none => ""
      print ((if word = "" then "" else word ++ " ") ++ name ++ value ++ "\n")

/-- Marks variables, perhaps with new values, or shows the ones that are marked. -/
def mark (word : String) (exported readOnly : Bool) (args : List String) : Sh Nat := do
  let g ← given "p" args
  if g.options.isEmpty && !g.rest.isEmpty then
    for arg in g.rest do
      let (name, value) := splitAssignment arg
      if let some text := value then assign name text exported
      markVariable name exported readOnly
  else
    showVariables word (fun v => (exported && v.exported) || (readOnly && v.readOnly))
  pure 0

/-- Makes variables local to the function. -/
def makeLocals (args : List String) : Sh Nat := do
  if (← get).scopes.isEmpty then fail "not in a function"
  for arg in args do
    if arg = optionsName then makeOptionsLocal else makeLocal arg false
  pure 0

/-- Takes variables or functions away. -/
def unsetAll (args : List String) : Sh Nat := do
  let g ← given "vf" args
  for name in g.rest do
    if (g.options.getLast?.map (·.1)) == some 'f' then
      modify fun s => { s with functions := s.functions.filter (·.1 != name) }
    else unset name
  pure 0

/-- Drops arguments. -/
def shift (args : List String) : Sh Nat := do
  let n ← match args with
    | [] => pure 1
    | text :: _ => number text
  let words := (← get).arguments.words
  if n > words.length then fail "can\x27t shift that many"
  setArguments (words.drop n)
  pure 0

/-- Sets options and gives what follows them; each round takes an argument, so `limit` may be their
number.  Two dashes with nothing behind them drop all arguments. -/
def setOptions : (limit : Nat) → List String → Sh (List String)
  | 0, args => pure args
  | _, [] => pure []
  | limit + 1, arg :: rest => do
    match arg.toList with
    | ['-'] =>
      setOption 'x' false
      setOption 'v' false
      pure rest
    | ['-', '-'] =>
      if rest.isEmpty then setArguments []
      pure rest
    | '-' :: cs =>
      let rest ← setLetters true cs rest
      setOptions limit rest
    | '+' :: cs =>
      let rest ← setLetters false cs rest
      setOptions limit rest
    | _ => pure (arg :: rest)

/-- Shows all variables, or sets options and arguments. -/
def setAll (args : List String) : Sh Nat := do
  if args.isEmpty then
    showVariables "" (·.value.isSome)
  else
    let rest ← setOptions args.length args
    checkMonitor
    if !rest.isEmpty then setArguments rest
  pure 0

/-! ## Reading a line -/

/-- A line under way: its cells, in reverse, and whether a backslash was read. -/
structure LineSoFar where
  cells : List Cell := [.start false]
  escaped : Bool := false

/-- Reads a line from the input; gives its cells, and whether the input has ended. -/
def readCells (raw : Bool) : Sh (List Cell × Bool) :=
  iterate (fun (l : LineSoFar) => do
    match ← ask (.read 0 1) with
    | .ok [b] =>
      let c := Char.ofNat b.toNat
      if c.toNat == 0 then pure (.inl l)
      else if l.escaped then
        let cells : List Cell :=
          if c == '\n' then [.start false] else [.start false, .char c true false]
        pure (.inl { cells := cells ++ l.cells })
      else if !raw && c == '\\' then pure (.inl { l with escaped := true })
      else if c == '\n' then pure (.inr (l.cells.reverse, false))
      else pure (.inl { l with cells := .char c false true :: l.cells })
    | _ => pure (.inr (l.cells.reverse, true))) Kernel.endless {}

/-- Reads a line into variables: a field each, and the rest of the line for the last one. -/
def readLine (args : List String) : Sh Nat := do
  let g ← given "p:r" args
  if g.rest.isEmpty then fail "arg count"
  let (cells, ended) ← readCells (g.options.any (·.1 == 'r'))
  let fields := splitFields (← get).separators (some g.rest.length) cells
  for (i, name) in (List.range g.rest.length).zip g.rest do
    assign name (Cell.text (fields.getD i [])) false
  pure (if ended then 1 else 0)

/-! ## Options of scripts -/

/-- An argument with an option: the option, the letters behind it, and the number of the argument
that comes next; none at the end of the options. -/
def optionAt (words : List String) (p : OptionPlace) : Option (Char × List Char) × Nat :=
  let current : List Char := match p.letter with
    | some k => if p.next ≤ 1 then [] else ((words.getD (p.next - 2) "").toList).drop k
    | none => []
  match current with
  | c :: cs => (some (c, cs), p.next)
  | [] =>
    match (words.getD (p.next - 1) "").toList with
    | ['-', '-'] => (none, p.next + 1)
    | '-' :: c :: cs => (some (c, cs), p.next + 1)
    | _ => (none, p.next)

/-- Takes the next option off the arguments. -/
def getopts (args : List String) : Sh Nat := do
  match args with
  | letters :: name :: more =>
    let s ← get
    let words := if more.isEmpty then s.arguments.words else more
    let p := s.arguments.place
    let p : OptionPlace := if p.next > words.length + 1 then {} else p
    let quiet := letters.startsWith ":"
    let finish (c : Char) (next : Nat) (letter : Option Nat) (status : Nat) : Sh Nat := do
      assign "OPTIND" (toString next) false
      assign name c.toString false
      modify fun s => { s with arguments := { s.arguments with place := ⟨next, letter⟩ } }
      pure status
    let (found, next) := optionAt words p
    match found with
    | none => finish '?' next none 1
    | some (c, cs) =>
      let letter : Option Nat := some ((words.getD (next - 2) "").length - cs.length)
      match takesValue? c letters.toList with
      | none =>
        if quiet then assign "OPTARG" c.toString false
        else
          printError ("Illegal option -" ++ c.toString ++ "\n")
          unset "OPTARG"
        finish '?' next letter 0
      | some false =>
        assign "OPTARG" "" false
        finish c next letter 0
      | some true =>
        if !cs.isEmpty then
          assign "OPTARG" (String.ofList cs) false
          finish c next none 0
        else
          match words[next - 1]? with
          | some value =>
            assign "OPTARG" value false
            finish c (next + 1) none 0
          | none =>
            if quiet then
              assign "OPTARG" c.toString false
              finish ':' next letter 0
            else
              printError ("No arg for -" ++ c.toString ++ " option\n")
              unset "OPTARG"
              finish '?' next letter 0
  | _ => fail "Usage: getopts optstring var [arg...]"

/-! ## Aliases -/

/-- An alias as it is shown. -/
def shownAlias (a : String × String) : String := a.1 ++ "=" ++ inQuotes a.2

/-- The drawer of an alias: aliases are shown drawer by drawer. -/
def drawer (name : String) : Nat :=
  match name.toList with
  | [] => 0
  | c :: cs => ((c :: cs).foldl (fun n c => n + c.toNat) (c.toNat * 16)) % 39

/-- Aliases with one set: it takes the place of the one with its name, or stands last. -/
def putAlias (entry : String × String) (all : List (String × String)) : List (String × String) :=
  if all.any (·.1 == entry.1) then all.map fun a => if a.1 == entry.1 then entry else a
  else all ++ [entry]

/-- Sets and shows aliases. -/
def setAliases (args : List String) : Sh Nat := do
  if args.isEmpty then
    let all := (← get).aliases.mergeSort fun a b => drawer a.1 ≤ drawer b.1
    for a in all do
      print (shownAlias a ++ "\n")
    pure 0
  else
    let mut status := 0
    for arg in args do
      let start := arg.toList.take 1
      let name := start ++ (arg.toList.drop 1).takeWhile (· != '=')
      match arg.toList.drop name.length with
      | _ :: value =>
        modify fun s => { s with aliases := putAlias (String.ofList name, String.ofList value) s.aliases }
      | [] =>
        match (← get).aliases.lookup arg with
        | some value => print (shownAlias (arg, value) ++ "\n")
        | none =>
          printError ("alias: " ++ arg ++ " not found\n")
          status := 1
    pure status

/-- Takes aliases away. -/
def dropAliases (args : List String) : Sh Nat := do
  let g ← given "a" args
  if !g.options.isEmpty then
    modify fun s => { s with aliases := [] }
    pure 0
  else
    let mut status := 0
    for name in g.rest do
      let known := (← get).aliases.any (·.1 == name)
      if known then
        modify fun s => { s with aliases := s.aliases.filter (·.1 != name) }
      else
        printError ("unalias: " ++ name ++ " not found\n")
        status := 1
    pure status

end HardenAudit.Shell.Builtin
