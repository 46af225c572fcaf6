import HardenAudit.ExtendedShell.Builtin.Declare

/-!
# Commands that change variables, arguments and options
-/

namespace HardenAudit.ExtendedShell.Builtin

open Sh

/-! ## Taking away -/

/-- Takes an element away; says whether that worked. -/
def unsetElement (name sub : String) : Sh Bool := do
  match (← get).known? name with
  | none => pure true
  | some v =>
    let put (value : Value) : Sh Bool := do
      modify fun s => s.putVariable name { v with value := value }
      pure true
    if v.readOnly then
      warn (name ++ ": cannot unset: readonly variable")
      pure false
    else
      match v.value with
      | .table t =>
        if (sub == "@" || sub == "*") && (t.get? sub).isNone then put (.table {})
        else put (.table (t.erase sub))
      | .list s =>
        if sub == "@" || sub == "*" then put (.list {})
        else
          match ← keyOf? name sub 1 with
          | some (.number n) => put (.list (s.erase n))
          | _ =>
            warn ("[" ++ sub ++ "]: bad array subscript")
            pure false
      | .text _ =>
        let n ← calculate sub
        if n == 0 then
          modify fun s => s.removeVariable name
          pure true
        else
          warn (name ++ ": not an array variable")
          pure false

/-- Takes a variable away; says whether that worked. -/
def unsetVariable (name : String) : Sh Bool := do
  if ((← get).known? name).any (·.readOnly) then
    warn (name ++ ": cannot unset: readonly variable")
    pure false
  else
    modify fun s => s.removeVariable name
    if name == "OPTIND" then modify fun s => { s with optionPlace := {} }
    pure true

/-- Takes variables or functions away. -/
def unset (args : List String) : Sh Nat :=
  withOptions "fnv" args fun g => do
    if g.has 'f' && g.has 'v' then
      warn "cannot simultaneously unset a function and a variable"
      return 1
    let mut status := 0
    for text in g.rest do
      let isFunction := ((← get).functions.find? text).isSome
      let dropFunction : Sh Unit := modify fun s =>
        { s with functions := s.functions.filter (· != text) }
      if g.has 'f' then dropFunction
      else
        let (plain, sub) := splitSubscript text
        if sub.isSome && Shell.isName plain then
          let name ← follow plain
          if !(← unsetElement name (sub.getD "")) then status := 1
        else if !Shell.isName text then
          if isFunction && !g.has 'v' then dropFunction
          else if g.has 'v' then
            let _ ← badName text
            status := 1
        else
          let name ← if g.has 'n' then pure text else follow text
          let (name, sub) := splitSubscript name
          if ((← get).known? name).isNone && isFunction && !g.has 'v' then dropFunction
          else
            let worked ← match sub with
              | some k => unsetElement name k
              | none => unsetVariable name
            if !worked then status := 1
    pure status

/-! ## Numbers and arguments -/

/-- Calculates expressions; the status says whether the last one is zero. -/
def calculateAll : List String → (last : Int) → Sh Nat
  | [], last => pure (if last = 0 then 1 else 0)
  | text :: rest, _ => do
    match ← calculate? text with
    | .ok n => calculateAll rest n
    | .error f =>
      warnFault f
      pure 1

/-- Calculates. -/
def calculateArgs (args : List String) : Sh Nat := do
  let args := if args.head? == some "--" then args.drop 1 else args
  if args.isEmpty then
    warn "expression expected"
    pure 1
  else calculateAll args 0

/-- Drops arguments. -/
def shift (args : List String) : Sh Nat := do
  let args := if args.head? == some "--" then args.drop 1 else args
  match args with
  | _ :: _ :: _ =>
    warn "too many arguments"
    discard
  | _ =>
    let text := args.head?.getD "1"
    match Shell.wholeNumber? 10 text with
    | none =>
      warn (text ++ ": numeric argument required")
      pure 1
    | some n =>
      let words := (← get).arguments
      if n < 0 then
        warn (text ++ ": shift count out of range")
        pure 1
      else if n.toNat > words.length then
        if ← hasExtra "shift_verbose" then warn (text ++ ": shift count out of range")
        pure 1
      else
        modify fun s => { s with arguments := words.drop n.toNat }
        pure 0

/-! ## Options -/

/-- The options of the second kind. -/
def extraNames : List String :=
  ["autocd", "assoc_expand_once", "cdable_vars", "cdspell", "checkhash", "checkjobs", "checkwinsize",
   "cmdhist", "compat31", "compat32", "compat40", "compat41", "compat42", "compat43", "compat44",
   "complete_fullquote", "direxpand", "dirspell", "dotglob", "execfail", "expand_aliases", "extdebug",
   "extglob", "extquote", "failglob", "force_fignore", "globasciiranges", "globskipdots", "globstar",
   "gnu_errfmt", "histappend", "histreedit", "histverify", "hostcomplete", "huponexit",
   "inherit_errexit", "interactive_comments", "lastpipe", "lithist", "localvar_inherit",
   "localvar_unset", "login_shell", "mailwarn", "no_empty_cmd_completion", "nocaseglob", "nocasematch",
   "noexpand_translation", "nullglob", "patsub_replacement", "progcomp", "progcomp_alias", "promptvars",
   "restricted_shell", "shift_verbose", "sourcepath", "varredir_close", "xpg_echo"]

/-- Sets or resets an option. -/
def setOption (name : String) (on : Bool) : Sh Unit := modify fun s =>
  let others := s.options.filter (· != name)
  { s with options := if on then name :: others else others }

/-- Sets or resets an option of the second kind. -/
def setExtra (name : String) (on : Bool) : Sh Unit := modify fun s =>
  let others := s.extras.filter (· != name)
  { s with extras := if on then name :: others else others }

/-- A name and whether it is on, in a list. -/
def optionLine (name : String) (on : Bool) : String :=
  let gap := String.ofList (List.replicate (15 - name.length) ' ')
  name ++ gap ++ "\t" ++ (if on then "on" else "off") ++ "\n"

/-- Shows all options, as a list or as commands that set them. -/
def showOptions (listed : Bool) : Sh Unit := do
  for (name, _) in optionNames do
    let on ← hasOption name
    print (if listed then optionLine name on
      else "set " ++ (if on then "-o " else "+o ") ++ name ++ "\n")

/-- The option with a letter. -/
def optionOf? (letter : Char) : Option String :=
  (optionNames.find? fun o => o.2 == some letter).map (·.1)

/-- Sets options and gives what follows them, and whether there were further words for arguments; none
after a complaint.  Each round takes an argument, so `limit` may be their number. -/
def setOptions : (limit : Nat) → List String → Sh (Option (Option (List String)))
  | 0, args => pure (some (some args))
  | _, [] => pure (some none)
  | limit + 1, arg :: rest => do
    match arg.toList with
    | ['-'] =>
      setOption "xtrace" false
      setOption "verbose" false
      pure (some (if rest.isEmpty then none else some rest))
    | ['-', '-'] => pure (some (some rest))
    | sign :: c :: cs =>
      if sign != '-' && sign != '+' then pure (some (some (arg :: rest)))
      else
        let on := sign == '-'
        let rec go : List Char → List String → Sh (Option (List String))
          | [], rest => pure (some rest)
          | 'o' :: cs, rest => do
            match rest with
            | [] =>
              showOptions on
              go cs []
            | name :: rest =>
              if name.startsWith "-" || name.startsWith "+" then
                showOptions on
                go cs (name :: rest)
              else if (optionNames.lookup name).isNone then
                warn (name ++ ": invalid option name")
                pure none
              else
                setOption name on
                go cs rest
          | c :: cs, rest => do
            match optionOf? c with
            | some name =>
              setOption name on
              go cs rest
            | none =>
              warn (sign.toString ++ c.toString ++ ": invalid option")
              showUsage
              pure none
        match ← go (c :: cs) rest with
        | none => pure none
        | some rest => setOptions limit rest
    | _ => pure (some (some (arg :: rest)))

/-- The first letter in the leading options that belongs to no option, with its sign.  A name behind the
letter of names is no option. -/
def strangeLetter? : List String → Option String
  | [] => none
  | arg :: rest =>
    match arg.toList with
    | sign :: c :: cs =>
      if (sign != '-' && sign != '+') || arg == "--" then none
      else
        match (c :: cs).find? fun c => c != 'o' && (optionOf? c).isNone with
        | some wrong => some (sign.toString ++ wrong.toString)
        | none =>
          if cs.getLast?.getD c != 'o' then strangeLetter? rest
          else
            match rest with
            | [] => none
            | name :: more =>
              if name.startsWith "-" || name.startsWith "+" then strangeLetter? (name :: more)
              else strangeLetter? more
    | _ => none

/-- Shows all variables, or sets options and arguments. -/
def set_ (args : List String) : Sh Nat := do
  if args.isEmpty then
    showAll true
    pure 0
  else
    -- options are looked at as a whole first
    match strangeLetter? args with
    | some wrong =>
      warn (wrong ++ ": invalid option")
      showUsage
      pure 2
    | none =>
      match ← setOptions args.length args with
      | none => pure 2
      | some none => pure 0
      | some (some words) =>
        modify fun s => { s with arguments := words }
        pure 0

/-- Sets and shows options of the second kind, or of the first. -/
def shopt (args : List String) : Sh Nat :=
  withOptions "opqsu" args fun g => do
    if g.has 's' && g.has 'u' then
      warn "cannot set and unset shell options simultaneously"
      return 1
    let names := if g.has 'o' then optionNames.map (·.1) else extraNames
    let isOn (name : String) : Sh Bool := if g.has 'o' then hasOption name else hasExtra name
    let shown (name : String) (on : Bool) : String :=
      if !g.has 'p' then optionLine name on
      else if g.has 'o' then "set " ++ (if on then "-o " else "+o ") ++ name ++ "\n"
      else "shopt " ++ (if on then "-s " else "-u ") ++ name ++ "\n"
    if g.rest.isEmpty then
      for name in names do
        let on ← isOn name
        let wanted := if g.has 's' then on else if g.has 'u' then !on else true
        if wanted && !g.has 'q' then print (shown name on)
      return 0
    let mut status := 0
    for name in g.rest do
      if !names.contains name then
        warn (name ++ (if g.has 'o' then ": invalid option name" else ": invalid shell option name"))
        status := 1
      else if g.has 's' || g.has 'u' then
        if g.has 'o' then setOption name (g.has 's') else setExtra name (g.has 's')
      else
        let on ← isOn name
        if !on then status := 1
        if !g.has 'q' then print (shown name on)
    return status

/-! ## Options of scripts -/

/-- Takes the next option off the arguments. -/
def getopts (args : List String) : Sh Nat :=
  withOptions "" args fun g => do
  match g.rest with
  | letters :: name :: more =>
    let s ← get
    let words := if more.isEmpty then s.arguments else more
    let quiet := letters.startsWith ":"
    let silent := quiet || (← lookup "OPTERR") == some "0"
    let p := s.optionPlace
    let finish (text : String) (value : Option String) (place : OptionPlace) (status : Nat) : Sh Nat := do
      let _ ← storeAt "OPTIND" .whole (toString place.next)
      modify fun s => { s with optionPlace := place }
      match value with
      | some v =>
        let _ ← storeAt "OPTARG" .whole v
      | none => modify fun s => s.removeVariable "OPTARG"
      if !isReference name then badName name
      else if ← assignNamed name text then pure status
      else pure 2
    let word := (words.getD (p.next - 1) "").toList
    let inside := if p.letter = 0 then [] else word.drop p.letter
    let start : Option (Char × List Char × Nat) := match inside with
      | c :: cs => some (c, cs, p.letter + 1)
      | [] =>
        match word with
        | ['-', '-'] => none
        | '-' :: c :: cs => some (c, cs, 2)
        | _ => none
    match start with
    | none =>
      let next := if word == ['-', '-'] then p.next + 1 else p.next
      finish "?" none { next := min next (words.length + 1) } 1
    | some (c, cs, letter) =>
      let after : OptionPlace :=
        if cs.isEmpty then { next := p.next + 1 } else { next := p.next, letter := letter }
      let complain (message : String) : Sh Unit := do
        if !silent then
          flush
          printError ((← get).name ++ ": " ++ message ++ " -- " ++ c.toString ++ "\n")
      let wanted := if c == ':' then none
        else Shell.takesValue? c (if quiet then letters.toList.drop 1 else letters.toList)
      match wanted with
      | none =>
        complain "illegal option"
        finish "?" (if quiet then some c.toString else none) after 0
      | some false => finish c.toString none after 0
      | some true =>
        if !cs.isEmpty then finish c.toString (some (String.ofList cs)) { next := p.next + 1 } 0
        else
          match words[p.next]? with
          | some value => finish c.toString (some value) { next := p.next + 2 } 0
          | none =>
            complain "option requires an argument"
            if quiet then finish ":" (some c.toString) { next := p.next + 1 } 0
            else finish "?" none { next := p.next + 1 } 0
  | _ =>
    showUsage
    pure 2

/-! ## Aliases -/

/-- An alias as it is shown. -/
def shownAlias (a : String × String) : String := "alias " ++ a.1 ++ "=" ++ Quoting.single a.2 ++ "\n"

/-- Sets and shows aliases. -/
def setAliases (args : List String) : Sh Nat :=
  withOptions "p" args fun g => do
    let showEach : Sh Unit := do
      for a in (← get).aliases.mergeSort fun a b => a.1 ≤ b.1 do
        print (shownAlias a)
    if g.has 'p' || g.rest.isEmpty then showEach
    let mut status := 0
    for arg in g.rest do
      let name := arg.toList.takeWhile (· != '=')
      match arg.toList.drop name.length with
      | _ :: value =>
        if name.isEmpty || name.any fun c => Quoting.isMeta c && c != '!' && c != '\x7b' && c != '\x7d' then
          warn ("\x60" ++ String.ofList name ++ "\x27: invalid alias name")
          status := 1
        else
          let entry := (String.ofList name, String.ofList value)
          modify fun s => { s with aliases := entry :: s.aliases.filter (·.1 != entry.1) }
      | [] =>
        match (← get).aliases.lookup arg with
        | some value => print (shownAlias (arg, value))
        | none =>
          warn (arg ++ ": not found")
          status := 1
    pure status

/-- Takes aliases away. -/
def dropAliases (args : List String) : Sh Nat :=
  withOptions "a" args fun g => do
    if g.has 'a' then
      modify fun s => { s with aliases := [] }
      return 0
    if g.rest.isEmpty then
      showUsage
      return 2
    let mut status := 0
    for name in g.rest do
      if (← get).aliases.any (·.1 == name) then
        modify fun s => { s with aliases := s.aliases.filter (·.1 != name) }
      else
        warn (name ++ ": not found")
        status := 1
    return status

end HardenAudit.ExtendedShell.Builtin
