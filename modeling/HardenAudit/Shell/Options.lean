import HardenAudit.Shell.Variables

/-!
# Options

The options of the shell with their names and letters, and the options that stand before the
arguments of a command.
-/

namespace HardenAudit.Shell

/-- The options of the shell by name; some have no letter. -/
def optionNames : List (String × Option Char) :=
  [("errexit", some 'e'), ("noglob", some 'f'), ("ignoreeof", some 'I'), ("interactive", some 'i'),
   ("monitor", some 'm'), ("noexec", some 'n'), ("stdin", some 's'), ("xtrace", some 'x'),
   ("verbose", some 'v'), ("vi", some 'V'), ("emacs", some 'E'), ("noclobber", some 'C'),
   ("allexport", some 'a'), ("notify", some 'b'), ("nounset", some 'u'), ("privileged", some 'p'),
   ("nolog", none), ("debug", none)]

/-- The character under which an option is kept; one without a letter has a character of its own. -/
def optionKey (name : String) (letter : Option Char) : Char :=
  letter.getD (if name = "nolog" then Char.ofNat 1 else Char.ofNat 2)

/-- What stands before the arguments of a command. -/
structure Given where
  options : List (Char × String) := []
  rest : List String
  deriving Inhabited

/-- The value of an option letter in a row of letters: does it take a value?  None if it is not
there. -/
def takesValue? (c : Char) : List Char → Option Bool
  | [] => none
  | q :: ':' :: rest => if q == c then some true else takesValue? c rest
  | q :: rest => if q == c then some false else takesValue? c rest

/-- The letters of one argument: the options, and what is left of the arguments behind it. -/
def optionLetters (letters : List Char) : List Char → List String →
    Except String (List (Char × String) × List String)
  | [], rest => .ok ([], rest)
  | c :: cs, rest =>
    match takesValue? c letters with
    | none => .error ("Illegal option -" ++ c.toString)
    | some false => do
      let (options, rest) ← optionLetters letters cs rest
      .ok ((c, "") :: options, rest)
    | some true =>
      if !cs.isEmpty then .ok ([(c, String.ofList cs)], rest)
      else
        match rest with
        | value :: rest => .ok ([(c, value)], rest)
        | [] => .error ("No arg for -" ++ c.toString ++ " option")

/-- The options before the arguments; each round takes an argument, so `limit` may be the number of
arguments. -/
def optionsFrom (letters : List Char) : (limit : Nat) → List String → Except String Given
  | 0, args => .ok { rest := args }
  | _, [] => .ok { rest := [] }
  | limit + 1, arg :: rest =>
    match arg.toList with
    | ['-', '-'] => .ok { rest := rest }
    | '-' :: c :: cs => do
      let (options, rest) ← optionLetters letters (c :: cs) rest
      let given ← optionsFrom letters limit rest
      .ok { given with options := options ++ given.options }
    | _ => .ok { rest := arg :: rest }

namespace Sh

/-- The options before the arguments of a command; a colon behind a letter asks for a value. -/
def given (letters : String) (args : List String) : Sh Given :=
  match optionsFrom letters.toList args.length args with
  | .ok g => pure g
  | .error message => fail message

/-- Sets or resets the option that is kept under a character. -/
def setOption (key : Char) (on : Bool) : Sh Unit := modify fun s =>
  let options := s.options.filter (· != key)
  let options := if on && key == 'V' then options.filter (· != 'E') else options
  let options := if on && key == 'E' then options.filter (· != 'V') else options
  { s with options := if on then key :: options else options }

/-- Sets or resets the option with a letter. -/
def setLetter (letter : Char) (on : Bool) : Sh Unit :=
  if optionNames.any (·.2 == some letter) then setOption letter on
  else fail ("Illegal option -" ++ letter.toString)

/-- Shows all options, as a list or as commands that set them. -/
def showOptions (listed : Bool) : Sh Unit := do
  if listed then print "Current option settings\n"
  for (name, letter) in optionNames do
    let on ← hasOption (optionKey name letter)
    if listed then
      let gap := String.ofList (List.replicate (16 - name.length) ' ')
      print (name ++ gap ++ (if on then "on" else "off") ++ "\n")
    else print ("set " ++ (if on then "-o " else "+o ") ++ name ++ "\n")

/-- Sets or resets the option with a name, or shows all options. -/
def setNamed (name : Option String) (on : Bool) : Sh Unit :=
  match name with
  | none => showOptions on
  | some name =>
    match optionNames.lookup name with
    | some letter => setOption (optionKey name letter) on
    | none => fail ("Illegal option -o " ++ name)

/-- The letters of one argument that sets options: gives the arguments behind it. -/
def setLetters (on : Bool) : List Char → List String → Sh (List String)
  | [], rest => pure rest
  | 'o' :: cs, rest => do
    setNamed rest.head? on
    setLetters on cs (rest.drop 1)
  | c :: cs, rest => do
    setLetter c on
    setLetters on cs rest

/-- Job control is not to be had, because there is no terminal. -/
def checkMonitor : Sh Unit := do
  if ← hasOption 'm' then
    warn "can\x27t access tty; job control turned off"
    setOption 'm' false

/-- Replaces the arguments. -/
def setArguments (words : List String) : Sh Unit :=
  modify fun s => { s with arguments := { words := words } }

end Sh
end HardenAudit.Shell
