import HardenAudit.Kernel.Request
import HardenAudit.Shell.Number

/-!
# What programs share

## Names in messages

Programs show a name in their messages in one of three ways: in single quotes, in the quotes that a
shell would need and only if it needs them, or in these quotes in any case.  Texts are raw, and
bytes that are no printable ASCII are shown by their octal numbers.
-/

namespace HardenAudit.Program

/-- Is the character a printable ASCII one? -/
def isPlain (c : Char) : Bool := 0x20 ≤ c.toNat && c.toNat ≤ 0x7E

/-- Three octal digits. -/
def octal (n : Nat) : List Char :=
  [n / 64 % 8, n / 8 % 8, n % 8].map fun d => Char.ofNat (48 + d)

/-- An unprintable character behind a backslash. -/
def escaped (c : Char) : List Char :=
  match c.toNat with
  | 7 => ['\\', 'a']
  | 8 => ['\\', 'b']
  | 9 => ['\\', 't']
  | 10 => ['\\', 'n']
  | 11 => ['\\', 'v']
  | 12 => ['\\', 'f']
  | 13 => ['\\', 'r']
  | n => '\\' :: octal n

/-- A text in single quotes, with backslashes before quotes, backslashes and unprintable characters. -/
def quote (text : String) : String :=
  let chars := text.toList.flatMap fun (c : Char) =>
    if c == '\x27' || c == '\\' then ['\\', c] else if isPlain c then [c] else escaped c
  "'" ++ String.ofList chars ++ "'"

/-- Does the text need quotes in a message?  A colon counts, because colons divide messages. -/
def needsQuotes (text : String) : Bool :=
  match text.toList with
  | [] => true
  | c :: cs =>
    c == '#' || c == '~' || (cs.isEmpty && (c == '\x7b' || c == '\x7d'))
      || (c :: cs).any fun c => !isPlain c || " !\"$&()*;<=>[^\x60|\\'?:".toList.contains c

/-- Can the text, which has a single quote, stand in double quotes as it is? -/
def fitsDoubleQuotes (text : String) : Bool :=
  (text.toList.all fun c => isPlain c && !"!\"$&()*;<=>[^\x60|\\?\x7b\x7d".toList.contains c)
    && (text.toList.drop 1).all fun c => c != '#' && c != '~'

/-- The characters of a text in the quotes of a shell; `shown` tells whether the last one was
unprintable. -/
def shellChars : (shown : Bool) → List Char → List Char
  | _, [] => []
  | shown, c :: rest =>
    if isPlain c then
      (if shown then ['\x27', '\x27'] else [])
        ++ (if c == '\x27' then ['\x27', '\\', '\x27', '\x27'] else [c]) ++ shellChars false rest
    else (if shown then [] else ['\x27', '$', '\x27']) ++ escaped c ++ shellChars true rest

/-- A text in the quotes of a shell. -/
def shellQuote (text : String) : String :=
  if text.toList.contains '\x27' && fitsDoubleQuotes text then "\"" ++ text ++ "\""
  else "'" ++ String.ofList (shellChars false text.toList) ++ "'"

/-- A text in the quotes of a shell, if it needs any. -/
def shellQuoteIfNeeded (text : String) : String := if needsQuotes text then shellQuote text else text

end HardenAudit.Program

/-!
## What programs have in common

Reading and writing, messages, and the options before and between the arguments of a program.
-/

namespace HardenAudit.Program

open Kernel (Environment Opening Refusal Work)

/-- A program: what it does with the words it is called with and its variables; gives its status. -/
abbrev Program := (argv : List String) → Environment → Work Nat

/-- Bytes that programs read at once. -/
def chunkSize : Nat := 65536

/-! ## Writing -/

/-- Writes all of a text to a descriptor; says why not, if that fails. -/
def writeAll (fd : Nat) (text : String) : Work (Option Refusal) :=
  Work.iterate (fun (bytes : Text.Bytes) => do
    if bytes.isEmpty then pure (.inr none)
    else
      match ← Work.ask (.write fd bytes) with
      | .ok count => pure (.inl (bytes.drop count))
      | .error e => pure (.inr (some e))) Kernel.endless (Text.Raw.toBytes text)

/-- Writes to the second stream. -/
def printError (text : String) : Work Unit := do
  let _ ← writeAll 2 text

/-- Reports something under the name of the program. -/
def report (name message : String) : Work Unit := printError (name ++ ": " ++ message ++ "\n")

/-- Writes to the output; a program that cannot do that gives up. -/
def put (name text : String) : Work Unit := do
  if text != "" then
    match ← writeAll 1 text with
    | none => pure ()
    | some e =>
      report name ("write error: " ++ e.text)
      Work.exit 1

/-- Ends with a hint at the help of the program. -/
def hint {α : Type} (name : String) (status : Nat) : Work α := do
  printError ("Try '" ++ name ++ " --help' for more information.\n")
  Work.exit status

/-- Ends because the program was called in a wrong way. -/
def misuse {α : Type} (name : String) (status : Nat) (message : String) : Work α := do
  report name message
  hint name status

/-- Ends with a message. -/
def giveUp {α : Type} (name : String) (status : Nat) (message : String) : Work α := do
  report name message
  Work.exit status

/-! ## Reading -/

/-- Everything that can be read from a descriptor, or why it cannot. -/
def slurp (fd : Nat) : Work (Except Refusal String) :=
  Work.iterate (fun (parts : List String) => do
    match ← Work.ask (.read fd chunkSize) with
    | .ok [] => pure (.inr (.ok (String.join parts.reverse)))
    | .ok bytes => pure (.inl (Text.Raw.ofBytes bytes :: parts))
    | .error e => pure (.inr (.error e))) Kernel.endless []

/-- Closes a descriptor. -/
def close (fd : Nat) : Work Unit := do
  let _ ← Work.ask (.close fd)

/-- The content of a file; a dash stands for the input. -/
def contentOf (path : String) : Work (Except Refusal String) := do
  if path = "-" then slurp 0
  else
    match ← Work.ask (.openFile path .input) with
    | .error e => pure (.error e)
    | .ok fd =>
      let r ← slurp fd
      close fd
      pure r

/-- The lines of a text without their ends, and whether the last one has an end. -/
def linesOf (text : String) : List String × Bool :=
  match text.splitOn "\n" with
  | parts =>
    match parts.getLast? with
    | some "" => (parts.dropLast, true)
    | _ => (parts, false)

/-- A line with its end. -/
def ended (line : String) : String := line ++ "\n"

/-- A list in rows of a size; each has an element at least, so `limit` may be the length. -/
def rowsOf {α : Type} (size : Nat) : (limit : Nat) → List α → List (List α)
  | 0, _ => []
  | _, [] => []
  | limit + 1, xs => xs.take size :: rowsOf size limit (xs.drop size)

/-! ## Options -/

/-- Does an option take a value? -/
inductive Takes where
  | nothing
  | value
  /-- A value only if it is joined to the option. -/
  | optional
  deriving DecidableEq, Repr, Inhabited

/-- The options of a program. -/
structure Options where
  letters : List (Char × Takes)
  /-- Options with long names, each with the letter that it stands for. -/
  names : List (String × Char × Takes) := []
  /-- Must options stand before all other arguments? -/
  strict : Bool := false
  deriving Inhabited

namespace Options

/-- Options by their letters; a colon behind a letter asks for a value, and two of them for one that is
joined to it. -/
def parseLetters : List Char → List (Char × Takes)
  | c :: ':' :: ':' :: rest => (c, .optional) :: parseLetters rest
  | c :: ':' :: rest => (c, .value) :: parseLetters rest
  | c :: rest => (c, .nothing) :: parseLetters rest
  | [] => []

/-- Options by their letters and their long names. -/
def make (letters : String) (names : List (String × Char)) : Options :=
  let letters := parseLetters letters.toList
  { letters := letters
    names := names.map fun n => (n.1, n.2, (letters.lookup n.2).getD .nothing) }

end Options

/-- The options and the other arguments of a call. -/
structure Call where
  name : String
  options : List (Char × Option String) := []
  rest : List String := []
  deriving Inhabited

namespace Call

/-- Was an option given? -/
def has (c : Call) (letter : Char) : Bool := c.options.any (·.1 == letter)

/-- The value of an option, the last one if it was given several times. -/
def value? (c : Call) (letter : Char) : Option String :=
  ((c.options.filter (·.1 == letter)).getLast?).bind (·.2)

/-- The last of some options that was given. -/
def last? (c : Call) (letters : List Char) : Option Char :=
  ((c.options.filter fun o => letters.contains o.1).getLast?).map (·.1)

end Call

/-- The letters of one argument: the options, and the arguments behind it or what is wrong with the next
letter. -/
def letterOptions (o : Options) : List Char → List String →
    List (Char × Option String) × Except String (List String)
  | [], rest => ([], .ok rest)
  | c :: cs, rest =>
    match o.letters.lookup c with
    | none => ([], .error ("invalid option -- '" ++ c.toString ++ "'"))
    | some .nothing =>
      let (options, rest) := letterOptions o cs rest
      ((c, none) :: options, rest)
    | some .optional => ([(c, if cs.isEmpty then none else some (String.ofList cs))], .ok rest)
    | some .value =>
      if !cs.isEmpty then ([(c, some (String.ofList cs))], .ok rest)
      else
        match rest with
        | value :: rest => ([(c, some value)], .ok rest)
        | [] => ([], .error ("option requires an argument -- '" ++ c.toString ++ "'"))

/-- An option with a long name, which may be shortened. -/
def longOption (o : Options) (text : String) (rest : List String) :
    Except String ((Char × Option String) × List String) :=
  let name := String.ofList (text.toList.takeWhile (· != '='))
  let joined : Option String := match text.toList.drop name.length with
    | _ :: value => some (String.ofList value)
    | [] => none
  let exact := o.names.filter (·.1 == name)
  let fitting := if exact.isEmpty then o.names.filter (·.1.startsWith name) else exact
  let same := match fitting with
    | a :: more => more.all fun b => b.2 == a.2
    | [] => true
  match fitting with
  | [] => .error ("unrecognized option '--" ++ text ++ "'")
  | (full, c, takes) :: _ =>
    if !same then
      .error ("option '--" ++ text ++ "' is ambiguous; possibilities:"
        ++ String.join (fitting.map fun f => " '--" ++ f.1 ++ "'"))
    else
      match takes, joined with
      | .nothing, some _ => .error ("option '--" ++ full ++ "' doesn't allow an argument")
      | .nothing, none => .ok ((c, none), rest)
      | .optional, value => .ok ((c, value), rest)
      | .value, some value => .ok ((c, some value), rest)
      | .value, none =>
        match rest with
        | value :: rest => .ok ((c, some value), rest)
        | [] => .error ("option '--" ++ full ++ "' requires an argument")

/-- Sorts arguments into options and others, up to an option that is wrong; each round takes one, so
`limit` may be their number. -/
def gatherArguments (o : Options) : (limit : Nat) → List String → Call × Option String
  | 0, rest => ({ name := "", rest := rest }, none)
  | _, [] => ({ name := "" }, none)
  | limit + 1, arg :: rest =>
    let behind (options : List (Char × Option String)) :
        Except String (List String) → Call × Option String
      | .error message => ({ name := "", options := options }, some message)
      | .ok rest =>
        let (c, wrong) := gatherArguments o limit rest
        ({ c with options := options ++ c.options }, wrong)
    match arg.toList with
    | ['-', '-'] => ({ name := "", rest := rest }, none)
    | '-' :: '-' :: cs =>
      match longOption o (String.ofList cs) rest with
      | .ok (option, rest) => behind [option] (.ok rest)
      | .error message => behind [] (.error message)
    | '-' :: d :: cs =>
      let (options, rest) := letterOptions o (d :: cs) rest
      behind options rest
    | _ =>
      if o.strict then ({ name := "", rest := arg :: rest }, none)
      else
        let (c, wrong) := gatherArguments o limit rest
        ({ c with rest := arg :: c.rest }, wrong)

/-- Sorts arguments into options and others; each round takes one, so `limit` may be their number. -/
def sortArguments (o : Options) (limit : Nat) (args : List String) : Except String Call :=
  match gatherArguments o limit args with
  | (c, none) => .ok c
  | (_, some message) => .error message

/-- The call of a program; one with wrong options ends the program.  Each option is looked at in turn
before the ones behind it. -/
def callWith (o : Options) (status : Nat) (look : Char → Option String → Work Unit)
    (argv : List String) : Work Call := do
  let name := argv.head?.getD ""
  let args := argv.drop 1
  let (c, wrong) := gatherArguments o args.length args
  for (letter, value) in c.options do
    look letter value
  match wrong with
  | some message => misuse name status message
  | none => pure { c with name := name }

/-- The number that a text is, between two others. -/
def numberBetween (name what text : String) (least most : Int) : Work Int := do
  let n := Shell.integer 10 text.toList
  let wrong (more : String) : Work Int := giveUp name 1 (what ++ ": " ++ quote text ++ more)
  if !n.present || !n.rest.isEmpty then wrong ""
  else if n.value < least || most < n.value then
    wrong (if n.value.natAbs > 0x3FFFFFFF then ": Value too large for defined data type"
      else ": Numerical result out of range")
  else pure n.value

/-- The choice that a word stands for, by its first name; a word may be shortened as long as it fits one
choice.  Each choice has its names in a list. -/
def choose (name context word : String) (choices : List (List String)) : Work String := do
  let exact := choices.filter (·.contains word)
  let fitting := if exact.isEmpty then choices.filter (·.any (·.startsWith word)) else exact
  match fitting with
  | [names] => pure (names.head?.getD "")
  | _ =>
    report name ((if fitting.isEmpty then "invalid" else "ambiguous") ++ " argument " ++ quote word
      ++ " for " ++ quote context)
    printError ("Valid arguments are:\n" ++ String.join (choices.map fun names =>
      "  - " ++ ", ".intercalate (names.map fun n => "'" ++ n ++ "'") ++ "\n"))
    hint name 1

/-- The call of a program; one with wrong options ends the program. -/
def call (o : Options) (status : Nat) (argv : List String) : Work Call :=
  callWith o status (fun _ _ => pure ()) argv

end HardenAudit.Program
