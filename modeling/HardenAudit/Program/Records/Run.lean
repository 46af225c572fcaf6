import HardenAudit.Program.Basic
import HardenAudit.Program.Records.Evaluate
import HardenAudit.Program.Records.Parser

/-!
# Scripts about records as a program: `awk`
-/

namespace HardenAudit.Program.Records

open Kernel (Environment Work)

/-- How the program was called. -/
structure Settings where
  /-- The texts of the script, with the names of the files they come from. -/
  texts : List (String × String) := []
  assignments : List String := []
  separator : Option String := none
  rest : List String := []
  deriving Inhabited

/-- The text about how the program is called. -/
def usageText : String :=
  "Usage: mawk [Options] [Program] [file ...]\n\nProgram:\n"
    ++ "    The -f option value is the name of a file containing program text.\n"
    ++ "    If no -f option is given, a \"--\" ends option processing; the following\n"
    ++ "    parameters are the program text.\n\nOptions:\n"
    ++ "    -f program-file  Program  text is read from file instead of from the\n"
    ++ "                     command-line.  Multiple -f options are accepted.\n"
    ++ "    -F value         sets the field separator, FS, to value.\n"
    ++ "    -v var=value     assigns value to program variable var.\n"
    ++ "    --               unambiguous end of options.\n\n"
    ++ "    Implementation-specific options are prefixed with \"-W\".  They can be\n"
    ++ "    abbreviated:\n\n"
    ++ "    -W version       show version information and exit.\n"
    ++ "    -W dump          show assembler-like listing of program and exit.\n"
    ++ "    -W help          show this message and exit.\n"
    ++ "    -W interactive   set unbuffered output, line-buffered input.\n"
    ++ "    -W exec file     use file as program as well as last option.\n"
    ++ "    -W random=number set initial random seed.\n"
    ++ "    -W sprintf=number adjust size of sprintf buffer.\n"
    ++ "    -W posix_space   do not consider \"\\n\" a space.\n"
    ++ "    -W usage         show this message and exit.\n"

/-- The text about the version. -/
def versionText : String :=
  "mawk 1.3.4 20200120\nCopyright 2008-2019,2020, Thomas E. Dickey\n"
    ++ "Copyright 1991-1996,2014, Michael D. Brennan\n\nrandom-funcs:       srandom/random\n"
    ++ "regex-funcs:        internal\ncompiled limits:\nsprintf buffer      8192\n"
    ++ "maximum-integer     2147483647\n"

/-- Is the text an assignment? -/
def isAssignment (text : String) : Bool :=
  let name := text.toList.takeWhile (· != '=')
  Shell.isName (String.ofList name) && name.length < text.length

/-- Reads the options; each round takes an argument, so `limit` may be their number. -/
def readOptions (name : String) : (limit : Nat) → Settings → List String → Work Settings
  | 0, s, args => pure { s with rest := args }
  | limit + 1, s, args => do
    match args with
    | [] => pure { s with rest := [] }
    | "--" :: rest => pure { s with rest := rest }
    | arg :: rest =>
      match arg.toList with
      | '-' :: c :: joined =>
        if arg == "--help" || arg == "--usage" then
          put name (usageText)
          Work.exit 0
        else if c == 'f' || c == 'v' || c == 'F' || c == 'W' then
          let (value, rest) ← match joined, rest with
            | [], value :: rest => pure (value, rest)
            | [], [] => giveUp name 2 ("option -" ++ c.toString ++ " lacks argument")
            | joined, rest => pure (String.ofList joined, rest)
          if c == 'f' then
            match ← contentOf value with
            | .ok text => readOptions name limit { s with texts := s.texts ++ [(value, text)] } rest
            | .error e => giveUp name 2 ("cannot open " ++ value ++ " (" ++ e.text ++ ")")
          else if c == 'v' then
            if !isAssignment value then giveUp name 2 ("improper assignment: -v " ++ value)
            else readOptions name limit { s with assignments := s.assignments ++ [value] } rest
          else if c == 'F' then readOptions name limit { s with separator := some value } rest
          else if value.startsWith "v" then
            put name versionText
            Work.exit 0
          else if value.startsWith "h" || value.startsWith "u" then
            put name (usageText)
            Work.exit 0
          else
            if !(["v", "d", "i", "e", "r", "s", "p"].any fun w => value.startsWith w) then
              printError (name ++ ": vacuous option: -W \"" ++ value ++ "\"\n")
            readOptions name limit s rest
        else giveUp name 2 ("not an option: " ++ arg)
      | _ => pure { s with rest := args }

/-- The variables of a script at its start. -/
def startValues : List (String × Value) :=
  [("NR", .number 0), ("FNR", .number 0), ("FS", .text " "), ("RS", .text "\n"), ("OFS", .text " "),
   ("ORS", .text "\n"), ("SUBSEP", .text "\x1c"), ("CONVFMT", .text "%.6g"), ("OFMT", .text "%.6g"),
   ("FILENAME", .nothing)]

namespace Rec

/-- Prepares the variables and runs the script. -/
def fromStart (s : Settings) (arguments : List String) : Rec Nat := do
  let state ← get
  for (n, v) in startValues do
    setSpecial n v
  let env ← newTable (state.env.foldl (fun t e => t.insert (.text e.1) (.input e.2)) .empty)
  setSlot (.shared (special "ENVIRON")) (.table env)
  let argv ← newTable (arguments.zipIdx.foldl
    (fun t e => t.insert (.number e.2) (.input e.1)) .empty)
  setSlot (.shared (special "ARGV")) (.table argv)
  setSpecial "ARGC" (.number (Float.ofNat arguments.length))
  if let some text := s.separator then
    let text := unescaped text
    if text.length > 1 then
      if let .error message := Expression.read text then
        giveUp ("line 0: regular expression compile failed (" ++ message ++ ")\n" ++ text)
    setSpecial "FS" (.text text)
  for a in s.assignments do
    let name := a.toList.takeWhile (· != '=')
    assignGiven (String.ofList name) (unescaped (String.ofList (a.toList.drop (name.length + 1))))
  wholeScript

end Rec

/-- Carries out a script for all records of its input. -/
def awk : Program := fun argv env => do
  let name := argv.head?.getD ""
  let args := argv.drop 1
  let s ← readOptions name (args.length + 1) {} args
  let (file, text, operands) ← match s.texts, s.rest with
    | [], [] => do
      printError (usageText)
      Work.exit 2
    | [], text :: rest => pure ("", text, rest)
    | texts, rest => pure ((texts.head?.map (·.1)).getD "", String.join (texts.map (·.2)), rest)
  match readScript text with
  | .error messages =>
    let origin := if file == "" then "" else file ++ ": "
    for m in messages do
      printError (name ++ ": " ++ origin ++ m ++ "\n")
    pure 2
  | .ok script =>
    let state : State :=
      { name := name, script := script, env := env
        shared := Array.replicate script.names.size .nothing }
    fun next => Rec.fromStart s (name :: operands) state fun r s => match r with
      | .ok status => next status
      | .error _ => next s.status

end HardenAudit.Program.Records
