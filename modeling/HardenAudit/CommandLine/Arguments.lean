import HardenAudit.Path
import HardenAudit.Text.Terminal

/-!
# Arguments of the command line

Options may stand before and after the command.  Each side is read on its own; what is given after
the command replaces what is given before it.  An option that takes a value keeps waiting until the
next option, the end of its side, or its value; only then is it entered, so its own faults are found
at that point.
-/

namespace HardenAudit.CommandLine

/-- Options that take a value. -/
inductive Valued where
  | config
  | summaryJson
  deriving DecidableEq, Repr, Inhabited

namespace Valued

/-- The option without its dashes. -/
def name : Valued → String
  | config => "config"
  | summaryJson => "summary-json"

/-- The option as usage messages show it. -/
def shown : Valued → String
  | config => "--config <CONFIG>"
  | summaryJson => "--summary-json <SUMMARY_JSON>"

/-- The option with a given name. -/
def ofName? (name : String) : Option Valued :=
  [config, summaryJson].find? (·.name == name)

end Valued

/-- What a run of the program is asked to do. -/
inductive Verb where
  | run
  | list
  deriving DecidableEq, Repr, Inhabited

/-- What help is asked for. -/
inductive Topic where
  | program
  | verb (v : Verb)
  | help
  deriving DecidableEq, Repr, Inhabited

/-- Why a command line cannot be understood. -/
inductive UsageError where
  | unexpectedArgument (word : String)
  | unrecognizedSubcommand (word : String)
  | valueRequired (option : Valued)
  | repeated (option : Valued)
  | unexpectedValue (value flag : String)
  deriving DecidableEq, Repr, Inhabited

/-- The wording of a usage error; words from the command line stand out in it. -/
def UsageError.message : UsageError → String
  | unexpectedArgument word =>
    "error: unexpected argument '" ++ Text.Terminal.emphasized word ++ "' found"
  | unrecognizedSubcommand word =>
    "error: unrecognized subcommand '" ++ Text.Terminal.emphasized word ++ "'"
  | valueRequired option =>
    "error: a value is required for '" ++ option.shown ++ "' but none was supplied"
  | repeated option => "error: the argument '" ++ option.shown ++ "' cannot be used multiple times"
  | unexpectedValue value flag =>
    "error: unexpected value '" ++ Text.Terminal.emphasized value ++ "' for '" ++ flag
      ++ "' found; no more were expected"

/-- Why reading the arguments ends before their end. -/
inductive Stop where
  | help (topic : Topic)
  | usage (error : UsageError)
  deriving DecidableEq, Repr, Inhabited

/-- The options given on one side of the command. -/
structure Given where
  config : Option String := none
  summaryJson : Option String := none
  verbosity : Nat := 0
  deriving DecidableEq, Repr, Inhabited

namespace Given

/-- The value of an option. -/
def get? (g : Given) : Valued → Option String
  | .config => g.config
  | .summaryJson => g.summaryJson

/-- The options with a value set. -/
def set (g : Given) (option : Valued) (value : String) : Given :=
  match option with
  | .config => { g with config := some value }
  | .summaryJson => { g with summaryJson := some value }

/-- The options of two sides; those of the second replace those of the first. -/
def merge (before after : Given) : Given where
  config := after.config.or before.config
  summaryJson := after.summaryJson.or before.summaryJson
  verbosity := if after.verbosity = 0 then before.verbosity else after.verbosity

end Given

/-- A side that is being read: the options entered, and an option that waits for its value or has
just got it. -/
structure Side where
  given : Given := {}
  pending : Option (Valued × Option String) := none
  deriving DecidableEq, Repr, Inhabited

namespace Side

/-- Enters a value; an option cannot be given twice, and a value cannot be empty. -/
def enter (s : Side) (option : Valued) (value : String) : Except Stop Side :=
  if (s.given.get? option).isSome then .error (.usage (.repeated option))
  else if value = "" then .error (.usage (.valueRequired option))
  else .ok { given := s.given.set option value }

/-- Enters the pending option. -/
def settle (s : Side) : Except Stop Side :=
  match s.pending with
  | none => .ok s
  | some (option, none) => .error (.usage (.valueRequired option))
  | some (option, some value) => { s with pending := none }.enter option value

/-- The option that waits for its value. -/
def waiting? (s : Side) : Option Valued :=
  match s.pending with
  | some (option, none) => some option
  | _ => none

/-- One more request for verbosity; there are 255 at most. -/
def raise (s : Side) : Except Stop Side := do
  let s ← s.settle
  pure { s with given := { s.given with verbosity := min 255 (s.given.verbosity + 1) } }

/-- The request for help. -/
def help (s : Side) (topic : Topic) : Except Stop Side := do
  let _ ← s.settle
  .error (.help topic)

/-- An option with two dashes, without them. -/
def long (s : Side) (topic : Topic) (text : List Char) : Except Stop Side :=
  let name := String.ofList (text.takeWhile (· != '='))
  let value? := match text.dropWhile (· != '=') with
    | [] => none
    | _ :: value => some (String.ofList value)
  match Valued.ofName? name, value? with
  | some option, none => do
    let s ← s.settle
    pure { s with pending := some (option, none) }
  | some option, some value => do
    let s ← s.settle
    s.enter option value
  | none, value? =>
    if name = "verbose" then
      match value? with
      | none => s.raise
      | some value => .error (.usage (.unexpectedValue value "--verbose..."))
    else if name = "help" then
      match value? with
      | none => s.help topic
      | some value => .error (.usage (.unexpectedValue value "--help"))
    else .error (.usage (.unexpectedArgument ("--" ++ name)))

/-- Options of one letter behind one dash. -/
def cluster (topic : Topic) : List Char → Side → Except Stop Side
  | [], s => .ok s
  | c :: rest, s =>
    if c = 'v' then
      match s.raise with
      | .ok s => cluster topic rest s
      | .error e => .error e
    else if c = 'h' then s.help topic
    else .error (.usage (.unexpectedArgument (String.ofList ['-', c])))

end Side

/-- The words that end the first side. -/
def isVerbWord (word : String) : Bool := word == "run" || word == "list" || word == "help"

/-- Reads one side: gives it back with what follows it, which starts with the command on the first
side and is empty on the second. -/
def readSide (topic : Topic) : Side → List String → Except Stop (Side × List String)
  | s, [] => .ok (s, [])
  | s, word :: rest =>
    if s.waiting?.isNone && topic = .program && isVerbWord word then .ok (s, word :: rest)
    else
      match word.toList with
      | ['-', '-'] =>
        match rest with
        | [] => .ok (s, [])
        | extra :: _ =>
          if topic = .program && !isVerbWord extra then
            .error (.usage (.unrecognizedSubcommand extra))
          else .error (.usage (.unexpectedArgument extra))
      | '-' :: '-' :: text =>
        match s.long topic text with
        | .ok s => readSide topic s rest
        | .error e => .error e
      | '-' :: c :: text =>
        match Side.cluster topic (c :: text) s with
        | .ok s => readSide topic s rest
        | .error e => .error e
      | _ =>
        match s.waiting? with
        | some option => readSide topic { s with pending := some (option, some word) } rest
        | none =>
          if topic = .program then .error (.usage (.unrecognizedSubcommand word))
          else .error (.usage (.unexpectedArgument word))

/-- What the program is asked to do, with its options. -/
structure Invocation where
  verb : Verb := .run
  options : Given := {}
  deriving DecidableEq, Repr, Inhabited

/-- What help is asked for behind the command `help`. -/
def helpTopic : List String → Stop
  | [] => .help .program
  | [word] =>
    if word = "run" then .help (.verb .run)
    else if word = "list" then .help (.verb .list)
    else if word = "help" then .help .help
    else .usage (.unrecognizedSubcommand word)
  | word :: next :: _ =>
    if isVerbWord word then .usage (.unrecognizedSubcommand next)
    else .usage (.unrecognizedSubcommand word)

/-- Reads the arguments. -/
def parse (args : List String) : Except Stop Invocation := do
  let (before, rest) ← readSide .program {} args
  match rest with
  | [] =>
    let before ← before.settle
    pure { options := before.given }
  | word :: rest =>
    if word = "help" then .error (helpTopic rest)
    else
      let verb : Verb := if word = "list" then .list else .run
      let (after, _) ← readSide (.verb verb) {} rest
      let after ← after.settle
      let before ← before.settle
      pure ⟨verb, before.given.merge after.given⟩

end HardenAudit.CommandLine

/-!
## Help texts
-/

namespace HardenAudit.CommandLine

/-- What a command does, in one line. -/
def Verb.about : Verb → String
  | run => "Compile, analyse and validate every fixture (the default)"
  | list => "Print the fixture registry with its expected counts"

/-- The word for a command. -/
def Verb.word : Verb → String
  | run => "run"
  | list => "list"

/-- What the command `help` does, in one line. -/
def aboutHelp : String := "Print this message or the help of the given subcommand(s)"

/-- A text of whole lines, each ended by a line break. -/
def paragraph (lines : List String) : String := String.join (lines.map (· ++ "\n"))

/-- The options, one per line. -/
def optionsText : String :=
  paragraph
    ["Options:",
     "      --config <CONFIG>              JSON file overriding the embedded harness configuration",
     "      --summary-json <SUMMARY_JSON>  Also write the run summary as JSON to this path",
     "  -v, --verbose...                   Raise log verbosity on stderr (-v info, -vv debug)",
     "  -h, --help                         Print help"]

/-- The help text for a topic. -/
def Topic.text : Topic → String
  | program =>
    paragraph
      ["Validate FIHardeningPass diagnostics against known fixtures", "",
       "Usage: fi-validate [OPTIONS] [COMMAND]", "",
       "Commands:",
       "  run   " ++ Verb.run.about,
       "  list  " ++ Verb.list.about,
       "  help  " ++ aboutHelp, ""]
      ++ optionsText
  | verb v =>
    paragraph [v.about, "", "Usage: fi-validate " ++ v.word ++ " [OPTIONS]", ""] ++ optionsText
  | help =>
    paragraph
      [aboutHelp, "",
       "Usage: fi-validate help [COMMAND]...", "",
       "Arguments:",
       "  [COMMAND]...  Print help for the subcommand(s)"]

end HardenAudit.CommandLine
