import HardenAudit.ExtendedShell.Quoting
import HardenAudit.ExtendedShell.Syntax

/-!
# Commands as texts

Commands are shown in a standard layout: functions on several lines, other commands on one.
-/

namespace HardenAudit.ExtendedShell

/-- Text that is being written. -/
structure Printing where
  out : String := ""
  indent : Nat := 0
  /-- How much further to the right each level stands. -/
  amount : Nat := 4
  /-- How many commands are not indented from now on. -/
  skips : Nat := 0
  /-- Is a function being shown? -/
  inFunction : Bool := false
  documents : Array Document
  /-- How many lists of commands are being shown. -/
  lists : Nat := 0
  /-- Here-documents that follow at the end of the line. -/
  deferred : List Nat := []
  /-- Was a here-document shown, so that no semicolon follows? -/
  ended : Bool := false
  deriving Inhabited

/-- Writing. -/
abbrev Print := StateM Printing

namespace Print

/-- Adds a text. -/
def put (text : String) : Print Unit := modify fun p => { p with out := p.out ++ text }

/-- Blanks at the start of a line. -/
def indentation (count : Nat) : String := String.ofList (List.replicate count ' ')

/-- Starts a line with a text. -/
def newline (text : String) : Print Unit := do
  let p ← get
  put ("\n" ++ indentation p.indent ++ text)

/-- Adds a semicolon, unless the text ends with something that needs none. -/
def semicolon : Print Unit := do
  let p ← get
  if !(p.out == "" || p.out.endsWith "&" || p.out.endsWith "\n") then put ";"

/-- Writes further to the right. -/
def deeper (m : Print Unit) : Print Unit := do
  modify fun p => { p with indent := p.indent + p.amount }
  m
  modify fun p => { p with indent := p.indent - p.amount }

/-- Lets the next command not be indented. -/
def skipIndent : Print Unit := modify fun p => { p with skips := p.skips + 1 }

/-- Writes here-documents. -/
def documentBodies (numbers : List Nat) : Print Unit := do
  let p ← get
  put "\n"
  for n in numbers do
    let d := p.documents[n]?.getD default
    put (d.raw ++ d.mark ++ "\n")
  modify fun p => { p with ended := true }

/-- Writes the mark between two commands, and the here-documents that are due. -/
def deferredDocuments (mark : String) : Print Unit := do
  put mark
  let numbers := (← get).deferred
  if !numbers.isEmpty then
    modify fun p => { p with deferred := [] }
    documentBodies numbers
    if mark != "" then put " "

/-- Writes commands that follow each other. -/
def listed (m : Print Unit) : Print Unit := do
  modify fun p => { p with lists := p.lists + 1 }
  m
  modify fun p => { p with lists := p.lists - 1 }

/-- The texts of words with something between them. -/
def wordList (between : String) (ws : List Word) : String := between.intercalate (ws.map Word.raw)

/-- The text of a subscript. -/
def subscriptText : Subscript → String
  | .none => ""
  | .star => "[*]"
  | .each => "[@]"
  | .index w => "[" ++ w.raw ++ "]"

/-- The text of an assignment. -/
def assignText : Assign → String
  | .text name sub append w => name ++ subscriptText sub ++ (if append then "+=" else "=") ++ w.raw
  | .list name sub append es =>
    name ++ subscriptText sub ++ (if append then "+=" else "=") ++ "("
      ++ " ".intercalate (es.map fun (e : Element) => match e with
        | .mk key append w =>
          subscriptText key ++ (match key with
            | .none => ""
            | _ => if append then "+=" else "=") ++ w.raw) ++ ")"

/-- The text of an argument. -/
def argumentText : Argument → String
  | .word w => w.raw
  | .assign a _ => assignText a

/-- The text of a descriptor, unless it is the standard one. -/
def handleText (standard : Nat) : Handle → String
  | .number n => if n == standard then "" else toString n
  | .variable name => "\x7b" ++ name ++ "\x7d"

/-- Writes a redirection; the text of a here-document comes later. -/
def redirect (d : Redirect) : Print Unit := do
  match d with
  | .file fd mode w =>
    let (standard, sign) : Nat × String := match mode with
      | .input => (0, "<")
      | .output => (1, ">")
      | .clobber => (1, ">|")
      | .append => (1, ">>")
      | .both => (1000000, "<>")
    put (handleText standard fd ++ sign ++ " " ++ w.raw)
  | .streams append w => put ((if append then "&>> " else "&> ") ++ w.raw)
  | .descriptor fd reads w =>
    put (handleText 1000000 fd ++ (if reads && w.raw != "-" then "<&" else ">&") ++ w.raw)
  | .text fd w => put (handleText 0 fd ++ "<<< " ++ w.raw)
  | .document fd n =>
    let d := (← get).documents[n]?.getD default
    put (handleText 0 fd ++ (if d.tabs then "<<-" else "<<")
      ++ (if d.quoted then Quoting.single d.mark else d.mark))

/-- Writes redirections with blanks between them, and their here-documents behind them, unless more may follow on
the line. -/
def redirects (ds : List Redirect) : Print Unit := do
  let rec go : List Redirect → Print Unit
    | [] => pure ()
    | [d] => redirect d
    | d :: rest => do
      redirect d
      put " "
      go rest
  modify fun p => { p with ended := false }
  go ds
  let numbers := ds.filterMap fun (d : Redirect) => match d with
    | .document _ n => some n
    | _ => none
  if !numbers.isEmpty then
    if (← get).lists > 0 then modify fun p => { p with deferred := numbers }
    else documentBodies numbers

/-- The text of a condition. -/
def conditionText : Condition → String
  | .word w => "-n " ++ w.raw
  | .unary op w => op ++ " " ++ w.raw
  | .binary op a b => a.raw ++ " " ++ op ++ " " ++ b.raw
  | .negation c => "! " ++ conditionText c
  | .both a b => conditionText a ++ " && " ++ conditionText b
  | .either a b => conditionText a ++ " || " ++ conditionText b
  | .group c => "( " ++ conditionText c ++ " )"

section
variable (self : Command → Print Unit)

/-- Writes the commands of a function with its closing brace; a group gives its commands. -/
def functionEnd (indent : Nat) (body : Command) : Print Unit := do
  let p ← get
  let (inner, ds) : Command × List Redirect := match body with
    | .redirected _ (.group inner) ds => (inner, ds)
    | .group inner => (inner, [])
    | body => (body, [])
  set { p with inFunction := true, indent := indent }
  self inner
  deferredDocuments ""
  modify fun q => { q with inFunction := p.inFunction, indent := p.indent, amount := p.amount }
  if ds.isEmpty then newline "\x7d"
  else
    newline "\x7d "
    redirects ds

/-- Writes a function behind its name. -/
def functionBody (body : Command) : Print Unit := do
  let p ← get
  put "() \n"
  put (indentation p.indent ++ "\x7b \n")
  functionEnd self (p.indent + p.amount) body

/-- Writes a command without starting a line for it. -/
def goOn (c : Command) : Print Unit := do
  if !c.isNothing then
    skipIndent
    self c

/-- The body of a loop. -/
def loopBody (body : Command) : Print Unit := do
  deeper (self body)
  deferredDocuments ""
  semicolon
  newline "done"

/-- The arms of a choice. -/
def printArms : List Arm → Print Unit
  | [] => pure ()
  | .mk patterns body ending :: rest => do
    newline (wordList " | " patterns ++ ")\n")
    deeper (self body)
    deferredDocuments ""
    newline (match ending with
      | .stop => ";;"
      | .fall => ";&"
      | .onward => ";;&")
    printArms rest

/-- Further stages of a pipeline. -/
def printStages : List Command → Print Unit
  | [] => pure ()
  | c :: rest => do
    deferredDocuments " |"
    put " "
    goOn self c
    deferredDocuments ""
    printStages rest

/-- The end of a command that another one follows; gives whether that one stands on the same line. -/
def between : Print Bool := do
  let p ← get
  if p.deferred.isEmpty then
    if p.ended then set { p with ended := false } else put ";"
  else deferredDocuments ""
  if p.inFunction then
    put "\n"
    pure false
  else
    put " "
    pure true

/-- The commands of a list, and whether each of them runs beside the shell. -/
def steps : Command → List (Command × Bool)
  | .sequence a b => steps a ++ steps b
  | .background c => [(c, true)]
  | c => [(c, false)]

/-- Commands of a list behind the first one, which may run beside the shell. -/
def printSteps (background : Bool) : List (Command × Bool) → Print Unit
  | [] => if background then deferredDocuments " &" else pure ()
  | (c, next) :: rest => do
    if background then
      deferredDocuments " &"
      put " "
      goOn self c
    else if ← between then goOn self c
    else self c
    if !next then deferredDocuments ""
    printSteps next rest

/-- A list of commands. -/
def printList (c : Command) : Print Unit := listed do
  match steps c with
  | [] => pure ()
  | (first, background) :: rest =>
    goOn self first
    printSteps self background rest

/-- A command without the words before a pipeline: whether it is timed, whether portably, and whether it is
negated. -/
def unmarked : Command → (timed portable negated : Bool) → Command × Bool × Bool × Bool
  | .negation c, t, p, n => unmarked c t p !n
  | .timed portable c, _, p, n => unmarked c true (p || portable) n
  | c, t, p, n => (c, t, p, n)

/-- Writes a command whose line was started. -/
def written (c : Command) : Print Unit := do
  match c with
  | .nothing => pure ()
  | .simple _ assigns arguments ds =>
    put (" ".intercalate (assigns.map assignText ++ arguments.map argumentText))
    if !ds.isEmpty then
      if !(assigns.isEmpty && arguments.isEmpty) then put " "
      redirects ds
  | .redirected _ body ds =>
    goOn self body
    put " "
    redirects ds
  | .pipeline stages => listed do
    match stages with
    | [] => pure ()
    | first :: rest =>
      goOn self first
      printStages self rest
  | .negation _ | .timed .. =>
    let (body, timed, portable, negated) := unmarked c false false false
    if timed then put (if portable then "time -p " else "time ")
    if negated then put "! "
    goOn self body
  | .both a b => listed do
    goOn self a
    deferredDocuments " && "
    goOn self b
    deferredDocuments ""
  | .either a b => listed do
    goOn self a
    deferredDocuments " || "
    goOn self b
    deferredDocuments ""
  | .background _ | .sequence .. => printList self c
  | .subshell _ body =>
    put "( "
    goOn self body
    deferredDocuments ""
    put " )"
  | .group body =>
    put "\x7b "
    let p ← get
    if p.inFunction then
      put "\n"
      deeper (self body)
      deferredDocuments ""
      newline "\x7d"
    else
      goOn self body
      deferredDocuments ""
      semicolon
      put " \x7d"
  | .choice test yes no =>
    put "if "
    goOn self test
    semicolon
    put " then\n"
    deeper (self yes)
    deferredDocuments ""
    if !no.isNothing then
      semicolon
      newline "else\n"
      deeper (self no)
      deferredDocuments ""
    semicolon
    newline "fi"
  | .loop wanted test body =>
    put (if wanted then "while " else "until ")
    goOn self test
    deferredDocuments ""
    semicolon
    put " do\n"
    loopBody self body
  | .each _ name arguments words body =>
    put ("for " ++ name ++ " in " ++ (if arguments then "\"$@\"" else wordList " " words) ++ ";")
    newline "do\n"
    loopBody self body
  | .counting _ a b c body =>
    put ("for ((" ++ a.raw ++ "; " ++ b.raw ++ "; " ++ c.raw ++ "))")
    newline "do\n"
    loopBody self body
  | .menu _ name arguments words body =>
    put ("select " ++ name ++ " in " ++ (if arguments then "\"$@\"" else wordList " " words) ++ ";")
    newline "do\n"
    loopBody self body
  | .arms _ word arms =>
    put ("case " ++ word.raw ++ " in ")
    deeper (printArms self arms)
    newline "esac"
  | .arith _ w => put ("((" ++ w.raw ++ "))")
  | .condition _ c => put ("[[ " ++ conditionText c ++ " ]]")
  | .function _ name body =>
    put ("function " ++ name ++ " ")
    functionBody self body
  | .coprocess _ name body =>
    put ("coproc " ++ name ++ " ")
    goOn self body

end

/-- Writes a command; `limit` bounds how deep commands are nested. -/
def command : (limit : Nat) → Command → Print Unit
  | 0, _ => pure ()
  | limit + 1, c => do
    if !c.isNothing then
      let p ← get
      if p.skips > 0 then set { p with skips := p.skips - 1 } else put (indentation p.indent)
      written (command limit) c

/-- Commands nested in each other at most. -/
def nesting : Nat := 0x10000

end Print

/-- A command on one line. -/
def Command.text (documents : Array Document) (c : Command) : String :=
  ((do
    Print.command Print.nesting c
    Print.deferredDocuments "" : Print Unit).run { documents := documents }).2.out

/-- What is about to run: a command, or the heading of one that is run part by part. -/
def Command.heading (documents : Array Document) (c : Command) : String :=
  let listed (arguments : Bool) (words : List Word) : String :=
    if arguments then "\"$@\"" else Print.wordList " " words
  match c with
  | .each _ name arguments words _ => "for " ++ name ++ " in " ++ listed arguments words
  | .menu _ name arguments words _ => "select " ++ name ++ " in " ++ listed arguments words
  | .arms _ word _ => "case " ++ word.raw ++ " in "
  | c => c.text documents

/-- The definition of a function. -/
def functionText (documents : Array Document) (name : String) (body : Command) : String :=
  ((do
    Print.put (name ++ " ")
    Print.functionBody (Print.command Print.nesting) body : Print Unit).run
      { documents := documents }).2.out

/-- The definition of a function as programs are given it: without its name, and hardly indented. -/
def exportedText (documents : Array Document) (body : Command) : String :=
  ((do
    Print.put "() \x7b "
    Print.functionEnd (Print.command Print.nesting) 1 body : Print Unit).run
      { documents := documents, amount := 0 }).2.out

end HardenAudit.ExtendedShell
