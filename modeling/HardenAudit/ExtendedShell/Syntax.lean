import HardenAudit.Shell.Syntax

/-!
# Commands of the extended shell

The shape of commands and words after they have been read.  A word keeps its text, so that it can be
shown, and its pieces: characters, quoted parts, and parts that are replaced by values.
Here-documents are kept apart and are known by their numbers.
-/

namespace HardenAudit.ExtendedShell

/-- What happens if a value is missing, or is there. -/
inductive Remedy where
  /-- A word takes its place. -/
  | default
  /-- A word takes its place and becomes the value. -/
  | assign
  /-- There is a complaint. -/
  | demand
  /-- A word takes the place of a value that is there. -/
  | alternative
  deriving DecidableEq, Repr, Inhabited

/-- Which matches of a pattern are replaced. -/
inductive Extent where
  | first
  | all
  | atStart
  | atEnd
  deriving DecidableEq, Repr, Inhabited

/-- How letters are changed. -/
inductive Lettering where
  | upper
  | lower
  | toggled
  deriving DecidableEq, Repr, Inhabited

/-- How a redirection opens its file. -/
inductive FileMode where
  | input
  | output
  /-- Output that is never refused because the file exists. -/
  | clobber
  | append
  | both
  deriving DecidableEq, Repr, Inhabited

/-- The descriptor of a redirection, which may be chosen by the shell and kept in a variable. -/
inductive Handle where
  | number (n : Nat)
  | variable (name : String)
  deriving DecidableEq, Repr, Inhabited

/-- What follows an arm that was carried out. -/
inductive ArmEnd where
  /-- The whole choice is over. -/
  | stop
  /-- The next arm is carried out as well. -/
  | fall
  /-- The next arms are tried. -/
  | onward
  deriving DecidableEq, Repr, Inhabited

mutual

/-- A piece of a word. -/
inductive Piece where
  | plain (c : Char)
  /-- A character behind a backslash. -/
  | escaped (c : Char)
  /-- A text in single quotes. -/
  | single (text : String)
  /-- What is in double quotes. -/
  | double (body : List Piece)
  /-- A parameter, whose value may be the name of another one, with its text. -/
  | param (name : String) (subscript : Subscript) (indirect : Bool) (form : Form) (raw : String)
  /-- The output of commands. -/
  | command (body : Command)
  /-- The output of commands whose text is read when it is needed. -/
  | backquote (text : String)
  | arith (body : List Piece)
  /-- The path of a pipe to or from commands. -/
  | process (reads : Bool) (body : Command)

/-- A subscript. -/
inductive Subscript where
  | none
  | star
  | each
  | index (w : Word)

/-- What is asked of a parameter. -/
inductive Form where
  | value
  | length
  /-- The names of all variables that start with its name. -/
  | names (star : Bool)
  | remedy (r : Remedy) (empty : Bool) (word : List Piece)
  /-- The value without a part that matches a pattern, at its end or its start. -/
  | trim (atEnd longest : Bool) (pattern : List Piece)
  | replace (extent : Extent) (pattern by_ : List Piece)
  /-- The value with the letters changed that match a pattern; an empty one matches all. -/
  | letters (how : Lettering) (all : Bool) (pattern : List Piece)
  /-- The value from a place on. -/
  | rest (start : List Piece)
  /-- A part of the value, from a place on. -/
  | part (start length : List Piece)
  | transform (letter : Char)
  /-- A transformation that has no meaning, which matters only if there is something to transform. -/
  | unknown
  /-- No form that has a meaning. -/
  | bad

/-- A word with its text. -/
inductive Word where
  | mk (raw : String) (pieces : List Piece)

/-- An assignment of a text or of a list to a variable or an element. -/
inductive Assign where
  | text (name : String) (subscript : Subscript) (append : Bool) (value : Word)
  | list (name : String) (subscript : Subscript) (append : Bool) (elements : List Element)

/-- An element of a list, perhaps with its key. -/
inductive Element where
  | mk (key : Subscript) (append : Bool) (value : Word)

/-- A redirection. -/
inductive Redirect where
  | file (fd : Handle) (mode : FileMode) (target : Word)
  /-- Both streams of output into one file. -/
  | streams (append : Bool) (target : Word)
  /-- To another descriptor, to nothing, or to a file. -/
  | descriptor (fd : Handle) (reads : Bool) (target : Word)
  /-- From the here-document with a number. -/
  | document (fd : Handle) (number : Nat)
  /-- From a text. -/
  | text (fd : Handle) (word : Word)

/-- A condition. -/
inductive Condition where
  | word (w : Word)
  | unary (op : String) (w : Word)
  | binary (op : String) (a b : Word)
  | negation (c : Condition)
  | both (a b : Condition)
  | either (a b : Condition)
  | group (c : Condition)

/-- An argument of a command: a word, or a list that is assigned. -/
inductive Argument where
  | word (w : Word)
  | assign (a : Assign) (raw : String)

/-- An arm of a choice. -/
inductive Arm where
  | mk (patterns : List Word) (body : Command) (ending : ArmEnd)

/-- A command; those that may fail note their line. -/
inductive Command where
  | nothing
  | simple (line : Nat) (assigns : List Assign) (arguments : List Argument)
      (redirects : List Redirect)
  | redirected (line : Nat) (body : Command) (redirects : List Redirect)
  | pipeline (stages : List Command)
  | negation (body : Command)
  | timed (portable : Bool) (body : Command)
  | both (first second : Command)
  | either (first second : Command)
  | sequence (first second : Command)
  | background (body : Command)
  | subshell (line : Nat) (body : Command)
  | group (body : Command)
  | choice (test yes no : Command)
  | loop (wanted : Bool) (test body : Command)
  /-- A loop over words, or over all arguments. -/
  | each (line : Nat) (name : String) (arguments : Bool) (words : List Word) (body : Command)
  /-- A loop with expressions for its start, its test and its step. -/
  | counting (line : Nat) (start test step : Word) (body : Command)
  /-- A loop over what is chosen from a menu. -/
  | menu (line : Nat) (name : String) (arguments : Bool) (words : List Word) (body : Command)
  | arms (line : Nat) (word : Word) (arms : List Arm)
  | arith (line : Nat) (body : Word)
  | condition (line : Nat) (c : Condition)
  | function (line : Nat) (name : String) (body : Command)
  | coprocess (line : Nat) (name : String) (body : Command)

end

instance : Inhabited Piece := ⟨.plain ' '⟩

instance : Inhabited Command := ⟨.nothing⟩

instance : Inhabited Word := ⟨.mk "" []⟩

instance : Inhabited Form := ⟨.value⟩

instance : Inhabited Subscript := ⟨.none⟩

instance : Inhabited Assign := ⟨.text "" .none false default⟩

instance : Inhabited Element := ⟨.mk .none false default⟩

instance : Inhabited Redirect := ⟨.document (.number 0) 0⟩

instance : Inhabited Condition := ⟨.word default⟩

instance : Inhabited Argument := ⟨.word default⟩

instance : Inhabited Arm := ⟨.mk [] .nothing .stop⟩

namespace Word

/-- The text of a word. -/
def raw : Word → String
  | mk raw _ => raw

/-- The pieces of a word. -/
def pieces : Word → List Piece
  | mk _ pieces => pieces

/-- The text of a word without quotes and without anything that is replaced. -/
def plain? (w : Word) : Option String :=
  (w.pieces.mapM fun (p : Piece) => match p with
    | .plain c => some c
    | _ => none).map String.ofList

end Word

namespace Command

/-- Is there no command? -/
def isNothing : Command → Bool
  | nothing => true
  | _ => false

end Command

/-- A here-document: its text as pieces, or the text alone if nothing in it is replaced. -/
structure Document where
  pieces : List Piece
  /-- The text as it stands, and the mark behind it, for showing commands. -/
  raw : String := ""
  mark : String := ""
  tabs : Bool := false
  /-- Is the mark in front of it quoted? -/
  quoted : Bool := false
  deriving Inhabited

end HardenAudit.ExtendedShell
