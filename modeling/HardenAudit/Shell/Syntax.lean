/-!
# Commands of the shell

The shape of commands and words after they have been read.  A word is a list of pieces: characters,
quoted or not, the marks where quotes stood, and parts that are replaced by values.  Here-documents
are kept apart and are known by their numbers.
-/

namespace HardenAudit.Shell

/-- What a parameter in braces asks for. -/
inductive Form where
  | value
  /-- No form that has a meaning. -/
  | bad
  | length
  /-- A word instead of a missing value; `empty` counts an empty value as missing. -/
  | default (empty : Bool)
  /-- A word instead of a value that is there. -/
  | alternative (empty : Bool)
  /-- A word instead of a missing value, which also becomes the value. -/
  | assign (empty : Bool)
  /-- A complaint about a missing value. -/
  | demand (empty : Bool)
  /-- The value without a part that matches a pattern, at its end or its start. -/
  | trim (atEnd : Bool) (longest : Bool)
  deriving DecidableEq, Repr, Inhabited

/-- How a redirection opens its file. -/
inductive FileMode where
  | input
  | output
  /-- Output that is never refused because the file exists. -/
  | clobber
  | append
  | both
  deriving DecidableEq, Repr, Inhabited

mutual

/-- A piece of a word. -/
inductive Piece where
  | plain (c : Char)
  | quoted (c : Char)
  /-- A place where quotes start or end. -/
  | mark
  | param (name : String) (form : Form) (word : List Piece)
  | command (body : Command)
  | arith (word : List Piece)

/-- A redirection of a descriptor. -/
inductive Redirect where
  | file (fd : Nat) (mode : FileMode) (target : List Piece)
  /-- To another descriptor, or to nothing if the word is a dash. -/
  | descriptor (fd : Nat) (target : List Piece)
  /-- From the here-document with a number, in which parameters may be replaced. -/
  | document (fd : Nat) (number : Nat) (expanded : Bool)

/-- A command; those that may fail note the line on which they start. -/
inductive Command where
  | nothing
  | simple (line : Nat) (assignments words : List (List Piece)) (redirects : List Redirect)
  | pipeline (stages : List Command) (background : Bool)
  | redirected (line : Nat) (body : Command) (redirects : List Redirect)
  | background (line : Nat) (body : Command) (redirects : List Redirect)
  | subshell (line : Nat) (body : Command) (redirects : List Redirect)
  | both (first second : Command)
  | either (first second : Command)
  | sequence (first second : Command)
  | negation (body : Command)
  | choice (test yes no : Command)
  | loop (wanted : Bool) (test body : Command)
  | each (line : Nat) (name : String) (words : List (List Piece)) (body : Command)
  | select (line : Nat) (word : List Piece) (arms : List (List (List Piece) × Command))
  | function (line : Nat) (name : String) (body : Command)

end

/-- A word. -/
abbrev Word := List Piece

instance : Inhabited Piece := ⟨.mark⟩

instance : Inhabited Command := ⟨.nothing⟩

instance : Inhabited Redirect := ⟨.descriptor 0 []⟩

namespace Command

/-- Is there no command? -/
def isNothing : Command → Bool
  | nothing => true
  | _ => false

end Command

/-- Can a name start with the character? -/
def isNameStart (c : Char) : Bool := c == '_' || c.isAlpha

/-- Can a name go on with the character? -/
def isNameChar (c : Char) : Bool := isNameStart c || c.isDigit

/-- Is the text a name? -/
def isName (name : String) : Bool :=
  match name.toList with
  | [] => false
  | c :: rest => isNameStart c && rest.all isNameChar

/-- Is the character the name of a special parameter? -/
def isSpecial (c : Char) : Bool := "!#$*-?@".toList.contains c || c.isDigit

namespace Word

/-- The text of a word without quotes and without anything that is replaced. -/
def plain? (w : Word) : Option String :=
  (w.mapM fun (p : Piece) => match p with
    | .plain c => some c
    | _ => none).map String.ofList

/-- The text of a word after its quotes are taken off; parts that are replaced do not count. -/
def unquoted (w : Word) : String :=
  String.ofList (w.filterMap fun (p : Piece) => match p with
    | .plain c => some c
    | .quoted c => some c
    | _ => none)

/-- The plain characters at the start of a word. -/
def plainStart : Word → List Char
  | .plain c :: rest => c :: plainStart rest
  | _ => []

/-- Does the word assign to a name? -/
def isAssignment (w : Word) : Bool :=
  match plainStart w with
  | c :: rest => isNameStart c && (rest.dropWhile isNameChar).head? == some '='
  | [] => false

end Word
end HardenAudit.Shell
