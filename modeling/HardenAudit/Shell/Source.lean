import HardenAudit.Shell.Syntax

/-!
# The text that a shell reads

Characters come from the text itself or from aliases that were put in front of it.  A reader keeps
track of the line, of the last token, and of the here-documents that are still due.
-/

namespace HardenAudit.Shell

/-! ## Tokens

The tokens with the wordings that complaints use for them.
-/

/-- The tokens; a word keeps its pieces elsewhere. -/
inductive Token where
  | eof
  | newline
  | semicolon
  | ampersand
  | and
  | or
  | pipe
  | leftParen
  | rightParen
  | endCase
  | redirect
  | word
  /-- A reserved word. -/
  | reserved (text : String)
  deriving DecidableEq, Repr, Inhabited

namespace Token

/-- The token as complaints show it. -/
def shown : Token → String
  | eof => "end of file"
  | newline => "newline"
  | semicolon => "\";\""
  | ampersand => "\"&\""
  | and => "\"&&\""
  | or => "\"||\""
  | pipe => "\"|\""
  | leftParen => "\"(\""
  | rightParen => "\")\""
  | endCase => "\";;\""
  | redirect => "redirection"
  | word => "word"
  | reserved text => "\"" ++ text ++ "\""

/-- The reserved words. -/
def reservedWords : List String :=
  ["!", "case", "do", "done", "elif", "else", "esac", "fi", "for", "if", "in", "then", "until",
   "while", "\x7b", "\x7d"]

/-- Does the token end a list of commands? -/
def endsList : Token → Bool
  | eof | rightParen | endCase => true
  | reserved text => ["do", "done", "elif", "else", "esac", "fi", "then", "\x7d"].contains text
  | _ => false

end Token

/-! ## Readers -/

/-- Why reading a command failed. -/
inductive Trouble where
  | malformed (line : Nat) (message : String)
  /-- The text ends too early, and more of it may come. -/
  | short
  deriving Repr, Inhabited

/-- The text of an alias in front of the rest. -/
structure Layer where
  chars : List Char
  name : String
  /-- Does the text end in a blank, so that the next word may be an alias as well? -/
  leaves : Bool := false
  deriving Repr, Inhabited

/-- What the next token may be taken for. -/
structure Check where
  aliased : Bool := false
  reserved : Bool := false
  /-- Are line ends before it skipped? -/
  newline : Bool := false
  /-- Is it the mark at the end of a here-document, in which nothing is replaced? -/
  marker : Bool := false
  deriving Repr, Inhabited

/-- How a redirection that is being read goes on. -/
inductive RedirectKind where
  | file (mode : FileMode)
  | descriptor
  | document (tabs : Bool)
  deriving Repr, Inhabited

/-- A here-document that is still due. -/
structure Due where
  number : Nat
  mark : String
  /-- Are tabs at the start of its lines taken off? -/
  tabs : Bool
  expanded : Bool
  deriving Repr, Inhabited

/-- A reader. -/
structure Reader where
  layers : List Layer := []
  text : List Char
  /-- May more text come after the end? -/
  more : Bool := false
  line : Nat := 1
  /-- Is the last token to be read again? -/
  pushed : Bool := false
  token : Token := .eof
  word : Word := []
  /-- Were there quotes in the last word? -/
  quoted : Bool := false
  redirect : Nat × RedirectKind := (0, .descriptor)
  check : Check := {}
  due : List Due := []
  documents : Array Word := #[]
  aliases : List (String × String) := []
  deriving Inhabited

/-- Reading, which may fail. -/
abbrev Read := StateT Reader (Except Trouble)

namespace Read

/-- Fails with a complaint about the current line. -/
def complain {α : Type} (message : String) : Read α := do
  throw (.malformed (← get).line message)

/-- Fails because of the last token. -/
def unexpected {α : Type} (wanted : Option Token) : Read α := do
  let r ← get
  match wanted with
  | some t => complain (r.token.shown ++ " unexpected (expecting " ++ t.shown ++ ")")
  | none => complain (r.token.shown ++ " unexpected")

/-- The next character from a reader; an alias that is read to its end is left. -/
def take : (layers : List Layer) → Reader → Except Trouble (Option Char × Reader)
  | ⟨c :: rest, name, leaves⟩ :: below, r =>
    .ok (some c, { r with layers := ⟨rest, name, leaves⟩ :: below })
  | ⟨[], _, leaves⟩ :: below, r =>
    take below { r with layers := below, check := { r.check with aliased := r.check.aliased || leaves } }
  | [], r =>
    match r.text with
    | c :: rest => .ok (some c, { r with layers := [], text := rest })
    | [] => if r.more then .error .short else .ok (none, { r with layers := [] })

/-- The next character; none at the end. -/
def next : Read (Option Char) := fun r => do
  let (c, r) ← take r.layers r
  pure (c, r)

/-- Puts a character back. -/
def unread (c : Option Char) : Read Unit :=
  match c with
  | none => pure ()
  | some c => modify fun r =>
    match r.layers with
    | layer :: below => { r with layers := { layer with chars := c :: layer.chars } :: below }
    | [] => { r with text := c :: r.text }

/-- Notes the end of a line. -/
def newLine : Read Unit := modify fun r => { r with line := r.line + 1 }

/-- Repeats a step until it gives a result; `limit` bounds the repetitions. -/
def iterate {σ α : Type} (step : σ → Read (σ ⊕ α)) : (limit : Nat) → σ → Read α
  | 0, _ => throw .short
  | limit + 1, s => do
    match ← step s with
    | .inl s => iterate step limit s
    | .inr a => pure a

/-- More repetitions than any text has characters. -/
def endless : Nat := 0x1000000000

/-- The next character after line ends that are hidden by a backslash. -/
def nextJoined : Read (Option Char) :=
  iterate (fun _ => do
    let c ← next
    if c == some '\\' then
      let d ← next
      if d == some '\n' then
        newLine
        pure (.inl ())
      else
        unread d
        pure (.inr c)
    else pure (.inr c)) endless ()

/-- Sets what the next token may be taken for. -/
def setCheck (check : Check) : Read Unit := modify fun r => { r with check := check }

/-- Lets the last token be read again. -/
def pushBack : Read Unit := modify fun r => { r with pushed := true }

/-- Notes a token. -/
def found (t : Token) : Read Token := do
  modify fun r => { r with token := t }
  pure t

end Read
end HardenAudit.Shell
