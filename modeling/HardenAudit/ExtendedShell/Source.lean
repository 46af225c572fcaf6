import HardenAudit.ExtendedShell.Syntax

/-!
# The text that the extended shell reads

A reader stands at a place in a text.  It keeps track of the line, and of the here-documents that are
still due.
-/

namespace HardenAudit.ExtendedShell

/-- Why reading a command failed. -/
inductive Trouble where
  /-- Messages with their lines, and the status that the failure counts as. -/
  | malformed (status : Nat) (messages : List (Nat × String))
  /-- The text ends too early, and more of it may come. -/
  | short
  deriving Repr, Inhabited

/-- A here-document that is still due. -/
structure Due where
  number : Nat
  mark : String
  /-- Are tabs at the start of its lines taken off? -/
  tabs : Bool
  /-- Is anything in it replaced? -/
  expanded : Bool
  deriving Repr, Inhabited

/-- A reader. -/
structure Reader where
  chars : Array Char
  place : Nat := 0
  line : Nat := 1
  /-- May more text come after the end? -/
  more : Bool := false
  due : List Due := []
  documents : Array Document := #[]
  /-- Are groups of alternatives read in all patterns? -/
  groups : Bool := false
  aliases : List (String × String) := []
  /-- Aliases that were put in, with the places up to which they are not put in again. -/
  replaced : List (String × Nat) := []
  /-- Places behind which the next word may be an alias, even if no command starts there. -/
  aliasPlaces : List Nat := []
  /-- Parts of the text that are shown in another way: where they start and end, and how they are shown. -/
  respelled : List (Nat × Nat × String) := []
  /-- What is to be said about the text without failing. -/
  warnings : List (Nat × String) := []
  deriving Inhabited

/-- Reading, which may fail. -/
abbrev Read := StateT Reader (Except Trouble)

namespace Read

/-- The character at a distance; none at the end. -/
def peek (distance : Nat := 0) : Read (Option Char) := do
  let r ← get
  match r.chars[r.place + distance]? with
  | some c => pure (some c)
  | none => if r.more then throw .short else pure none

/-- A test that is made only if something holds, so that nothing is looked at in vain. -/
def provided (holds : Bool) (test : Read Bool) : Read Bool := if holds then test else pure false

/-- Is a character at a distance? -/
def isAt (distance : Nat) (c : Char) : Read Bool := do pure ((← peek distance) == some c)

/-- Goes on by one character. -/
def advance : Read Unit := modify fun r =>
  match r.chars[r.place]? with
  | some '\n' => { r with place := r.place + 1, line := r.line + 1 }
  | some _ => { r with place := r.place + 1 }
  | none => r

/-- Goes on by so many characters. -/
def skip : (count : Nat) → Read Unit
  | 0 => pure ()
  | count + 1 => do
    advance
    skip count

/-- The next character, which is passed over. -/
def next : Read (Option Char) := do
  let c ← peek
  advance
  pure c

/-- Does the text go on with some characters? -/
def sees (text : String) : Read Bool := do
  let r ← get
  let wanted := text.toList
  let ahead := (r.chars.extract r.place (r.place + wanted.length)).toList
  if ahead == wanted then pure true
  else
    -- the end of the text may hide the rest
    if r.more && ahead.isPrefixOf wanted then throw .short
    pure false

/-- Passes over some characters if the text goes on with them. -/
def take? (text : String) : Read Bool := do
  if ← sees text then
    skip text.length
    pure true
  else pure false

/-- The text between a place and the current one. -/
def since (start : Nat) : Read String := do
  let r ← get
  pure (String.ofList (r.chars.extract start r.place).toList)

/-- Lets the text between a place and the current one be shown in another way. -/
def respell (start : Nat) (text : String) : Read Unit := modify fun r =>
  { r with respelled := (start, r.place, text) :: r.respelled.filter (·.1 < start) }

/-- The text between a place and the current one as it is shown. -/
def spelled (start : Nat) : Read String := do
  let r ← get
  let inside := r.respelled.filter fun e => decide (start ≤ e.1)
  let slice (a b : Nat) : String := String.ofList (r.chars.extract a b).toList
  let (text, stop) := inside.foldr (fun e ((text, place) : String × Nat) =>
    (text ++ slice place e.1 ++ e.2.2, e.2.1)) ("", start)
  pure (text ++ slice stop r.place)

/-- Repeats a step until it gives a result; `limit` bounds the repetitions. -/
def iterate {σ α : Type} (step : σ → Read (σ ⊕ α)) : (limit : Nat) → σ → Read α
  | 0, _ => throw .short
  | limit + 1, s => do
    match ← step s with
    | .inl s => iterate step limit s
    | .inr a => pure a

/-- More repetitions than any text has characters. -/
def endless : Nat := 0x1000000000

/-! ## Complaints -/

/-- The line on which the text ends, if one counts the end as a line of its own. -/
def endLine (r : Reader) : Nat :=
  let breaks := r.chars.foldl (fun n c => if c == '\n' then n + 1 else n) 0
  match r.chars.back? with
  | none | some '\n' => breaks + 1
  | _ => breaks + 2

/-- The text of the line at a place. -/
def lineText (r : Reader) (place : Nat) : String :=
  let before := (r.chars.extract 0 place).toList.reverse.takeWhile (· != '\n')
  let after := (r.chars.extract place r.chars.size).toList.takeWhile (· != '\n')
  String.ofList (before.reverse ++ after)

/-- Fails with messages about the current line. -/
def complain {α : Type} (messages : List String) (status : Nat := 2) : Read α := do
  let r ← get
  throw (.malformed status (messages.map fun m => (r.line, m)))

/-- Fails because the text ends too early. -/
def complainEnd {α : Type} : Read α := do
  let r ← get
  throw (.malformed 2 [(endLine r, "syntax error: unexpected end of file")])

/-- Fails because a mark is missing that was opened on some line. -/
def complainUnmatched {α : Type} (line : Nat) (mark : String) : Read α :=
  throw (.malformed 2 [(line, "unexpected EOF while looking for matching \x60" ++ mark ++ "\x27")])

/-- Fails because of what stands at the current place. -/
def complainToken {α : Type} (token : String) (status : Nat := 2) : Read α := do
  let r ← get
  complain ["syntax error near unexpected token \x60" ++ token ++ "\x27",
    "\x60" ++ lineText r r.place ++ "\x27"] status

/-! ## Blanks and words -/

/-- Characters that end a word. -/
def isMeta (c : Char) : Bool := " \t\n;&|<>()".toList.contains c

/-- Passes over blanks, joined lines and comments. -/
def skipBlanks : Read Unit :=
  iterate (fun (_ : Unit) => do
    match ← peek with
    | some ' ' | some '\t' =>
      advance
      pure (.inl ())
    | some '\\' =>
      if (← peek 1) == some '\n' then
        skip 2
        pure (.inl ())
      else pure (.inr ())
    | some '#' =>
      iterate (fun (_ : Unit) => do
        match ← peek with
        | none | some '\n' => pure (.inr ())
        | some _ =>
          advance
          pure (.inl ())) endless ()
      pure (.inl ())
    | _ => pure (.inr ())) endless ()

/-- The characters from the current place on that are part of a plain word. -/
def plainRun (r : Reader) : List Char :=
  ((r.chars.extract r.place (r.place + 64)).toList).takeWhile fun c =>
    !isMeta c && !"\"\x27\\$\x60".toList.contains c

/-- The word that comes next, if it has no quotes and nothing that is replaced. -/
def plainWord? : Read (Option String) := do
  let r ← get
  let word := plainRun r
  if word.isEmpty then
    let _ ← peek
    pure none
  else
    match ← peek word.length with
    | none => pure (some (String.ofList word))
    | some c => pure (if isMeta c then some (String.ofList word) else none)

/-- Is a certain word next? -/
def seesWord (word : String) : Read Bool := do pure ((← plainWord?) == some word)

/-- Takes a certain word if it is next. -/
def takeWord? (word : String) : Read Bool := do
  if ← seesWord word then
    skip word.length
    pure true
  else pure false

/-- The marks between commands, longer ones first. -/
def operators : List String :=
  ["&&", "||", ";;&", ";;", ";&", ";", "&>>", "&>", "&", "|&", "|", "(", ")", "<<<", "<<-", "<<", "<&",
   "<>", "<", ">>", ">&", ">|", ">"]

/-- The mark that comes next, unless it starts the path of a pipe. -/
def operator? : Read (Option String) := do
  match ← peek with
  | none => pure none
  | some c =>
    if !";&|()<>".toList.contains c then pure none
    else
      let r ← get
      -- the longest mark has three characters; the end of the text may hide a part of it
      let ahead := (r.chars.extract r.place (r.place + 3)).toList
      let isCut := ahead.length < 3 && operators.any fun o =>
        ahead.isPrefixOf o.toList && ahead.length < o.length
      if r.more && isCut then throw .short
      if (c == '<' || c == '>') && ahead[1]? == some '(' then pure none
      else pure (operators.find? fun o => o.toList.isPrefixOf ahead)

/-- The operator that comes next is a certain one. -/
def seesOperator (o : String) : Read Bool := do pure ((← operator?) == some o)

/-- Takes an operator if it is next. -/
def takeOperator? (o : String) : Read Bool := do
  if ← seesOperator o then
    skip o.length
    pure true
  else pure false

end Read
end HardenAudit.ExtendedShell
