import HardenAudit.ExtendedShell.Printing
import HardenAudit.ExtendedShell.Source
import HardenAudit.Shell.Number
import HardenAudit.Text.Utf8

/-!
# Reading words

A word is read piece by piece.  What a character means depends on where it stands; each such place is
a surrounding.  Since a word may hold commands, and commands hold words, the readers of both are given
as an argument.
-/

namespace HardenAudit.ExtendedShell

open Shell (digitValue? isNameChar isNameStart)

/-- Where pieces are read, and so where they end. -/
inductive Surrounding where
  /-- Outside of quotes, up to a character that ends a word. -/
  | word
  /-- In double quotes that were opened on a line. -/
  | double (line : Nat)
  /-- In a parameter in braces, which may be in double quotes. -/
  | brace (line : Nat) (quoted : Bool)
  /-- In the pattern of a replacement, which ends with a slash. -/
  | pattern (line : Nat)
  /-- In the place or the length of a part, which may end with a colon. -/
  | offset (line : Nat)
  /-- In an expression in two parentheses. -/
  | arith (line : Nat)
  /-- In an expression in brackets. -/
  | bracket (line : Nat)
  /-- In a subscript, which may be one in braces. -/
  | subscript (braced : Bool)
  /-- In a group of alternatives of a pattern. -/
  | group
  /-- In a regular expression of a condition. -/
  | regex
  /-- In a text that ends with the reader's. -/
  | document
  /-- In an expression that is all of the reader's text. -/
  | expression
  deriving DecidableEq, Repr, Inhabited

namespace Surrounding

/-- Is it like double quotes, so that single quotes and most backslashes have no meaning? -/
def isQuoted : Surrounding → Bool
  | double _ | arith _ | bracket _ | document | offset _ | expression => true
  | brace _ quoted => quoted
  | _ => false

end Surrounding

/-- The readers of pieces, of one command, and of commands up to something that does not belong to
them. -/
structure Parts where
  pieces : Surrounding → Read (List Piece)
  command : Read Command
  commands : Read Command

instance : Inhabited Parts := ⟨fun _ => throw .short, throw .short, throw .short⟩

/-- Is the character the name of a special parameter? -/
def isSpecialName (c : Char) : Bool := "@*#?-$!".toList.contains c || c.isDigit

/-! ## Escapes in quotes behind a dollar -/

/-- A number in a base at the start of a text, of so many digits at most, and the rest; none if there
is no digit. -/
def digitsAt? (base most : Nat) (cs : List Char) : Option (Nat × List Char) :=
  let ds := (cs.take most).takeWhile fun c => (digitValue? base c).isSome
  if ds.isEmpty then none else some ((Shell.digits base ds 0 0).1, cs.drop ds.length)

/-- The character with a code as raw text. -/
def codeText (code : Nat) : List Char :=
  if code < 0x80 then [Char.ofNat code]
  else (Text.Raw.ofBytes (String.singleton (Char.ofNat code)).toUTF8.toList).toList

/-- The text of an escape behind its backslash, and the rest; none if it has no meaning.  `dollar` is
for quotes behind a dollar. -/
def escape? (dollar : Bool) (cs : List Char) : Option (List Char × List Char) :=
  match cs with
  | [] => none
  | c :: rest =>
    let one (n : Nat) : Option (List Char × List Char) := some ([Char.ofNat n], rest)
    match c with
    | 'a' => one 7
    | 'b' => one 8
    | 'e' | 'E' => one 27
    | 'f' => one 12
    | 'n' => one 10
    | 'r' => one 13
    | 't' => one 9
    | 'v' => one 11
    | '\\' => some (['\\'], rest)
    | '"' => if dollar then some (['"'], rest) else none
    | '\x27' => if dollar then some (['\x27'], rest) else none
    | '?' => if dollar then some (['?'], rest) else none
    | 'x' => (digitsAt? 16 2 rest).map fun r => ([Char.ofNat (r.1 % 256)], r.2)
    | 'u' => (digitsAt? 16 4 rest).map fun r => (codeText r.1, r.2)
    | 'U' => (digitsAt? 16 8 rest).map fun r => (codeText r.1, r.2)
    | 'c' =>
      match dollar, rest with
      | true, d :: rest => some ([Char.ofNat (d.toUpper.toNat % 32)], rest)
      | _, _ => none
    | _ =>
      if dollar && (digitValue? 8 c).isSome then
        (digitsAt? 8 3 cs).map fun r => ([Char.ofNat (r.1 % 256)], r.2)
      else none

/-- A text in quotes behind a dollar, with its escapes replaced; a character zero ends it.  Each round
takes a character, so `limit` may be the length. -/
def unescapeDollar : (limit : Nat) → List Char → List Char
  | 0, _ => []
  | _, [] => []
  | limit + 1, '\\' :: rest =>
    match escape? true rest with
    | some (text, rest) => if text == [Char.ofNat 0] then [] else text ++ unescapeDollar limit rest
    | none => '\\' :: unescapeDollar limit rest
  | limit + 1, c :: rest => c :: unescapeDollar limit rest

namespace Read

/-- Reads the inside of single quotes, behind the first one; behind a dollar backslashes count. -/
def singleQuoted (line : Nat) (dollar : Bool) : Read String := do
  let start := (← get).place
  iterate (fun (_ : Unit) => do
    match ← peek with
    | none => complainUnmatched line "\x27"
    | some '\x27' => pure (.inr ())
    | some '\\' =>
      if dollar then skip 2 else advance
      pure (.inl ())
    | some _ =>
      advance
      pure (.inl ())) endless ()
  let text ← since start
  advance
  pure (if dollar then String.ofList (unescapeDollar (text.length + 1) text.toList) else text)

/-- Reads the text of an old-style command substitution behind its first mark. -/
def backquoted (line : Nat) (quoted : Bool) : Read String :=
  iterate (fun (out : List Char) => do
    match ← next with
    | none => complainUnmatched line "\x60"
    | some '\x60' => pure (.inr (String.ofList out.reverse))
    | some '\\' =>
      match ← next with
      | none => complainUnmatched line "\x60"
      | some d =>
        if d == '\\' || d == '\x60' || d == '$' || (quoted && d == '"') then pure (.inl (d :: out))
        else pure (.inl (d :: '\\' :: out))
    | some c => pure (.inl (c :: out))) endless []

/-- Does an expression in two parentheses stand here, behind the first two?  If so, where does it end? -/
def expressionEnd? : Read (Option Nat) := do
  let r ← get
  let rec go : (limit : Nat) → (place depth : Nat) → (quote : Option Char) → Option (Option Nat)
    | 0, _, _, _ => none
    | limit + 1, place, depth, quote =>
      match r.chars[place]?, quote with
      | none, _ => none
      | some '\\', _ => go limit (place + 2) depth quote
      | some c, some q => go limit (place + 1) depth (if c == q then none else quote)
      | some c, none =>
        if c == '"' || c == '\x27' then go limit (place + 1) depth (some c)
        else if c == '(' then go limit (place + 1) (depth + 1) none
        else if c == ')' then
          if depth > 0 then go limit (place + 1) (depth - 1) none
          else some (if r.chars[place + 1]? == some ')' then some place else none)
        else go limit (place + 1) depth none
  match go (r.chars.size + 1) r.place 0 none with
  | some found => pure found
  | none =>
    if r.more then throw .short
    complainUnmatched r.line ")"

section
variable (self : Parts)

/-- Commands in parentheses, behind the first one. -/
def enclosed : Read Command := do
  let outer := (← get).due
  modify fun r => { r with due := [] }
  let unmatched {α : Type} : Read α := do
    let r ← get
    complainUnmatched (endLine r) ")"
  let body ← tryCatch self.commands fun (t : Trouble) => match t with
    | .malformed _ messages =>
      if messages.any fun m => m.2 == "syntax error: unexpected end of file" then unmatched
      else throw (.malformed 127 messages)
    | .short => throw .short
  skipBlanks
  match ← peek with
  | some ')' => advance
  | none => unmatched
  | some _ =>
    match ← operator? with
    | some o => complainToken o 127
    | none => complainToken ((← plainWord?).getD "") 127
  modify fun r => { r with due := outer }
  pure body

/-- Commands in parentheses that stand in a word, behind the first parenthesis; they are shown in the standard
layout, unless they take several lines. -/
def enclosedInWord : Read Command := do
  let start := (← get).place
  let body ← enclosed self
  let r ← get
  let source := r.chars.extract start r.place
  if !source.contains '\n' then
    let text := body.text r.documents
    respell start ((if text.startsWith "(" then " " else "") ++ text ++ ")")
  pure body

/-- A subscript behind its bracket, up to the closing one; none if the braces around it end before. -/
def subscript? (braced : Bool) : Read (Option Subscript) := do
  if ← take? "@]" then pure (some .each)
  else if ← take? "*]" then pure (some .star)
  else
    let start := (← get).place
    let pieces ← self.pieces (.subscript braced)
    let raw ← spelled start
    match ← peek with
    | some ']' =>
      advance
      pure (if braced && raw == "" then none else some (.index (.mk raw pieces)))
    | some _ => pure none
    | none => complainUnmatched (← get).line (if braced then "\x7d" else "]")

/-- The name of a parameter in braces. -/
def parameterName : Read (Option String) := do
  match ← peek with
  | none => pure none
  | some c =>
    let start := (← get).place
    let run (test : Char → Bool) : Read (Option String) := do
      iterate (fun (_ : Unit) => do
        match ← peek with
        | some d =>
          if test d then
            advance
            pure (.inl ())
          else pure (.inr ())
        | none => pure (.inr ())) endless ()
      some <$> since start
    if isNameStart c then run isNameChar
    else if c.isDigit then run Char.isDigit
    else if isSpecialName c then
      advance
      pure (some c.toString)
    else pure none

/-- The name and the subscript of a parameter in braces. -/
def subscripted : Read (Option (String × Subscript)) := do
  match ← parameterName with
  | none => pure none
  | some name =>
    if ← provided (Shell.isName name) (take? "[") then
      let s ← subscript? self true
      pure (s.map (name, ·))
    else pure (some (name, .none))

/-- Passes over the rest of a parameter that has no meaning. -/
def passOver (line : Nat) : Read Unit := do
  let _ ← self.pieces (.brace line true)

/-- What is asked of a parameter, from the place behind its name on. -/
def form (line : Nat) (quoted : Bool) : Read Form := do
  let remedy? (c : Option Char) : Option Remedy := match c with
    | some '-' => some .default
    | some '=' => some .assign
    | some '?' => some .demand
    | some '+' => some .alternative
    | _ => none
  let word : Read (List Piece) := self.pieces (.brace line quoted)
  let pattern : Read (List Piece) := self.pieces (.brace line false)
  let trimmed (c : String) (atEnd : Bool) : Read Form := do
    advance
    let longest ← take? c
    let p ← pattern
    pure (.trim atEnd longest p)
  let lettered (c : String) (how : Lettering) : Read Form := do
    advance
    let all ← take? c
    let p ← pattern
    pure (.letters how all p)
  let c ← peek
  match c with
  | some '\x7d' => pure .value
  | some ':' =>
    match remedy? (← peek 1) with
    | some r =>
      skip 2
      let w ← word
      pure (.remedy r true w)
    | none =>
      advance
      if (← peek) == some '\x7d' then pure .bad
      else
        let start ← self.pieces (.offset line)
        if ← take? ":" then
          let length ← self.pieces (.offset line)
          pure (.part start length)
        else pure (.rest start)
  | some '#' => trimmed "#" false
  | some '%' => trimmed "%" true
  | some '^' => lettered "^" .upper
  | some ',' => lettered "," .lower
  | some '~' => lettered "~" .toggled
  | some '/' =>
    advance
    let extent : Extent ←
      if ← take? "/" then pure .all
      else if ← take? "#" then pure .atStart
      else if ← take? "%" then pure .atEnd
      else pure .first
    let p ← self.pieces (.pattern line)
    if ← take? "/" then
      let by_ ← pattern
      pure (.replace extent p by_)
    else pure (.replace extent p [])
  | some '@' =>
    match ← peek 1 with
    | some letter =>
      if ← provided ("UuLQEPAKak".toList.contains letter) (isAt 2 '\x7d') then
        skip 2
        pure (.transform letter)
      else
        passOver self line
        pure .unknown
    | none => pure .bad
  | _ =>
    match remedy? c with
    | some r =>
      advance
      let w ← word
      pure (.remedy r false w)
    | none => pure .bad

/-- A parameter in braces, from its dollar on. -/
def braced (quoted : Bool) : Read Piece := do
  let r ← get
  let start := r.place
  let line := r.line
  skip 2
  let finish (name : String) (s : Subscript) (indirect : Bool) (f : Form) : Read Piece := do
    let closed := (← peek) == some '\x7d'
    if !closed then passOver self line
    match ← next with
    | some _ => pure ()
    | none => complainUnmatched line "\x7d"
    let raw ← spelled start
    pure (.param name s indirect (if closed then f else .bad) raw)
  let ordinary (indirect : Bool) : Read Piece := do
    match ← subscripted self with
    | none => finish "" .none indirect .bad
    | some (name, s) =>
      let after ← peek
      let closes := (← peek 1) == some '\x7d'
      let isName := Shell.isName name
      match indirect, s, after with
      | true, .none, some '*' =>
        if isName && closes then
          advance
          finish name s false (.names true)
        else
          let f ← form self line quoted
          finish name s indirect f
      | true, .none, some '@' =>
        if isName && closes then
          advance
          finish name s false (.names false)
        else
          let f ← form self line quoted
          finish name s indirect f
      | _, _, _ =>
        let f ← form self line quoted
        finish name s indirect f
  let c ← peek
  let d ← peek 1
  if c == some '#' && d != some '\x7d' then
    -- the length of something, or something asked of the number of arguments
    let special := match d with
      | some d => "-?#".toList.contains d
      | none => false
    let named := match d with
      | some d => isNameStart d || isSpecialName d
      | none => false
    let alone ← provided (named && special) (isAt 2 '\x7d')
    if named && (!special || alone) then
      advance
      match ← subscripted self with
      | some (name, s) => finish name s false .length
      | none => finish "" .none false .bad
    else ordinary false
  else if c == some '!' && d != some '\x7d' then
    let named := match d with
      | some d => isNameStart d || isSpecialName d
      | none => false
    if named && d != some '-' && d != some '?' then
      advance
      ordinary true
    else ordinary false
  else ordinary false

/-- What a dollar starts. -/
def dollar (here : Surrounding) : Read (List Piece) := do
  let r ← get
  let quoted := here.isQuoted
  match ← peek 1 with
  | some '(' =>
    if (← peek 2) == some '(' then
      skip 3
      match ← expressionEnd? with
      | some _ =>
        let body ← self.pieces (.arith r.line)
        pure [.arith body]
      | none =>
        set r
        skip 2
        let body ← enclosedInWord self
        pure [.command body]
    else
      skip 2
      let body ← enclosedInWord self
      pure [.command body]
  | some '\x7b' =>
    let p ← braced self quoted
    pure [p]
  | some '[' =>
    skip 2
    let body ← self.pieces (.bracket r.line)
    pure [.arith body]
  | some '\x27' =>
    if quoted && !(here matches .brace ..) then
      advance
      pure [.plain '$']
    else
      skip 2
      let text ← singleQuoted r.line true
      respell r.place (if quoted then text else Quoting.single text)
      pure [.single text]
  | some '"' =>
    advance
    if quoted then pure [.plain '$']
    else
      respell r.place ""
      advance
      let body ← self.pieces (.double r.line)
      pure [.double body]
  | some c =>
    advance
    if isNameStart c then
      match ← parameterName with
      | some name => pure [.param name .none false .value ("$" ++ name)]
      | none => pure [.plain '$']
    else if isSpecialName c then
      advance
      pure [.param c.toString .none false .value ("$" ++ c.toString)]
    else pure [.plain '$']
  | none =>
    advance
    pure [.plain '$']

/-- Pieces that are being read. -/
structure Gathering where
  /-- The pieces so far, in reverse. -/
  done : List Piece := []
  /-- Open parentheses and brackets. -/
  depth : Nat := 0
  /-- Question marks whose colons have not come. -/
  questions : Nat := 0
  deriving Inhabited

/-- A backslash. -/
def backslash (here : Surrounding) : Read (List Piece) := do
  match ← peek 1 with
  | none =>
    advance
    pure [.plain '\\']
  | some '\n' =>
    let start := (← get).place
    skip 2
    respell start ""
    pure []
  | some d =>
    if here.isQuoted then
      let removes := d == '$' || d == '\x60' || d == '\\'
        || (d == '"' && here != .document) || (d == '\x7d' && here matches .brace ..)
      if removes then
        skip 2
        pure [.escaped d]
      else
        advance
        pure [.plain '\\']
    else
      skip 2
      pure [.escaped d]

/-- Does the character end the pieces? -/
def endsHere (here : Surrounding) (g : Gathering) (c : Char) : Read Bool := do
  match here with
  | .word => pure (isMeta c)
  | .double _ => pure (c == '"')
  | .brace .. => pure (c == '\x7d')
  | .pattern _ => pure (c == '\x7d' || c == '/')
  | .offset _ => pure (c == '\x7d' || (c == ':' && g.depth = 0 && g.questions = 0))
  | .arith _ => pure (c == ')' && g.depth = 0)
  | .bracket _ => pure (c == ']' && g.depth = 0)
  | .subscript braced => pure ((c == ']' && g.depth = 0) || (braced && c == '\x7d'))
  | .group => pure (c == ')')
  | .regex => pure (g.depth = 0 && " \t\n);&<>".toList.contains c)
  | .document | .expression => pure false

/-- The mark that is missing at the end of the text. -/
def missingMark (here : Surrounding) : Option (Nat × String) :=
  match here with
  | .double line => some (line, "\"")
  | .brace line _ | .pattern line | .offset line => some (line, "\x7d")
  | .arith line => some (line, ")")
  | .bracket line => some (line, "]")
  | _ => none

/-- A character that is part of the pieces. -/
def ordinaryPiece (here : Surrounding) (g : Gathering) (c : Char) : Read Gathering := do
  let r ← get
  let put (ps : List Piece) : Gathering := { g with done := ps.reverse ++ g.done }
  match c with
  | '\\' =>
    let ps ← backslash here
    pure (put ps)
  | '$' =>
    let ps ← dollar self here
    pure (put ps)
  | '\x60' =>
    advance
    let text ← backquoted r.line here.isQuoted
    pure (put [.backquote text])
  | '\x27' =>
    advance
    if here.isQuoted then pure (put [.plain c])
    else
      let text ← singleQuoted r.line false
      pure (put [.single text])
  | '"' =>
    advance
    match here with
    | .document => pure (put [.plain c])
    | .arith _ | .bracket _ | .offset _ | .expression => pure g
    | _ =>
      let body ← self.pieces (.double r.line)
      pure (put [.double body])
  | _ =>
    let opens := match here with
      | .arith _ | .offset _ | .regex => c == '('
      | .bracket _ | .subscript _ => c == '['
      | _ => false
    let closes := match here with
      | .arith _ | .offset _ | .regex => c == ')'
      | .bracket _ | .subscript _ => c == ']'
      | _ => false
    let starts := match here with
      | .word | .group | .pattern _ | .brace _ false => "?*+@!".toList.contains c
      | _ => false
    if ← provided (starts && r.groups) (isAt 1 '(') then
      skip 2
      let inside ← self.pieces .group
      match ← next with
      | some _ => pure ()
      | none => complainUnmatched r.line ")"
      pure (put ([.plain c, .plain '('] ++ inside ++ [.plain ')']))
    else if here == .group && c == '(' then
      advance
      let inside ← self.pieces .group
      match ← next with
      | some _ => pure ()
      | none => complainUnmatched r.line ")"
      pure (put ([.plain '('] ++ inside ++ [.plain ')']))
    else
      advance
      let g := put [.plain c]
      let g := if opens then { g with depth := g.depth + 1 } else g
      let g := if closes then { g with depth := g.depth - 1 } else g
      match here with
      | .offset _ =>
        pure (if c == '?' then { g with questions := g.questions + 1 }
          else if c == ':' then { g with questions := g.questions - 1 } else g)
      | _ => pure g

/-- Is the piece a parameter of which nothing is asked that has a meaning? -/
def isMeaningless : Piece → Bool
  | .param _ _ _ .bad _ | .param _ _ _ .unknown _ => true
  | _ => false

/-- The pieces of a text; those without a meaning are reported with all of it. -/
def gathered (start : Nat) (g : Gathering) : Read (List Piece) := do
  if g.done.any isMeaningless then
    let raw ← spelled start
    pure (g.done.reverse.map fun p => match p with
      | .param name s indirect .bad _ => .param name s indirect .bad raw
      | .param name s indirect .unknown _ => .param name s indirect .unknown raw
      | p => p)
  else pure g.done.reverse

/-- Reads pieces up to the end of their surrounding.  Double quotes and expressions are passed over
with their ends; other ends stay. -/
def piecesIn (here : Surrounding) : Read (List Piece) := do
  let start := (← get).place
  iterate (fun (g : Gathering) => do
    match ← peek with
    | none =>
      match missingMark here with
      | some (line, mark) => complainUnmatched line mark
      | none =>
        if here == .regex && g.depth > 0 then complainUnmatched (← get).line ")"
        let pieces ← gathered start g
        pure (.inr pieces)
    | some c =>
      if ← endsHere here g c then
        if ← provided (here == .word && (c == '<' || c == '>')) (isAt 1 '(') then
          skip 2
          let body ← enclosedInWord self
          pure (.inl { g with done := .process (c == '<') body :: g.done })
        else
          let pieces ← gathered start g
          match here with
          | .double _ | .bracket _ => advance
          | .arith _ => skip 2
          | _ => pure ()
          pure (.inr pieces)
      else
        let g ← ordinaryPiece self here g c
        pure (.inl g)) endless {}

/-- A word with its text. -/
def wordIn (here : Surrounding) : Read Word := do
  let start := (← get).place
  let pieces ← self.pieces here
  let raw ← spelled start
  pure (.mk raw pieces)

end

/-- Reads all of a text as a word, with readers for what is in it. -/
def wordOf (self : Parts) (here : Surrounding) (text : String) : Read Word := do
  let outer ← get
  set { outer with chars := text.toList.toArray, place := 0, more := false, respelled := [] }
  let w ← wordIn self here
  modify fun r => { outer with documents := r.documents }
  pure w

end Read
end HardenAudit.ExtendedShell
