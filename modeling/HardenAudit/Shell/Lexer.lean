import HardenAudit.Shell.Source

/-!
# Reading words

A word is read character by character.  What a character means depends on where it stands: outside
of quotes, inside of double or single quotes, or in an arithmetic expression; a parameter in braces
may start such a surrounding of its own.  The result is first a flat row of items, in which the ends
of parameters and expressions are marked, and then a word.
-/

namespace HardenAudit.Shell

/-- Where a character of a word stands. -/
inductive Surrounding where
  | base
  | double
  | single
  | arith
  deriving DecidableEq, Repr, Inhabited

/-- One surrounding with what is open in it. -/
structure Frame where
  surrounding : Surrounding
  doubled : Bool := false
  /-- Open braces, and those of them that stand in double quotes. -/
  braces : Nat := 0
  doubledBraces : Nat := 0
  /-- Are there double quotes inside of a brace? -/
  inner : Bool := false
  /-- Was the surrounding started by a brace? -/
  started : Bool := false
  parens : Nat := 0
  deriving Repr, Inhabited

/-- An item of a word. -/
inductive Item where
  | piece (p : Piece)
  | openParam (name : String) (form : Form)
  | closeParam
  | openArith
  | closeArith
  deriving Inhabited

/-- Pieces of which some enclosing parameters and expressions are not closed yet: what comes before
each of them, in reverse, and what it is. -/
structure Assembly where
  done : List Piece := []
  enclosing : List (List Piece × Option (String × Form)) := []

/-- Adds an item to an assembly. -/
def Assembly.add (a : Assembly) : Item → Assembly
  | .piece p => { a with done := p :: a.done }
  | .openParam name form => ⟨[], (a.done, some (name, form)) :: a.enclosing⟩
  | .openArith => ⟨[], (a.done, none) :: a.enclosing⟩
  | .closeParam | .closeArith =>
    match a.enclosing with
    | (before, some (name, form)) :: rest => ⟨.param name form a.done.reverse :: before, rest⟩
    | (before, none) :: rest => ⟨.arith a.done.reverse :: before, rest⟩
    | [] => a

/-- The word of a row of items. -/
def assemble (items : List Item) : Word := (items.foldl Assembly.add {}).done.reverse

/-- What a character does to a word. -/
inductive Role where
  | lineEnd
  | ordinary
  /-- Special in patterns, and therefore quoted here. -/
  | guarded
  | backslash
  | singleQuote
  | doubleQuote
  | endQuote
  | dollar
  | closeBrace
  | openParen
  | closeParen
  | backquote
  | ending
  | delimiter
  deriving DecidableEq, Repr, Inhabited

/-- Characters that are special in patterns and tildes. -/
def isGuarded (c : Char) : Bool := "!*?[=~:/-]".toList.contains c

/-- The role of a character in a surrounding. -/
def role : Surrounding → Option Char → Role
  | _, none => .ending
  | .base, some c =>
    if c == '\n' then .lineEnd
    else if c == '\\' then .backslash
    else if c == '\x27' then .singleQuote
    else if c == '"' then .doubleQuote
    else if c == '\x60' then .backquote
    else if c == '$' then .dollar
    else if c == '\x7d' then .closeBrace
    else if "<>();&| \t".toList.contains c then .delimiter
    else .ordinary
  | .double, some c =>
    if c == '\n' then .lineEnd
    else if c == '\\' then .backslash
    else if c == '"' then .endQuote
    else if c == '\x60' then .backquote
    else if c == '$' then .dollar
    else if c == '\x7d' then .closeBrace
    else if isGuarded c then .guarded
    else .ordinary
  | .single, some c =>
    if c == '\n' then .lineEnd
    else if c == '\x27' then .endQuote
    else if isGuarded c || c == '\\' then .guarded
    else .ordinary
  | .arith, some c =>
    if c == '\n' then .lineEnd
    else if c == '\\' then .backslash
    else if c == '\x60' then .backquote
    else if c == '$' then .dollar
    else if c == '\x7d' then .closeBrace
    else if c == '(' then .openParen
    else if c == ')' then .closeParen
    else .ordinary

/-- The mark that ends a here-document, and whether tabs are taken off before it is looked for. -/
abbrev Marker := Option (String × Bool)

/-- A word that is being read. -/
structure Lexing where
  /-- The current character. -/
  current : Option Char
  frame : Frame
  outer : List Frame := []
  /-- The items so far, in reverse. -/
  items : List Item := []
  /-- Have there been quotes? -/
  quotes : Bool := false
  deriving Inhabited

namespace Lexing

/-- Adds an item. -/
def put (l : Lexing) (i : Item) : Lexing := { l with items := i :: l.items }

/-- Adds a character. -/
def plain (l : Lexing) (c : Char) : Lexing := l.put (.piece (.plain c))

/-- Adds a quoted character. -/
def guarded (l : Lexing) (c : Char) : Lexing := l.put (.piece (.quoted c))

/-- Adds the mark of a quote, unless in a here-document. -/
def mark (l : Lexing) (marker : Marker) : Lexing :=
  if marker.isNone then l.put (.piece .mark) else l

/-- Switches whether the inside of a brace is in double quotes. -/
def toggle (l : Lexing) : Lexing :=
  if l.frame.braces > 0 then { l with frame := { l.frame with inner := !l.frame.inner } } else l

/-- Starts a surrounding. -/
def push (l : Lexing) (frame : Frame) : Lexing :=
  { l with frame := frame, outer := l.frame :: l.outer }

/-- Ends a surrounding. -/
def pop (l : Lexing) : Lexing :=
  match l.outer with
  | frame :: outer => { l with frame := frame, outer := outer }
  | [] => l

/-- Is a special character quoted where it stands? -/
def guards (l : Lexing) (marker : Marker) : Bool :=
  marker.isNone || l.frame.doubled || l.frame.braces > 0

/-- Does a backslash before the character stay? -/
def keepsBackslash (l : Lexing) (marker : Marker) (c : Char) : Bool :=
  l.frame.doubled && c != '\\' && c != '\x60' && c != '$'
    && (c != '"' || (marker.isSome && l.frame.braces = 0))
    && (c != '\x7d' || l.frame.braces = 0)

/-- The end of quotes. -/
def endQuote (l : Lexing) (marker : Marker) (c : Char) : Lexing :=
  if marker.isSome && l.frame.braces = 0 then l.plain c
  else
    let l := if l.frame.doubledBraces = 0 then
        { l with frame := { l.frame with surrounding := .base, doubled := false } }
      else l
    let l := { l with quotes := true }
    (if c == '"' then l.toggle else l).mark marker

/-- The end of a brace. -/
def closeBrace (l : Lexing) (c : Char) : Lexing :=
  if !l.frame.inner && l.frame.braces > 0 then
    let l := { l with frame := { l.frame with braces := l.frame.braces - 1 } }
    let l := if l.frame.braces = 0 && l.frame.started then l.pop
      else { l with frame := { l.frame with doubledBraces := l.frame.doubledBraces - 1 } }
    l.put .closeParam
  else l.plain c

end Lexing

/-- The form of a parameter in braces, from the character that follows its name; `none` if the
character has no meaning there. -/
def formOf (c : Option Char) (empty : Bool) : Option Form :=
  match c with
  | some '\x7d' => some (if empty then .bad else .value)
  | some '-' => some (.default empty)
  | some '+' => some (.alternative empty)
  | some '?' => some (.demand empty)
  | some '=' => some (.assign empty)
  | _ => none

namespace Read

/-- Reads on as long as characters belong together, and gives them with the one that does not. -/
def run (test : Char → Bool) (first : Option Char) : Read (List Char × Option Char) :=
  iterate (fun (s : List Char × Option Char) => do
    match s.2 with
    | some c =>
      if test c then
        let d ← nextJoined
        pure (.inl (c :: s.1, d))
      else pure (.inr (s.1.reverse, s.2))
    | none => pure (.inr (s.1.reverse, s.2))) endless ([], first)

/-- A name or a number in braces or after the dollar, from its first character on. -/
inductive Named where
  | name (text : String) (next : Option Char)
  /-- No name; the last character was read in vain. -/
  | bad (next : Option Char)
  deriving Inhabited

/-- Reads the name of a parameter; in braces a number may have several digits. -/
def parameterName (braces : Bool) (c : Option Char) : Read Named := do
  match c with
  | none => pure (.bad c)
  | some ch =>
    if isNameStart ch then
      let (name, next) ← run isNameChar c
      pure (.name (String.ofList name) next)
    else if ch.isDigit then
      if braces then
        let (name, next) ← run Char.isDigit c
        pure (.name (String.ofList name) next)
      else
        let next ← nextJoined
        pure (.name (String.ofList [ch]) next)
    else if ch == '\x7d' then pure (.bad c)
    else
      let next ← nextJoined
      if isSpecial ch then pure (.name (String.ofList [ch]) next) else pure (.bad next)

/-- The length of a parameter, or the number of arguments: what a `#` in a brace means. -/
def lengthForm : Read (Named × Option Form) := do
  let c ← nextJoined
  match c with
  | some ch =>
    if isNameChar ch then
      let named ← parameterName true c
      match named with
      | .name _ (some '\x7d') => pure (named, some .length)
      | .name _ next => pure (.bad next, some .bad)
      | .bad next => pure (.bad next, some .bad)
    else
      let d ← nextJoined
      if ch == '\x7d' || d != some '\x7d' then
        unread d
        pure (.name "#" c, none)
      else if isSpecial ch then pure (.name (String.ofList [ch]) d, some .length)
      else pure (.bad d, some .bad)
  | none => pure (.name "#" none, none)

/-- What follows a name in a brace: the form, and whether its word is read as if outside of quotes. -/
def formAfter (c : Option Char) : Read (Form × Bool) := do
  match c with
  | some ':' =>
    let d ← nextJoined
    match formOf d true with
    | some form => pure (form, false)
    | none => pure (.bad, false)
  | some '%' | some '#' =>
    let d ← nextJoined
    if d != c then unread d
    pure (.trim (c == some '%') (d == c), true)
  | _ =>
    match formOf c false with
    | some form => pure (form, false)
    | none => pure (.bad, false)

/-- Enters a parameter with a form into a word. -/
def enterParam (l : Lexing) (name : String) (form : Form) (freed : Bool) : Lexing :=
  if form == .value then l.put (.piece (.param name .value []))
  else
    let surrounding : Surrounding :=
      if freed then .base
      else if l.frame.surrounding == .arith then .double
      else l.frame.surrounding
    let l := if surrounding != l.frame.surrounding || l.frame.inner then
        l.push { surrounding := surrounding, doubled := surrounding != .base, started := true }
      else l
    let frame := { l.frame with
      braces := l.frame.braces + 1
      doubledBraces := l.frame.doubledBraces + (if l.frame.doubled then 1 else 0) }
    { l with frame := frame }.put (.openParam name form)

/-- Reads a parameter after the dollar; `c` is the character after it. -/
def parameter (l : Lexing) (c : Option Char) : Read Lexing := do
  if c != some '\x7b' then
    match ← parameterName false c with
    | .name name next =>
      unread next
      pure (enterParam l name .value false)
    | .bad next =>
      unread next
      pure l
  else
    let first ← nextJoined
    let (named, form?) ← if first == some '#' then lengthForm else do
      let named ← parameterName true first
      pure (named, none)
    match named, form? with
    | .bad next, _ =>
      unread next
      pure (enterParam l "" .bad false)
    | .name name next, some form =>
      unread next
      pure (enterParam l name form false)
    | .name name next, none =>
      let (form, freed) ← formAfter next
      pure (enterParam l name form freed)

/-- Reads the text of an old-style command substitution up to its end. -/
def backquoted (doubled : Bool) : Read (List Char) :=
  iterate (fun (out : List Char) => do
    let c ← nextJoined
    match c with
    | none => complain "EOF in backquote substitution"
    | some '\x60' => pure (.inr out.reverse)
    | some '\\' =>
      let d ← next
      match d with
      | none => pure (.inl ('\\' :: out))
      | some d =>
        if d == '\\' || d == '\x60' || d == '$' || (doubled && d == '"') then pure (.inl (d :: out))
        else pure (.inl (d :: '\\' :: out))
    | some '\n' =>
      newLine
      pure (.inl ('\n' :: out))
    | some c => pure (.inl (c :: out))) endless []

/-- The characters that come next, as far as they are known. -/
def ahead : Read (List Char) := do
  let r ← get
  pure (r.layers.flatMap (·.chars) ++ r.text)

/-- Skips so many characters. -/
def skip : Nat → Read Unit
  | 0 => pure ()
  | n + 1 => do
    let _ ← next
    skip n

/-- At the start of a line of a here-document: the first character of the line, or none if the line
is the mark that ends the document. -/
def lineStart (c : Option Char) (marker : Marker) : Read (Option Char) := do
  match marker with
  | none => pure c
  | some (mark, tabs) =>
    let c ← if tabs then
        iterate (fun (c : Option Char) => do
          if c == some '\t' then
            let d ← next
            pure (.inl d)
          else pure (.inr c)) endless c
      else pure c
    let rest ← ahead
    let line := match c with
      | some c => c :: rest
      | none => []
    let wanted := mark.toList
    let after := line.drop wanted.length
    if (← get).more && !line.contains '\n' then throw .short
    if wanted.isPrefixOf line && (after.isEmpty || after.head? == some '\n') then
      if c.isSome then skip (wanted.length + (if after.isEmpty then 0 else 1) - 1)
      newLine
      pure none
    else pure c

end Read
end HardenAudit.Shell
