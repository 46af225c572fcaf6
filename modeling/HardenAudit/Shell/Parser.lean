import HardenAudit.Shell.Lexer

/-!
# Reading commands

One line of a script is read at a time, and further lines as long as the command is not complete.
Commands and words contain each other, so each function here is given the reader of lists and the
reader of single commands, and the knot is tied at the end.
-/

namespace HardenAudit.Shell

/-- How a list of commands ends. -/
inductive ListKind where
  /-- At the end of the line. -/
  | line
  /-- At a token that ends lists, after one command at least. -/
  | block
  /-- At a token that ends lists. -/
  | loose
  deriving DecidableEq, Repr, Inhabited

/-- The readers that all others refer to. -/
structure Readers where
  list : ListKind → Read Command
  command : Read Command

namespace Readers

variable (self : Readers)

/-- Reads the here-documents that are due. -/
def documentsWith (word : Option Char → Surrounding → Marker → Read Token) : Read Unit := do
  let due := (← get).due
  modify fun r => { r with due := [] }
  for d in due do
    let marker : Marker := some (d.mark, d.tabs)
    if d.expanded then
      let c ← Read.nextJoined
      let _ ← word c .double marker
    else
      let c ← Read.next
      let _ ← word c .single marker
    modify fun r => { r with documents := r.documents.set! d.number r.word }

/-- Reads a command substitution in parentheses. -/
def substitution (documents : Read Unit) (token : Read Token) : Read Command := do
  let due := (← get).due
  modify fun r => { r with due := [] }
  let body ← self.list .loose
  if (← token) != .rightParen then Read.unexpected (some .rightParen)
  let r ← get
  set { r with layers := [], text := [], more := false }
  documents
  modify fun s => { s with layers := r.layers, text := r.text, more := r.more, line := r.line, due := due }
  pure body

/-- Reads an old-style command substitution, whose text is taken out of its surroundings first. -/
def oldSubstitution (documents : Read Unit) (doubled : Bool) : Read Command := do
  let text ← Read.backquoted doubled
  let r ← get
  set { r with layers := [], text := text, more := false, line := 1, due := [] }
  let body ← self.list .loose
  documents
  modify fun s => { s with
    layers := r.layers, text := r.text, more := r.more, line := r.line, due := r.due, pushed := false }
  pure body

/-- One character of a word; gives the finished word, or goes on. -/
def character (documents : Read Unit) (token : Read Token) (marker : Marker) (l : Lexing) :
    Read (Lexing ⊕ Lexing) := do
  let advance (l : Lexing) : Read (Lexing ⊕ Lexing) := do
    let c ← if l.frame.surrounding == .single then Read.next else Read.nextJoined
    pure (.inl { l with current := c })
  match role l.frame.surrounding l.current, l.current with
  | .ending, _ => pure (.inr l)
  | _, none => pure (.inr l)
  | .lineEnd, some c =>
    if l.frame.surrounding == .base && l.frame.braces = 0 then pure (.inr l)
    else
      Read.newLine
      let next ← Read.next
      let next ← Read.lineStart next marker
      pure (.inl { l.plain c with current := next })
  | .ordinary, some c => advance (l.plain c)
  | .guarded, some c => advance (if l.guards marker then l.guarded c else l.plain c)
  | .backslash, some _ =>
    let c ← Read.next
    match c with
    | none => advance (l.guarded '\\')
    | some c =>
      let l := if l.keepsBackslash marker c then l.guarded '\\' else l
      advance { l.guarded c with quotes := true }
  | .singleQuote, some _ =>
    advance ({ l with frame := { l.frame with surrounding := .single } }.mark marker)
  | .doubleQuote, some _ =>
    advance ({ l with frame := { l.frame with surrounding := .double, doubled := true } }.toggle.mark
      marker)
  | .endQuote, some c => advance (l.endQuote marker c)
  | .dollar, some _ =>
    let c ← Read.nextJoined
    let plain := (← get).check.marker || !(match c with
      | some c => c == '(' || c == '\x7b' || isNameStart c || isSpecial c
      | none => false)
    if plain then
      Read.unread c
      advance (l.plain '$')
    else if c == some '(' then
      let d ← Read.nextJoined
      if d == some '(' then
        advance ((l.push { surrounding := .arith, doubled := true }).put .openArith)
      else
        Read.unread d
        let body ← self.substitution documents token
        advance (l.put (.piece (.command body)))
    else
      let l ← Read.parameter l c
      advance l
  | .closeBrace, some c => advance (l.closeBrace c)
  | .openParen, some c =>
    advance ({ l with frame := { l.frame with parens := l.frame.parens + 1 } }.plain c)
  | .closeParen, some c =>
    if l.frame.parens > 0 then
      advance ({ l with frame := { l.frame with parens := l.frame.parens - 1 } }.plain c)
    else
      let d ← Read.nextJoined
      if d == some ')' then advance (l.pop.put .closeArith)
      else
        Read.unread d
        advance (l.plain c)
  | .backquote, some c =>
    if (← get).check.marker then advance (l.plain c)
    else
      let body ← self.oldSubstitution documents l.frame.doubled
      advance (l.put (.piece (.command body)))
  | .delimiter, some c => if l.frame.braces = 0 then pure (.inr l) else advance (l.plain c)

/-- The redirection that starts with a character. -/
def redirection (c : Char) (fd : Option Nat) : Read Token := do
  let d ← Read.nextJoined
  let (standard, kind) ← if c == '>' then
      match d with
      | some '>' => pure (1, RedirectKind.file .append)
      | some '|' => pure (1, .file .clobber)
      | some '&' => pure (1, .descriptor)
      | _ =>
        Read.unread d
        pure (1, .file .output)
    else
      match d with
      | some '<' =>
        let e ← Read.nextJoined
        if e == some '-' then pure (0, .document true)
        else
          Read.unread e
          pure (0, .document false)
      | some '&' => pure (0, .descriptor)
      | some '>' => pure (0, .file .both)
      | _ =>
        Read.unread d
        pure (0, .file .input)
  modify fun r => { r with redirect := (fd.getD standard, kind) }
  Read.found .redirect

/-- Reads a word, a here-document, or a redirection, from its first character on. -/
def wordWith (documents : Read Unit) (token : Read Token) (first : Option Char)
    (surrounding : Surrounding) (marker : Marker) : Read Token := do
  let first ← Read.lineStart first marker
  let start : Lexing :=
    { current := first, frame := { surrounding := surrounding, doubled := surrounding == .double } }
  let l ← Read.iterate (self.character documents token marker) Read.endless start
  if l.frame.surrounding == .arith then Read.complain "Missing '))'"
  if l.frame.surrounding != .base && marker.isNone then Read.complain "Unterminated quoted string"
  if l.frame.braces != 0 then Read.complain "Missing '\x7d'"
  let word := assemble l.items.reverse
  let digit : Option (Option Nat) := match l.items with
    | [] => some none
    | [.piece (.plain c)] => if c.isDigit then some (some (c.toNat - 48)) else none
    | _ => none
  match l.current, digit with
  | some c, some fd =>
    if marker.isNone && (c == '<' || c == '>') && !l.quotes then redirection c fd
    else finish l word
  | _, _ => finish l word
where
  finish (l : Lexing) (word : Word) : Read Token := do
    if marker.isNone then Read.unread l.current
    modify fun r => { r with word := word, quoted := l.quotes }
    Read.found .word

/-- Reads a token, without regard to reserved words and aliases. -/
def rawTokenWith (documents : Read Unit) (token : Read Token) : Read Token := do
  let r ← get
  if r.pushed then
    set { r with pushed := false }
    pure r.token
  else
    let second (wanted : Char) (yes no : Token) : Read Token := do
      let c ← Read.nextJoined
      if c == some wanted then Read.found yes
      else
        Read.unread c
        Read.found no
    let c ← Read.iterate (fun (_ : Unit) => do
      let c ← Read.nextJoined
      match c with
      | some ' ' | some '\t' => pure (.inl ())
      | some '#' =>
        Read.iterate (fun (_ : Unit) => do
          let d ← Read.next
          if d == some '\n' || d.isNone then
            Read.unread d
            pure (.inr ())
          else pure (.inl ())) Read.endless ()
        pure (.inl ())
      | c => pure (.inr c)) Read.endless ()
    match c with
    | some '\n' =>
      Read.newLine
      Read.found .newline
    | none => Read.found .eof
    | some '&' => second '&' .and .ampersand
    | some '|' => second '|' .or .pipe
    | some ';' => second ';' .endCase .semicolon
    | some '(' => Read.found .leftParen
    | some ')' => Read.found .rightParen
    | c => self.wordWith documents token c .base none

/-- Reads a token: line ends may be skipped, a word may be a reserved one, and an alias is replaced
by its text.  Tokens stand in words and documents stand between tokens, so `limit` bounds how deep
they are nested. -/
def token : (limit : Nat) → Read Token
  | 0 => throw .short
  | limit + 1 => do
    let documents := documentsWith fun c s m => self.wordWith (pure ()) (token limit) c s m
    let raw := self.rawTokenWith documents (token limit)
    let wanted := (← get).check
    Read.iterate (fun (wanted : Check) => do
      let t ← raw
      let t ← if wanted.newline then
          Read.iterate (fun (t : Token) => do
            if t == .newline then
              documents
              Read.setCheck {}
              let t ← raw
              pure (.inl t)
            else pure (.inr t)) Read.endless t
        else pure t
      let r ← get
      let wanted : Check :=
        { wanted with aliased := wanted.aliased || r.check.aliased, reserved := wanted.reserved || r.check.reserved }
      Read.setCheck {}
      if t != .word || r.quoted then pure (.inr t)
      else
        match r.word.plain? with
        | none => pure (.inr t)
        | some text =>
          if wanted.reserved && Token.reservedWords.contains text then
            let t ← Read.found (.reserved text)
            pure (.inr t)
          else
            match if wanted.aliased then r.aliases.lookup text else none with
            | some value =>
              if r.layers.any (·.name == text) then pure (.inr t)
              else
                let chars := value.toList
                let blank := match chars.getLast? with
                  | some c => c == ' ' || c == '\t'
                  | none => false
                if !chars.isEmpty then
                  modify fun r => { r with layers := ⟨chars, text, blank⟩ :: r.layers }
                pure (.inl wanted)
            | none => pure (.inr t)) Read.endless wanted

/-- Commands nested in each other at most. -/
def depthLimit : Nat := 0x10000000

/-- The next token. -/
def next : Read Token := self.token depthLimit

/-- The here-documents that are due. -/
def documents : Read Unit :=
  documentsWith fun c s m => self.wordWith (pure ()) self.next c s m

/-- What follows a redirection. -/
def redirectTarget : Read Redirect := do
  let (fd, kind) := (← get).redirect
  if let .document _ := kind then Read.setCheck { marker := true }
  if (← self.next) != .word then Read.unexpected none
  let r ← get
  match kind with
  | .file mode => pure (.file fd mode r.word)
  | .descriptor => pure (.descriptor fd r.word)
  | .document tabs =>
    let number := r.documents.size
    let due : Due := ⟨number, r.word.unquoted, tabs, !r.quoted⟩
    set { r with documents := r.documents.push [], due := r.due ++ [due] }
    pure (.document fd number (!r.quoted))

/-- Fails unless a token is the next one. -/
def expect (t : Token) : Read Unit := do
  if (← self.next) != t then Read.unexpected (some t)

/-- Redirections behind a command. -/
def redirectsAfter : Read (List Redirect) := do
  Read.setCheck { reserved := true, aliased := true }
  Read.iterate (fun (found : List Redirect) => do
    if (← self.next) == .redirect then
      let r ← self.redirectTarget
      pure (.inl (r :: found))
    else
      Read.pushBack
      pure (.inr found.reverse)) Read.endless []

/-- A simple command that is being read. -/
structure Simple where
  assignments : List Word := []
  words : List Word := []
  redirects : List Redirect := []

/-- The rest of the definition of a function. -/
def functionRest (isSpecialBuiltin : String → Bool) (name : Word) : Read Command := do
  self.expect .rightParen
  match name.plain? with
  | some text =>
    if !isName text || isSpecialBuiltin text then Read.complain "Bad function name"
    Read.setCheck { newline := true, reserved := true, aliased := true }
    let line := (← get).line
    let body ← self.command
    pure (.function line text body)
  | none => Read.complain "Bad function name"

/-- A simple command or the definition of a function. -/
def simple (isSpecialBuiltin : String → Bool) : Read Command := do
  let line := (← get).line
  Read.iterate (fun (s : Simple) => do
    Read.setCheck { aliased := s.words.isEmpty }
    let t ← self.next
    let done (_ : Unit) : Read (Simple ⊕ Command) := do
      Read.pushBack
      pure (.inr (.simple line s.assignments.reverse s.words.reverse s.redirects.reverse))
    match t with
    | .word =>
      let word := (← get).word
      if s.words.isEmpty && word.isAssignment then
        pure (.inl { s with assignments := word :: s.assignments })
      else pure (.inl { s with words := word :: s.words })
    | .redirect =>
      let r ← self.redirectTarget
      pure (.inl { s with redirects := r :: s.redirects })
    | .leftParen =>
      match s.words, s.assignments, s.redirects with
      | [name], [], [] =>
        let f ← self.functionRest isSpecialBuiltin name
        pure (.inr f)
      | _, _, _ => done ()
    | _ => done ()) Read.endless {}

/-- The rest of a conditional, from its first test on. -/
def choice : (limit : Nat) → Read Command
  | 0 => throw .short
  | limit + 1 => do
    let test ← self.list .block
    self.expect (.reserved "then")
    let yes ← self.list .block
    match ← self.next with
    | .reserved "elif" =>
      let no ← choice limit
      pure (.choice test yes no)
    | .reserved "else" =>
      let no ← self.list .block
      pure (.choice test yes no)
    | _ =>
      Read.pushBack
      pure (.choice test yes .nothing)

/-- The words of a loop over words. -/
def eachWords : Read (List Word) := do
  Read.setCheck { newline := true, reserved := true, aliased := true }
  if (← self.next) == .reserved "in" then
    let words ← Read.iterate (fun (found : List Word) => do
      if (← self.next) == .word then
        let word := (← get).word
        pure (.inl (word :: found))
      else pure (.inr found.reverse)) Read.endless []
    let t := (← get).token
    if t != .newline && t != .semicolon then Read.unexpected none
    pure words
  else
    if (← get).token != .semicolon then Read.pushBack
    pure [[.mark, .param "@" .value [], .mark]]

/-- The patterns of one arm of a selection. -/
def armPatterns : Read (List Word) := do
  let patterns ← Read.iterate (fun (found : List Word) => do
    let word := (← get).word
    if (← self.next) == .pipe then
      let _ ← self.next
      pure (.inl (word :: found))
    else pure (.inr (word :: found).reverse)) Read.endless []
  if (← get).token != .rightParen then Read.unexpected (some .rightParen)
  pure patterns

/-- The arms of a selection, up to its end. -/
def arms : Read (List (List Word × Command)) := do
  Read.setCheck { newline := true, reserved := true }
  let first ← self.next
  Read.iterate (fun (s : Token × List (List Word × Command)) => do
    if s.1 == .reserved "esac" then pure (.inr s.2.reverse)
    else
      if (← get).token == .leftParen then
        let _ ← self.next
      let patterns ← self.armPatterns
      let body ← self.list .loose
      Read.setCheck { newline := true, reserved := true }
      let t ← self.next
      if t == .reserved "esac" then pure (.inl (t, (patterns, body) :: s.2))
      else if t != .endCase then Read.unexpected (some .endCase)
      else
        Read.setCheck { newline := true, reserved := true }
        let t ← self.next
        pure (.inl (t, (patterns, body) :: s.2))) Read.endless (first, [])

/-- A command with the redirections behind it. -/
def withRedirects (line : Nat) (body : Command) : Read Command := do
  let redirects ← self.redirectsAfter
  match redirects, body with
  | [], _ => pure body
  | _, .subshell line inner _ => pure (.subshell line inner redirects)
  | _, _ => pure (.redirected line body redirects)

/-- A single command. -/
def single (isSpecialBuiltin : String → Bool) : Read Command := do
  let line := (← get).line
  let closed (body : Command) (t : Token) : Read Command := do
    self.expect t
    self.withRedirects line body
  match ← self.next with
  | .reserved "if" =>
    let body ← self.choice depthLimit
    closed body (.reserved "fi")
  | .reserved "while" =>
    let test ← self.list .block
    self.expect (.reserved "do")
    let body ← self.list .block
    closed (.loop true test body) (.reserved "done")
  | .reserved "until" =>
    let test ← self.list .block
    self.expect (.reserved "do")
    let body ← self.list .block
    closed (.loop false test body) (.reserved "done")
  | .reserved "for" =>
    let t ← self.next
    let r ← get
    match if t == .word && !r.quoted then r.word.plain? else none with
    | some name =>
      if !isName name then Read.complain "Bad for loop variable"
      let words ← self.eachWords
      Read.setCheck { newline := true, reserved := true, aliased := true }
      self.expect (.reserved "do")
      let body ← self.list .block
      closed (.each line name words body) (.reserved "done")
    | none => Read.complain "Bad for loop variable"
  | .reserved "case" =>
    self.expect .word
    let word := (← get).word
    Read.setCheck { newline := true, reserved := true, aliased := true }
    self.expect (.reserved "in")
    let arms ← self.arms
    self.withRedirects line (.select line word arms)
  | .leftParen =>
    let body ← self.list .block
    closed (.subshell line body []) .rightParen
  | .reserved "\x7b" =>
    let body ← self.list .block
    closed body (.reserved "\x7d")
  | .word | .redirect =>
    Read.pushBack
    self.simple isSpecialBuiltin
  | _ => Read.unexpected none

/-- Commands joined by pipes, perhaps with their status turned round. -/
def pipeline : Read Command := do
  let negated := (← self.next) == .reserved "!"
  if negated then Read.setCheck { reserved := true, aliased := true } else Read.pushBack
  let first ← self.command
  let body ← if (← self.next) == .pipe then
      let stages ← Read.iterate (fun (stages : List Command) => do
        Read.setCheck { newline := true, reserved := true, aliased := true }
        let stage ← self.command
        if (← self.next) == .pipe then pure (.inl (stage :: stages))
        else pure (.inr (stage :: stages).reverse)) Read.endless [first]
      pure (Command.pipeline stages false)
    else pure first
  Read.pushBack
  pure (if negated then .negation body else body)

/-- Pipelines joined by conditions. -/
def conditional : Read Command := do
  let first ← self.pipeline
  Read.iterate (fun (c : Command) => do
    match ← self.next with
    | .and =>
      Read.setCheck { newline := true, reserved := true, aliased := true }
      let second ← self.pipeline
      pure (.inl (.both c second))
    | .or =>
      Read.setCheck { newline := true, reserved := true, aliased := true }
      let second ← self.pipeline
      pure (.inl (.either c second))
    | _ =>
      Read.pushBack
      pure (.inr c)) Read.endless first

/-- A command in the background. -/
def inBackground : Command → Command
  | .pipeline stages _ => .pipeline stages true
  | .redirected line body redirects => .background line body redirects
  | c => .background 0 c []

/-- One command after another. -/
def followedBy : Command → Command → Command
  | .nothing, c => c
  | c, d => .sequence c d

/-- The state of a list that is being read: the commands so far, and whether an ending token may end
it. -/
structure Listing where
  body : Command := .nothing
  mayEnd : Bool

/-- A list of commands. -/
def commands (kind : ListKind) : Read Command := do
  let ends (body : Command) : Read (Listing ⊕ Command) := do
    self.documents
    modify fun r => { r with pushed := true, token := .eof }
    pure (.inr body)
  Read.iterate (fun (s : Listing) => do
    Read.setCheck { newline := kind != .line, reserved := true, aliased := true }
    match ← self.next with
    | .newline =>
      self.documents
      pure (.inr s.body)
    | .eof => ends s.body
    | t =>
      Read.pushBack
      if s.mayEnd && t.endsList then pure (.inr s.body)
      else
        let c ← self.conditional
        let t ← self.next
        let body := followedBy s.body (if t == .ampersand then inBackground c else c)
        let s : Listing := ⟨body, kind != .line⟩
        match t with
        | .eof => ends body
        | .newline =>
          Read.pushBack
          pure (.inl s)
        | .ampersand | .semicolon => pure (.inl s)
        | _ =>
          if kind == .line then Read.unexpected none
          Read.pushBack
          pure (.inr body)) Read.endless { mayEnd := kind == .loose }

end Readers

/-- The readers; `limit` bounds how deep commands are nested. -/
def readers (isSpecialBuiltin : String → Bool) : (limit : Nat) → Readers
  | 0 => ⟨fun _ => throw .short, throw .short⟩
  | limit + 1 =>
    { list := fun kind r => (readers isSpecialBuiltin limit).commands kind r
      command := fun r => (readers isSpecialBuiltin limit).single isSpecialBuiltin r }

/-- A line of a script after reading. -/
inductive Line where
  /-- The script has ended. -/
  | finished
  /-- A command, perhaps none; `last` says that the script ends right behind it. -/
  | command (c : Command) (last : Bool)
  deriving Inhabited

/-- Reads one line of a script, and more if the command needs more. -/
def readLine (isSpecialBuiltin : String → Bool) (r : Reader) : Except Trouble (Line × Reader) := do
  let start := { r with pushed := false, check := {}, due := [] }
  let (c, r) ← (readers isSpecialBuiltin Readers.depthLimit).list .line start
  let last := r.pushed && r.token == .eof
  if c.isNothing && last then pure (.finished, r) else pure (.command c last, r)

/-- Reads a text as if it stood in double quotes. -/
def readQuoted (isSpecialBuiltin : String → Bool) (r : Reader) : Except Trouble (Word × Reader) := do
  let self := readers isSpecialBuiltin Readers.depthLimit
  let mark := "\n"
  let (_, r) ← (do
    let c ← Read.nextJoined
    self.wordWith (pure ()) self.next c .double (some (mark, false))) r
  pure (r.word, r)

end HardenAudit.Shell
