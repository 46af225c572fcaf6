import HardenAudit.ExtendedShell.Lexer

/-!
# Reading commands

A text is read unit by unit: a unit is all commands up to the end of a line that ends a command.
-/

namespace HardenAudit.ExtendedShell

/-- The words that have a meaning of their own where a command may start. -/
def reservedWords : List String :=
  ["if", "then", "else", "elif", "fi", "case", "esac", "for", "select", "while", "until", "do", "done",
   "in", "function", "time", "\x7b", "\x7d", "!", "[[", "]]", "coproc"]

/-- The words that end a list of commands. -/
def closingWords : List String := ["then", "else", "elif", "fi", "do", "done", "esac", "\x7d"]

/-- The commands whose arguments may be assignments of lists. -/
def declaringNames : List String := ["declare", "typeset", "local", "export", "readonly", "alias", "eval"]

/-- The operators of conditions with one operand. -/
def unaryOperators : List String :=
  ["-a", "-b", "-c", "-d", "-e", "-f", "-g", "-h", "-k", "-n", "-o", "-p", "-r", "-s", "-t", "-u", "-v",
   "-w", "-x", "-z", "-G", "-L", "-N", "-O", "-R", "-S"]

/-- The operators of conditions with two operands. -/
def binaryOperators : List String :=
  ["=", "==", "!=", "=~", "-eq", "-ne", "-lt", "-le", "-gt", "-ge", "-nt", "-ot", "-ef"]

namespace Read

/-! ## Line ends and here-documents -/

/-- The rest of the line, which is passed over with its end; none at the end of the text. -/
def restOfLine : Read (Option String) := do
  match ← peek with
  | none => pure none
  | some _ =>
    let start := (← get).place
    iterate (fun (_ : Unit) => do
      match ← peek with
      | none | some '\n' => pure (.inr ())
      | some _ =>
        advance
        pure (.inl ())) endless ()
    let text ← since start
    advance
    pure (some text)

/-- The lines of a here-document. -/
def documentLines (d : Due) : Read (List String) := do
  let first := (← get).line - 1
  iterate (fun (lines : List String) => do
    match ← restOfLine with
    | none =>
      modify fun r => { r with
        warnings := r.warnings ++ [(endLine r - 1, "warning: here-document at line " ++ toString first
          ++ " delimited by end-of-file (wanted \x60" ++ d.mark ++ "\x27)")] }
      pure (.inr lines.reverse)
    | some line =>
      let line := if d.tabs then String.ofList (line.toList.dropWhile (· == '\t')) else line
      pure (if line == d.mark then .inr lines.reverse else .inl (line :: lines))) endless []

section
variable (self : Parts)

/-- Reads the here-documents that are due. -/
def gatherDocuments : Read Unit := do
  let due := (← get).due
  modify fun r => { r with due := [] }
  for d in due do
    let lines ← documentLines d
    let text := String.join (lines.map (· ++ "\n"))
    let pieces : List Piece ← if d.expanded then Word.pieces <$> wordOf self .document text else pure [.single text]
    modify fun r => { r with
      documents := r.documents.setIfInBounds d.number ⟨pieces, text, d.mark, d.tabs, !d.expanded⟩ }

/-- The end of a line. -/
def endLineHere : Read Unit := do
  advance
  gatherDocuments self

/-- Passes over blanks and line ends. -/
def skipLines : Read Unit :=
  iterate (fun (_ : Unit) => do
    skipBlanks
    match ← peek with
    | some '\n' =>
      endLineHere self
      pure (.inl ())
    | _ => pure (.inr ())) endless ()

/-- Fails because of the token that comes next. -/
def unexpected {α : Type} (status : Nat := 2) : Read α := do
  skipBlanks
  match ← peek with
  | none => complainEnd
  | some '\n' => complainToken "newline" status
  | some _ =>
    match ← operator? with
    | some o => complainToken o status
    | none =>
      let r ← get
      let w ← wordIn self .word
      set r
      complainToken w.raw status

/-- Fails because of the token that comes next, where the line may not end.  A text that does not end with a line
end counts as if it did. -/
def unexpectedOnLine {α : Type} (status : Nat := 2) : Read α := do
  skipBlanks
  if (← peek).isNone && (← get).chars.back? != some '\n' then complainToken "newline" status
  unexpected self status

/-- Takes a reserved word. -/
def expectWord (word : String) : Read Unit := do
  skipBlanks
  if !(← takeWord? word) then unexpected self

/-- Takes an operator. -/
def expectOperator (o : String) : Read Unit := do
  skipBlanks
  if !(← takeOperator? o) then unexpected self

/-- Takes an operator that has to stand on this line. -/
def expectOperatorOnLine (o : String) : Read Unit := do
  skipBlanks
  if !(← takeOperator? o) then unexpectedOnLine self

/-- Does a list of commands end here? -/
def atEnd : Read Bool := do
  match ← peek with
  | none => pure true
  | some _ =>
    match ← operator? with
    | some o => pure ([")", ";;", ";&", ";;&"].contains o)
    | none =>
      match ← plainWord? with
      | some w => pure (closingWords.contains w)
      | none => pure false

/-! ## Redirections -/

/-- The descriptor before the sign of a redirection, and how many characters it has; none if there is no
redirection. -/
def handleBefore? : Read (Option (Option Handle × Nat)) := do
  let r ← get
  let ahead := plainRun r
  let sign (count : Nat) : Read Bool := do
    match ← peek count with
    | some '<' | some '>' => pure ((← peek (count + 1)) != some '(')
    | _ => pure false
  let ds := ahead.takeWhile Char.isDigit
  match ahead with
  | '\x7b' :: rest =>
    let name := rest.takeWhile (· != '\x7d')
    let plain := name.takeWhile Shell.isNameChar
    let count := name.length + 2
    let isElement := name.length == plain.length
      || (name[plain.length]? == some '[' && name.getLast? == some ']')
    let isHandle := Shell.isName (String.ofList plain) && isElement && rest[name.length]? == some '\x7d'
    if ← provided isHandle (sign count) then
      pure (some (some (.variable (String.ofList name)), count))
    else pure none
  | _ =>
    if ds.isEmpty then
      match ← operator? with
      | some o =>
        pure (if o.startsWith "<" || o.startsWith ">" || o == "&>" || o == "&>>" then some (none, 0)
          else none)
      | none => pure none
    else if ← provided (ds.length == ahead.length) (sign ds.length) then
      pure (some (some (.number (Shell.digits 10 ds 0 0).1), ds.length))
    else pure none

/-- The word behind the sign of a redirection. -/
def target : Read Word := do
  skipBlanks
  let w ← wordIn self .word
  if w.raw == "" then unexpectedOnLine self
  pure w

/-- A redirection, if one comes next. -/
def redirect? : Read (Option Redirect) := do
  match ← handleBefore? with
  | none => pure none
  | some (handle, count) =>
    skip count
    match ← operator? with
    | none => pure none
    | some o =>
      skip o.length
      let fd (standard : Nat) : Handle := handle.getD (.number standard)
      match o with
      | "<" => do pure (some (.file (fd 0) .input (← target self)))
      | ">" => do pure (some (.file (fd 1) .output (← target self)))
      | ">>" => do pure (some (.file (fd 1) .append (← target self)))
      | ">|" => do pure (some (.file (fd 1) .clobber (← target self)))
      | "<>" => do pure (some (.file (fd 0) .both (← target self)))
      | "<&" => do pure (some (.descriptor (fd 0) true (← target self)))
      | ">&" => do pure (some (.descriptor (fd 1) false (← target self)))
      | "&>" => do pure (some (.streams false (← target self)))
      | "&>>" => do pure (some (.streams true (← target self)))
      | "<<<" => do pure (some (.text (fd 0) (← target self)))
      | _ =>
        let w ← target self
        let quoted := w.raw.toList.any fun c => c == '"' || c == '\x27' || c == '\\'
        let mark := String.ofList (w.raw.toList.filter fun c => c != '"' && c != '\x27' && c != '\\')
        let r ← get
        let number := r.documents.size
        set { r with
          documents := r.documents.push default
          due := r.due ++ [({ number := number, mark := mark, tabs := o == "<<-", expanded := !quoted } : Due)] }
        pure (some (.document (fd 0) number))

/-- All redirections that come next. -/
def redirects : Read (List Redirect) :=
  iterate (fun (found : List Redirect) => do
    skipBlanks
    match ← redirect? self with
    | some d => pure (.inl (d :: found))
    | none => pure (.inr found.reverse)) endless []

/-! ## Assignments -/

/-- The sign of an assignment: does it append?  None if there is none. -/
def assignSign? : Read (Option Bool) := do
  if ← take? "+=" then pure (some true)
  else if ← take? "=" then pure (some false)
  else pure none

/-- A subscript and the sign of an assignment behind it, from the bracket on; nothing is read if that is
not what comes. -/
def subscriptSign? : Read (Option (Subscript × Bool)) := do
  let start ← get
  let attempt : Read (Option (Subscript × Bool)) := do
    advance
    match ← subscript? self false with
    | none => pure none
    | some s =>
      match ← assignSign? with
      | some append => pure (some (s, append))
      | none => pure none
  -- a bracket that is never closed is refused
  let found ← attempt
  if found.isNone then set start
  pure found

/-- The elements of a list behind its parenthesis. -/
def elements : Read (List Element) :=
  iterate (fun (found : List Element) => do
    skipLines self
    match ← peek with
    | none =>
      throw (.malformed 1 [((← get).line, "unexpected EOF while looking for matching \x60)\x27")])
    | some ')' =>
      advance
      pure (.inr found.reverse)
    | some c =>
      if (← operator?).isSome then unexpected self 1
      else
        let keyed ← if c == '[' then subscriptSign? self else pure none
        let w ← wordIn self .word
        match keyed with
        | some (s, append) => pure (.inl (.mk s append w :: found))
        | none => pure (.inl (.mk .none false w :: found))) endless []

/-- An assignment, if one comes next. -/
def assign? : Read (Option Assign) := do
  let start ← get
  let name := (plainRun start).takeWhile Shell.isNameChar
  let text := String.ofList name
  if !Shell.isName text then pure none
  else
    skip name.length
    let sign ← if (← peek) == some '[' then subscriptSign? self else do
      match ← assignSign? with
      | some append => pure (some (Subscript.none, append))
      | none => pure none
    match sign with
    | none =>
      set start
      pure none
    | some (s, append) =>
      if ← take? "(" then
        let es ← elements self
        pure (some (.list text s append es))
      else
        let w ← wordIn self .word
        pure (some (.text text s append w))

/-! ## Conditions -/

/-- What a condition is made of. -/
inductive Token where
  | word (w : Word)
  | sign (o : String)
  | lineEnd
  /-- The brackets behind the condition. -/
  | close
  /-- The end of the text. -/
  | finish
  deriving Inhabited

/-- A token as complaints show it; words are not shown. -/
def Token.text? : Token → Option String
  | word _ => none
  | sign o => some o
  | lineEnd => some "newline"
  | close => some "]]"
  | finish => some "EOF"

/-- A part of a condition with the token behind it, or complaints with the token at which reading stopped. -/
abbrev Conditional := Except (List (Nat × String) × Token) (Condition × Token)

/-- The next token of a condition.  A text that does not end with a line end counts as if it did. -/
def conditionToken (here : Surrounding) : Read Token := do
  skipBlanks
  match ← peek with
  | none => pure (if (← get).chars.back? == some '\n' then .finish else .lineEnd)
  | some '\n' =>
    endLineHere self
    pure .lineEnd
  | some _ =>
    let sign ← if here == .regex then pure none else operator?
    match sign with
    | some o =>
      skip o.length
      pure (.sign o)
    | none =>
      if ← takeWord? "]]" then pure .close
      else
        let w ← wordIn self here
        if w.raw == "" then
          let o ← operator?
          skip (o.getD " ").length
          pure (.sign (o.getD ""))
        else pure (.word w)

/-- The next token that is no line end. -/
def tokenPastLines (here : Surrounding) : Read Token :=
  iterate (fun (_ : Unit) => do
    match ← conditionToken self here with
    | .lineEnd => pure (if (← peek).isNone then .inr .finish else .inl ())
    | t => pure (.inr t)) endless ()

/-- The line that complaints about a token name. -/
def tokenLine (t : Token) : Read Nat := do
  let r ← get
  pure (match t with
    | .lineEnd => if r.place < r.chars.size || r.chars.back? == some '\n' then r.line - 1 else r.line
    | .finish => endLine r
    | _ => r.line)

/-- The last characters before the current place that belong together, and the line that they are on. -/
def nearText : Read (String × String) := do
  let r ← get
  let stop := if r.place > 0 && r.chars[r.place - 1]? == some '\n' then r.place - 1 else r.place
  let line := lineText r stop
  let before := (r.chars.extract 0 stop).toList.reverse.takeWhile (· != '\n')
  let cs := line.toList
  let isBlank (c : Char) : Bool := c == ' ' || c == '\t'
  -- one looks at the next character first, and then back
  let place := min before.length (cs.length - 1)
  let seen := ((cs.take (place + 1)).reverse).dropWhile isBlank
  let token := match seen with
    | [] => []
    | c :: rest =>
      if ";|&".toList.contains c then [c]
      else
        let body := (c :: rest).takeWhile fun c => !" \t;|&".toList.contains c
        let mark := ((c :: rest).drop body.length).take 1
        (body ++ mark.filter (!isBlank ·)).reverse
  pure (String.ofList token, line)

/-- Fails in a condition with complaints, at a token. -/
def failCondition {α : Type} (messages : List (Nat × String)) (t : Token) : Read α := do
  let line ← tokenLine t
  match t with
  | .finish => throw (.malformed 2 (messages ++ [(line, "syntax error: unexpected end of file")]))
  | _ =>
    let (near, text) ← nearText
    throw (.malformed 2 (messages ++ [(line, "syntax error near \x60" ++ near ++ "\x27"),
      (line, "\x60" ++ text ++ "\x27")]))

/-- A complaint about a token. -/
def refuse (t : Token) (message : String) : Read Conditional := do
  pure (.error ([(← tokenLine t, message)], t))

/-- The operand that comes next, behind an operator with so many operands. -/
def operand (kind : String) (here : Surrounding) : Read (Except (List (Nat × String) × Token) Word) := do
  let token ← tryCatch (conditionToken self here) fun (t : Trouble) => match t with
    | .short => throw .short
    | .malformed status messages => do
      let r ← get
      throw (.malformed status (messages ++ [(endLine r, "unexpected argument to conditional " ++ kind
        ++ " operator")]))
  match token with
  | .word w => pure (.ok w)
  | t =>
    let shown := match t.text? with
      | some text => " \x60" ++ text ++ "\x27"
      | none => ""
    pure (.error ([(← tokenLine t, "unexpected argument" ++ shown ++ " to conditional " ++ kind
      ++ " operator")], t))

/-- The second operand of an operator. -/
def secondOperand (op : String) : Read (Except (List (Nat × String) × Token) Word) := do
  let groups := (← get).groups
  if op == "=" || op == "==" || op == "!=" then modify fun r => { r with groups := true }
  let w ← operand self "binary" (if op == "=~" then .regex else .word)
  modify fun r => { r with groups := groups }
  pure w

/-- A condition that starts with a word. -/
def comparison (a : Word) : Read Conditional := do
  let t ← conditionToken self .word
  let op : Option String := match t with
    | .sign "<" => some "<"
    | .sign ">" => some ">"
    | .word w => w.plain?.filter binaryOperators.contains
    | _ => none
  match op, t with
  | some op, _ =>
    match ← secondOperand self op with
    | .ok b => pure (.ok (.binary op a b, ← tokenPastLines self .word))
    | .error e => pure (.error e)
  | none, .close | none, .sign "&&" | none, .sign "||" | none, .sign ")" => pure (.ok (.word a, t))
  | none, t =>
    refuse t (match t.text? with
      | some text => "unexpected token \x60" ++ text ++ "\x27, conditional binary operator expected"
      | none => "conditional binary operator expected")

/-- A condition up to a connective that binds less tightly; `limit` bounds how deep it is nested. -/
def conditionAt : (limit : Nat) → (either : Bool) → Read Conditional
  | 0, _ => throw .short
  | limit + 1, either => do
    let first ← if either then conditionAt limit false else term limit
    match first with
    | .ok (a, .sign o) =>
      if o == (if either then "||" else "&&") then
        match ← conditionAt limit either with
        | .ok (b, t) => pure (.ok (if either then .either a b else .both a b, t))
        | .error e => pure (.error e)
      else pure first
    | _ => pure first
where
  /-- A condition that may be negated or in parentheses. -/
  term : (limit : Nat) → Read Conditional
    | 0 => throw .short
    | limit + 1 => do
      let t ← tokenPastLines self .word
      match t with
      | .close => pure (.error ([], t))
      | .sign "(" =>
        let line := (← get).line
        match ← conditionAt limit true with
        | .ok (c, .sign ")") => pure (.ok (.group c, ← tokenPastLines self .word))
        | .ok (_, t) =>
          let message := match t.text? with
            | some text => "unexpected token \x60" ++ text ++ "\x27, expected \x60)\x27"
            | none => "expected \x60)\x27"
          pure (.error ([(line, message)], t))
        | .error (messages, t) => pure (.error (messages ++ [(line, "expected \x60)\x27")], t))
      | .word w =>
        match w.plain? with
        | some "!" =>
          match ← term limit with
          | .ok (c, t) => pure (.ok (.negation c, t))
          | .error e => pure (.error e)
        | some op =>
          if unaryOperators.contains op then
            match ← operand self "unary" .word with
            | .ok w => pure (.ok (.unary op w, ← tokenPastLines self .word))
            | .error e => pure (.error e)
          else comparison self w
        | none => comparison self w
      | t => refuse t ("unexpected token \x60" ++ t.text?.getD "" ++ "\x27 in conditional command")

/-- A condition behind its brackets. -/
def condition : Read Command := do
  let line := (← get).line
  match ← conditionAt self 0x10000 true with
  | .ok (c, .close) => pure (.condition line c)
  | .ok (_, .finish) => failCondition [(line, "unexpected EOF while looking for \x60]]\x27")] .finish
  | .ok (_, t) =>
    let message := match t.text? with
      | some text => ": unexpected token \x60" ++ text ++ "\x27"
      | none => ""
    failCondition [(line, "syntax error in conditional expression" ++ message)] t
  | .error (messages, t) => failCondition messages t

/-! ## Simple commands -/

/-- A simple command that is being read. -/
structure Gathered where
  line : Nat
  assigns : List Assign := []
  arguments : List Argument := []
  redirects : List Redirect := []
  deriving Inhabited

/-- Puts the text of an alias in the place of a word that comes next. -/
def replaceAlias : Read Bool := do
  let r ← get
  if r.aliases.isEmpty then pure false
  else
    match ← plainWord? with
    | none => pure false
    | some word =>
      match r.aliases.lookup word with
      | none => pure false
      | some text =>
        if r.replaced.any fun e => e.1 == word && r.place < e.2 then pure false
        else
          let before := r.chars.extract 0 r.place
          let after := r.chars.extract (r.place + word.length) r.chars.size
          let shift (n : Nat) : Nat := if n ≥ r.place + word.length then n - word.length + text.length else n
          let goesOn := text.endsWith " " || text.endsWith "\t"
          set { r with
            chars := before ++ text.toList.toArray ++ after
            aliasPlaces := (if goesOn then [r.place + text.length] else []) ++ r.aliasPlaces.map shift
            replaced := (word, r.place + text.length)
              :: r.replaced.map fun (e : String × Nat) => (e.1, shift e.2) }
          pure true

/-- Puts the text of an alias in the place of a word that comes next and follows an alias with a blank at its end.
A word in quotes is no alias, and leaves that to the one behind it. -/
def replaceNextAlias : Read Bool := do
  let r ← get
  if !r.aliasPlaces.any (· ≤ r.place) then pure false
  else
    match ← peek with
    | some '"' | some '\x27' | some '\\' => pure false
    | _ =>
      set { r with aliasPlaces := r.aliasPlaces.filter (· > r.place) }
      let replaced ← replaceAlias
      -- the text of the alias may start with one, too
      if replaced then modify fun t => { t with aliasPlaces := r.place :: t.aliasPlaces }
      pure replaced

/-- Puts the texts of aliases in the place of the word that a command starts with. -/
def replaceAliases : Read Unit :=
  iterate (fun (_ : Unit) => do
    skipBlanks
    pure (if ← replaceAlias then .inl () else .inr ())) endless ()

/-- A simple command, or the definition of a function. -/
def simple : Read Command := do
  let start ← get
  iterate (fun (g : Gathered) => do
    skipBlanks
    let finish : Read (Gathered ⊕ Command) := do
      if g.assigns.isEmpty && g.arguments.isEmpty && g.redirects.isEmpty then unexpected self
      pure (.inr (.simple g.line g.assigns.reverse g.arguments.reverse g.redirects.reverse))
    match ← redirect? self with
    | some d => pure (.inl { g with redirects := d :: g.redirects })
    | none =>
      match ← peek with
      | none | some '\n' => finish
      | some _ =>
        if (← operator?).isSome then
          let first := match g.arguments with
            | [.word w] => g.assigns.isEmpty && g.redirects.isEmpty && w.raw != ""
            | _ => false
          if ← provided first (seesOperator "(") then
            -- the definition of a function
            skip 1
            expectOperatorOnLine self ")"
            skipLines self
            let name := match g.arguments with
              | [.word w] => w.raw
              | _ => ""
            let compound ← isCompound
            if !compound then unexpected self
            let body ← self.command
            pure (.inr (.function start.line name body))
          else finish
        else
          let declares := match g.arguments.getLast? with
            | some (.word w) => declaringNames.contains w.raw
            | _ => false
          if g.arguments.isEmpty then
            match ← assign? self with
            | some a =>
              let line := (← get).line
              pure (.inl { g with assigns := a :: g.assigns, line := line })
            | none =>
              if ← replaceAlias then pure (.inl g)
              else
                let w ← wordIn self .word
                -- the line is the one that the next token is on
                let after ← get
                skipBlanks
                let line ← match ← peek with
                  | none | some '\n' => pure after.line
                  | some _ =>
                    if (← operator?).isSome then pure (← get).line
                    else do
                      let _ ← tryCatch (some <$> wordIn self .word) fun (t : Trouble) => match t with
                        | .short => throw .short
                        | _ => pure none
                      pure (← get).line
                set after
                pure (.inl { g with arguments := [.word w], line := line })
          else
            if ← replaceNextAlias then return .inl g
            let before ← get
            let assigned ← if declares then assign? self else pure none
            match assigned with
            | some (.list name s append es) =>
              let raw ← spelled before.place
              pure (.inl { g with arguments := .assign (.list name s append es) raw :: g.arguments })
            | _ =>
              set before
              let w ← wordIn self .word
              pure (.inl { g with arguments := .word w :: g.arguments })) endless { line := start.line }
where
  /-- Does a compound command come next? -/
  isCompound : Read Bool := do
    match ← peek with
    | some '(' => pure true
    | _ =>
      match ← plainWord? with
      | some w =>
        pure (["\x7b", "if", "case", "for", "while", "until", "select", "[["].contains w)
      | none => pure false

/-! ## Compound commands -/

/-- Commands, of which there must be one. -/
def some_ : Read Command := do
  skipLines self
  if ← atEnd then unexpected self
  self.commands

/-- The body of a loop. -/
def loopBody : Read Command := do
  skipLines self
  if ← takeWord? "\x7b" then
    let body ← some_ self
    expectWord self "\x7d"
    pure body
  else
    expectWord self "do"
    let body ← some_ self
    expectWord self "done"
    pure body

/-- The rest of a choice behind its first word; `limit` bounds its branches. -/
def choice : (limit : Nat) → Read Command
  | 0 => throw .short
  | limit + 1 => do
    let test ← some_ self
    expectWord self "then"
    let yes ← some_ self
    skipBlanks
    if ← takeWord? "elif" then
      let no ← choice limit
      pure (.choice test yes no)
    else if ← takeWord? "else" then
      let no ← some_ self
      expectWord self "fi"
      pure (.choice test yes no)
    else
      expectWord self "fi"
      pure (.choice test yes .nothing)

/-- Words up to the end of a line or a semicolon. -/
def wordList : Read (List Word) :=
  iterate (fun (found : List Word) => do
    skipBlanks
    match ← peek with
    | none => complainEnd
    | some '\n' =>
      endLineHere self
      pure (.inr found.reverse)
    | some _ =>
      match ← operator? with
      | some ";" =>
        advance
        pure (.inr found.reverse)
      | some _ => unexpected self
      | none =>
        let w ← wordIn self .word
        pure (.inl (w :: found))) endless []

/-- The parts of a text between semicolons. -/
def expressionParts (text : String) : List String := text.splitOn ";"

/-- The expressions of a counting loop, behind its two parentheses. -/
def countingHead : Read (Word × Word × Word) := do
  let r ← get
  match ← expressionEnd? with
  | none => unexpected self
  | some stop =>
    skip (stop - r.place)
    let text ← since r.place
    skip 2
    match expressionParts text with
    | [a, b, c] =>
      let word (t : String) : Read Word := do
        let t := String.ofList (t.toList.dropWhile fun c => c == ' ' || c == '\t' || c == '\n')
        wordOf self .expression (if t == "" then "1" else t)
      pure (← word a, ← word b, ← word c)
    | parts =>
      let message := if parts.length < 3 then "syntax error: arithmetic expression required"
        else "syntax error: \x60;\x27 unexpected"
      complain [message, "syntax error: \x60((" ++ text ++ "))\x27"]

/-- A loop over words behind its first word, or a menu. -/
def eachLoop (menu : Bool) : Read Command := do
  skipBlanks
  let line := (← get).line
  if ← provided (!menu) (sees "((") then
    skip 2
    let (a, b, c) ← countingHead self
    skipBlanks
    let _ ← takeOperator? ";"
    let body ← loopBody self
    pure (.counting line a b c body)
  else
    match ← peek with
    | none => complainToken "newline"
    | _ => pure ()
    if (← operator?).isSome || (← peek) == some '\n' then unexpected self
    let name ← wordIn self .word
    skipLines self
    let make (arguments : Bool) (words : List Word) (body : Command) : Command :=
      if menu then .menu line name.raw arguments words body else .each line name.raw arguments words body
    if ← takeWord? "in" then
      let words ← wordList self
      let body ← loopBody self
      pure (make false words body)
    else
      let _ ← takeOperator? ";"
      let body ← loopBody self
      pure (make true [] body)

/-- The patterns of an arm, up to the parenthesis behind them. -/
def armPatterns : Read (List Word) := do
  let _ ← takeOperator? "("
  iterate (fun (found : List Word) => do
    skipBlanks
    match ← peek with
    | none | some '\n' => unexpectedOnLine self
    | some _ => pure ()
    if (← operator?).isSome then unexpectedOnLine self
    let w ← wordIn self .word
    skipBlanks
    if ← takeOperator? "|" then pure (.inl (w :: found))
    else
      expectOperatorOnLine self ")"
      pure (.inr (w :: found).reverse)) endless []

/-- The arms of a choice between patterns. -/
def arms : Read (List Arm) :=
  iterate (fun (found : List Arm) => do
    skipLines self
    if ← takeWord? "esac" then pure (.inr found.reverse)
    else
      match ← peek with
      | none => complainEnd
      | some _ => pure ()
      let patterns ← armPatterns self
      skipLines self
      let body ← if ← atEnd then pure .nothing else self.commands
      skipLines self
      let give (o : String) (e : ArmEnd) : Read (List Arm ⊕ List Arm) := do
        skip o.length
        pure (.inl (.mk patterns body e :: found))
      match ← operator? with
      | some ";;" => give ";;" .stop
      | some ";&" => give ";&" .fall
      | some ";;&" => give ";;&" .onward
      | _ =>
        expectWord self "esac"
        pure (.inr (.mk patterns body .stop :: found).reverse)) endless []

/-- A choice between patterns behind its first word. -/
def armsCommand : Read Command := do
  skipBlanks
  let line := (← get).line
  if (← operator?).isSome || (← peek) == some '\n' || (← peek).isNone then unexpectedOnLine self
  let word ← wordIn self .word
  skipLines self
  expectWord self "in"
  let arms ← arms self
  pure (.arms line word arms)

/-- An expression in two parentheses as a command, or commands in parentheses. -/
def parenthesized : Read Command := do
  let r ← get
  let subshell : Read Command := do
    skip 1
    let body ← some_ self
    expectOperator self ")"
    pure (.subshell r.line body)
  if ← sees "((" then
    skip 2
    let inner ← get
    match ← expressionEnd? with
    | some stop =>
      skip (stop - inner.place)
      let text ← since inner.place
      skip 2
      let w ← wordOf self .expression text
      pure (.arith (← get).line w)
    | none =>
      set r
      subshell
  else subshell

/-- The definition of a function behind its word. -/
def functionCommand : Read Command := do
  skipBlanks
  let line := (← get).line
  if (← operator?).isSome || (← peek) == some '\n' || (← peek).isNone then unexpectedOnLine self
  let name ← wordIn self .word
  skipBlanks
  -- parentheses with nothing between them belong to the name
  let before ← get
  if ← takeOperator? "(" then
    skipBlanks
    if !(← takeOperator? ")") then set before
  skipLines self
  if !(← simple.isCompound) then unexpected self
  let body ← self.command
  pure (.function line name.raw body)

/-- A process beside the shell behind its word. -/
def coprocess : Read Command := do
  skipBlanks
  let line := (← get).line
  let start ← get
  if (← operator?).isSome || (← peek) == some '\n' || (← peek).isNone then
    if !(← simple.isCompound) && (← handleBefore?).isNone then unexpectedOnLine self
  if ← simple.isCompound then
    let body ← self.command
    pure (.coprocess line "COPROC" body)
  else
    let name ← wordIn self .word
    skipBlanks
    if ← simple.isCompound then
      let body ← self.command
      pure (.coprocess line name.raw body)
    else
      set start
      let body ← simple self
      pure (.coprocess line "COPROC" body)

/-- A command with its redirections. -/
def command : Read Command := do
  skipBlanks
  let line := (← get).line
  let compound (body : Read Command) : Read Command := do
    let c ← body
    let ds ← redirects self
    pure (if ds.isEmpty then c else .redirected line c ds)
  match ← peek with
  | none => complainEnd
  | some '\n' => unexpected self
  | some '(' => compound (parenthesized self)
  | some _ =>
    match ← plainWord? with
    | some word =>
      if !reservedWords.contains word then simple self
      else if closingWords.contains word || word == "]]" || word == "in" then unexpected self
      else
        skip word.length
        match word with
        | "\x7b" => compound do
          let body ← some_ self
          expectWord self "\x7d"
          pure (.group body)
        | "if" => compound (choice self 0x10000)
        | "while" => compound do
          let test ← some_ self
          let body ← loopBody self
          pure (.loop true test body)
        | "until" => compound do
          let test ← some_ self
          let body ← loopBody self
          pure (.loop false test body)
        | "for" => compound (eachLoop self false)
        | "select" => compound (eachLoop self true)
        | "case" => compound (armsCommand self)
        | "[[" => compound (condition self)
        | "function" => functionCommand self
        | "coproc" => coprocess self
        | _ => unexpected self
    | none => simple self

/-! ## Lists of commands -/

/-- Further stages of a pipeline. -/
def stages (found : List Command) : Read (List Command) :=
  iterate (fun (found : List Command) => do
    skipBlanks
    match ← operator? with
    | some "|" =>
      skip 1
      skipLines self
      replaceAliases
      let c ← command self
      pure (.inl (c :: found))
    | some "|&" =>
      let line := (← get).line
      skip 2
      skipLines self
      let joined : Redirect := .descriptor (.number 2) false (.mk "1" [.plain '1'])
      let found := match found with
        | .simple line assigns arguments ds :: rest =>
          .simple line assigns arguments (ds ++ [joined]) :: rest
        | c :: rest => .redirected line c [joined] :: rest
        | [] => []
      let c ← command self
      pure (.inl (c :: found))
    | _ => pure (.inr found.reverse)) endless found

/-- The negation of a pipeline; two negations are none. -/
def negate : Command → Command
  | .negation c => c
  | .timed portable c => .timed portable (negate c)
  | c => .negation c

/-- A pipeline, which may be negated or timed; `limit` bounds the words before it. -/
def pipeline : (limit : Nat) → Read Command
  | 0 => throw .short
  | limit + 1 => do
    replaceAliases
    let bare : Read Bool := do
      skipBlanks
      match ← peek with
      | none | some '\n' => pure true
      | some _ =>
        match ← operator? with
        | some o => pure ([";", "&", "&&", "||", ")"].contains o)
        | none => pure false
    if ← takeWord? "!" then
      if ← bare then pure (.negation .nothing)
      else
        let c ← pipeline limit
        pure (negate c)
    else if ← takeWord? "time" then
      skipBlanks
      let portable ← takeWord? "-p"
      if ← bare then pure (.timed portable .nothing)
      else
        let c ← pipeline limit
        pure (.timed portable c)
    else
      let c ← command self
      let all ← stages self [c]
      pure (match all with
        | [one] => one
        | all => .pipeline all)

/-- Pipelines that are joined by conditions. -/
def joined : Read Command := do
  let first ← pipeline self 0x10000
  iterate (fun (c : Command) => do
    skipBlanks
    match ← operator? with
    | some "&&" =>
      skip 2
      skipLines self
      let d ← pipeline self 0x10000
      pure (.inl (.both c d))
    | some "||" =>
      skip 2
      skipLines self
      let d ← pipeline self 0x10000
      pure (.inl (.either c d))
    | _ => pure (.inr c)) endless first

/-- Commands one after another; without `lines` the end of a line ends them. -/
def listOf (lines : Bool) : Read Command := do
  let chain (cs : List Command) : Command :=
    match cs with
    | [] => .nothing
    | c :: rest => rest.foldl (fun after c => .sequence c after) c
  let pass : Read Unit := if lines then skipLines self else skipBlanks
  let isOver : Read Bool := do
    if ← provided (!lines) (isAt 0 '\n') then pure true else atEnd
  pass
  iterate (fun (found : List Command) => do
    replaceAliases
    pass
    if ← isOver then pure (.inr (chain found))
    else
      let c ← joined self
      skipBlanks
      match ← operator? with
      | some ";" =>
        skip 1
        pass
        pure (.inl (c :: found))
      | some "&" =>
        skip 1
        pass
        pure (.inl (.background c :: found))
      | _ =>
        if ← provided lines (isAt 0 '\n') then
          pass
          pure (.inl (c :: found))
        else pure (.inr (chain (c :: found)))) endless []

end

/-- The readers; `limit` bounds how deep words and commands are nested. -/
def parts : (limit : Nat) → Parts
  | 0 => default
  | limit + 1 =>
    { pieces := fun here r => piecesIn (parts limit) here r
      command := fun r => command (parts limit) r
      commands := fun r => listOf (parts limit) true r }

/-- Words and commands nested in each other at most. -/
def nesting : Nat := 0x10000000

/-- The commands up to the end of a line; none at the end of the text. -/
def unit : Read (Option Command) := do
  let self := parts nesting
  skipLines self
  match ← peek with
  | none => pure none
  | some _ =>
    if ← atEnd then unexpected self
    let c ← listOf self false
    skipBlanks
    match ← peek with
    | none =>
      gatherDocuments self
      pure (some c)
    | some '\n' =>
      endLineHere self
      pure (some c)
    | some _ => unexpected self

end Read

/-- Reads the commands up to the end of a line; none at the end of the text. -/
def readUnit (r : Reader) : Except Trouble (Option Command × Reader) := Read.unit.run r

/-- Reads the elements of a list up to its closing parenthesis. -/
def readElements (r : Reader) : Except Trouble (List Element × Reader) :=
  (Read.elements (Read.parts Read.nesting)).run r

/-- Reads all of a text as pieces. -/
def readPieces (here : Surrounding) (r : Reader) : Except Trouble (List Piece × Reader) :=
  ((Read.parts Read.nesting).pieces here).run r

end HardenAudit.ExtendedShell
