import HardenAudit.Program.Regex

/-!
# Scripts of the stream editor

A script is a row of commands, each for the lines that its addresses select.  Blocks and labels are
kept as places in the row.
-/

namespace HardenAudit.Program.Edit

/-- An expression with its flags; one without a text is the last one that was used. -/
structure Expression where
  regex : Option Regex
  ignoreCase : Bool := false
  multiline : Bool := false
  deriving Inhabited

/-- What selects a line. -/
inductive Address where
  | line (number : Nat)
  /-- Every so many lines from one on. -/
  | step (first width : Nat)
  | last
  | expression (e : Expression)
  deriving Inhabited

/-- The end of a range of lines. -/
inductive RangeEnd where
  | at_ (a : Address)
  /-- So many lines after the first one. -/
  | after (count : Nat)
  /-- The next line whose number is a multiple. -/
  | multiple (width : Nat)
  deriving Inhabited

/-- How the case of letters is changed. -/
inductive CaseChange where
  | lower
  | upper
  | keep
  deriving DecidableEq, Repr, Inhabited

/-- A part of a replacement. -/
inductive Part where
  | text (s : String)
  | group (number : Nat)
  /-- A change of case up to the next one. -/
  | all (c : CaseChange)
  /-- A change of case of the next letter. -/
  | next (c : CaseChange)
  deriving Inhabited

/-- A substitution. -/
structure Substitution where
  what : Expression
  new : List Part
  every : Bool := false
  print : Bool := false
  number : Nat := 1
  file : Option String := none
  deriving Inhabited

/-- What a command does. -/
inductive Action where
  /-- Skips to the end of the block, if the addresses do not select the line. -/
  | block (finish : Nat)
  | blockEnd
  | label
  | jump (label : String) (onlyIf : Option Bool)
  | append (text : String)
  | insert (text : String)
  | change (text : String)
  | substitute (s : Substitution)
  | translate (table : List (Char × Char))
  | quit (status : Nat) (quietly : Bool)
  /-- Adds a file, or the next line of it, behind the line. -/
  | readFile (path : String) (oneLine : Bool)
  | writeFile (path : String) (firstOnly : Bool)
  /-- Shows the line unambiguously. -/
  | show_ (width : Option Nat)
  /-- A command of one letter. -/
  | simple (letter : Char)
  deriving Inhabited

/-- A command with its addresses. -/
structure Instruction where
  first : Option Address := none
  second : Option RangeEnd := none
  negated : Bool := false
  action : Action
  deriving Inhabited

/-- A whole script: its commands, and where labels stand. -/
structure Program where
  instructions : Array Instruction := #[]
  labels : List (String × Nat) := []
  /-- Does the script itself ask to print nothing by default? -/
  quiet : Bool := false
  deriving Inhabited

/-! ## Reading -/

/-- Reading under way: what is left, how much was read, and what was found. -/
structure Reading where
  rest : List Char
  position : Nat := 0
  extended : Bool := false
  found : Program := {}
  /-- The blocks that were not yet closed. -/
  blocks : List Nat := []

/-- Why a script cannot be read: a message, and the number of characters that were read. -/
structure Fault where
  message : String
  position : Nat
  deriving Inhabited

/-- Reading a script. -/
abbrev Read := StateT Reading (Except Fault)

/-- Fails at the current place. -/
def bad {α : Type} (message : String) : Read α := do
  throw ⟨message, (← get).position⟩

/-- The next character; none at the end. -/
def next : Read (Option Char) := do
  let r ← get
  match r.rest with
  | c :: rest =>
    set { r with rest := rest, position := r.position + 1 }
    pure (some c)
  | [] => pure none

/-- The next character, which stays where it is. -/
def peek : Read (Option Char) := do
  pure (← get).rest.head?

/-- Drops characters that pass a test. -/
def skipWhile (test : Char → Bool) : Read Unit := modify fun r =>
  let dropped := (r.rest.takeWhile test).length
  { r with rest := r.rest.drop dropped, position := r.position + dropped }

/-- Characters that pass a test. -/
def takeWhile (test : Char → Bool) : Read (List Char) := do
  let taken := (← get).rest.takeWhile test
  skipWhile test
  pure taken

/-- Is the character a blank in a line? -/
def isBlank (c : Char) : Bool := c == ' ' || c == '\t'

/-- A number. -/
def number : Read Nat := do
  let ds ← takeWhile Char.isDigit
  pure (Shell.digits 10 ds 0 0).1

/-- The character of an escape for a code, behind its letter, and the rest. -/
def codeEscape? (letter : Char) (cs : List Char) : Option (Char × List Char) :=
  let code (base most : Nat) : Option (Char × List Char) :=
    let ds := (cs.take most).takeWhile fun c => (Shell.digitValue? base c).isSome
    if ds.isEmpty then none
    else some (Char.ofNat ((Shell.digits base ds 0 0).1 % 256), cs.drop ds.length)
  match letter with
  | 'x' => code 16 2
  | 'o' => code 8 3
  | 'd' => code 10 3
  | 'a' => some (Char.ofNat 7, cs)
  | 'f' => some (Char.ofNat 12, cs)
  | 'r' => some ('\r', cs)
  | 't' => some ('\t', cs)
  | 'v' => some (Char.ofNat 11, cs)
  | _ => none

/-- A text with the escapes for codes replaced; `limit` may be the length. -/
def withoutCodes : (limit : Nat) → List Char → List Char
  | 0, cs => cs
  | _, [] => []
  | limit + 1, '\\' :: c :: rest =>
    match codeEscape? c rest with
    | some (d, rest) =>
      let special := "*.[]^$/\\+?()|\x7b\x7d&".toList.contains d
      (if special then ['\\', d] else [d]) ++ withoutCodes limit rest
    | none => '\\' :: c :: withoutCodes limit rest
  | limit + 1, c :: rest => c :: withoutCodes limit rest

/-- The part of a text up to a divider that is not protected; the divider is read as well.  In an
expression a set in brackets protects the divider.  None if there is no divider. -/
def upTo (divider : Char) (isExpression : Bool) : (limit : Nat) → (inSet : Bool) → List Char →
    Read (Option (List Char))
  | 0, _, _ => pure none
  | limit + 1, inSet, done => do
    match ← next with
    | none => pure none
    | some c =>
      if c == '\n' && isExpression then
        modify fun r => { r with rest := c :: r.rest, position := r.position - 1 }
        pure none
      else if inSet then
        if c == '\\' then
          match ← peek with
          | some 'n' =>
            let _ ← next
            upTo divider isExpression limit true ('\n' :: done)
          | _ => upTo divider isExpression limit true (c :: done)
        else upTo divider isExpression limit (c != ']') (c :: done)
      else if c == divider then pure (some done.reverse)
      else if c == '\\' then
        match ← next with
        | none => pure none
        | some d =>
          if d == divider then
            let kept := !isExpression && d == '&'
            upTo divider isExpression limit false (if kept then d :: c :: done else d :: done)
          else if d == 'n' && isExpression then upTo divider isExpression limit false ('\n' :: done)
          else if d == '\n' && isExpression then upTo divider isExpression limit false (d :: done)
          else upTo divider isExpression limit false (d :: c :: done)
      else if c == '[' && isExpression then
        -- a bracket right behind the start of a set belongs to it
        let r ← get
        let lead := match r.rest with
          | '^' :: ']' :: _ => 2
          | '^' :: _ => 1
          | ']' :: _ => 1
          | _ => 0
        let taken := r.rest.take lead
        set { r with rest := r.rest.drop lead, position := r.position + lead }
        upTo divider isExpression limit true (taken.reverse ++ (c :: done))
      else upTo divider isExpression limit false (c :: done)

/-- Reads up to a divider. -/
def upToDivider (divider : Char) (isExpression : Bool) : Read (Option (List Char)) := do
  upTo divider isExpression ((← get).rest.length + 1) false []

/-- The expression that a text is. -/
def expression (text : List Char) (ignoreCase multiline : Bool) : Read Expression := do
  if text.isEmpty then pure { regex := none, ignoreCase := ignoreCase, multiline := multiline }
  else
    let r ← get
    match Regex.ofText { extended := r.extended, strict := true, single := !r.extended, balanced := true } (String.ofList (withoutCodes (text.length + 1) text)) with
    | .ok regex => pure { regex := some regex, ignoreCase := ignoreCase, multiline := multiline }
    | .error message => bad message

/-- Flags behind an expression that is an address. -/
def addressFlags : (limit : Nat) → Bool × Bool → Read (Bool × Bool)
  | 0, f => pure f
  | limit + 1, (ignoreCase, multiline) => do
    match ← peek with
    | some 'I' =>
      let _ ← next
      addressFlags limit (true, multiline)
    | some 'M' =>
      let _ ← next
      addressFlags limit (ignoreCase, true)
    | _ => pure (ignoreCase, multiline)

/-- An address, if one stands here. -/
def address? : Read (Option Address) := do
  let slashed (divider : Char) : Read (Option Address) := do
    match ← upToDivider divider true with
    | none => bad "unterminated address regex"
    | some text =>
      let (ignoreCase, multiline) ← addressFlags 8 (false, false)
      let e ← expression text ignoreCase multiline
      pure (some (.expression e))
  match ← peek with
  | some '/' =>
    let _ ← next
    slashed '/'
  | some '\\' =>
    let _ ← next
    match ← next with
    | some c => slashed c
    | none => bad "unterminated address regex"
  | some '$' =>
    let _ ← next
    pure (some .last)
  | some c =>
    if c.isDigit then
      let n ← number
      skipWhile isBlank
      match ← peek with
      | some '~' =>
        let _ ← next
        let width ← number
        pure (some (.step n width))
      | _ => pure (some (.line n))
    else pure none
  | none => pure none

/-- The end of a range, if one stands here. -/
def rangeEnd? : Read (Option RangeEnd) := do
  match ← peek with
  | some '+' =>
    let _ ← next
    let n ← number
    pure (some (.after n))
  | some '~' =>
    let _ ← next
    let n ← number
    pure (some (.multiple n))
  | _ =>
    match ← address? with
    | some a => pure (some (.at_ a))
    | none => pure none

/-- The end of a command. -/
def endOfCommand : Read Unit := do
  skipWhile isBlank
  match ← peek with
  | none => pure ()
  | some c =>
    if c == '\x7d' || c == '#' then pure ()
    else
      let _ ← next
      if c != '\n' && c != ';' then bad "extra characters after command"

/-- The text of a command that adds lines: up to the end of a line that no backslash stands before. -/
def textLines : (limit : Nat) → List Char → Read (List Char)
  | 0, done => pure done.reverse
  | limit + 1, done => do
    match ← next with
    | none => pure done.reverse
    | some '\n' => pure done.reverse
    | some '\\' =>
      match ← next with
      | none => pure done.reverse
      | some 'n' => textLines limit ('\n' :: done)
      | some c =>
        let r ← get
        match codeEscape? c r.rest with
        | some (d, rest) =>
          set { r with rest := rest, position := r.position + (r.rest.length - rest.length) }
          textLines limit (d :: done)
        | none => textLines limit (c :: done)
    | some c => textLines limit (c :: done)

/-- Drops the end of a line with the blanks before it, if it comes next. -/
def skipLineEnd : Read Unit := do
  let r ← get
  let blanks := r.rest.takeWhile isBlank
  match r.rest.drop blanks.length with
  | '\n' :: rest => set { r with rest := rest, position := r.position + blanks.length + 1 }
  | _ => pure ()

/-- The text of a command that adds lines: on its own lines behind a backslash, or on the same one. -/
def addedText : Read String := do
  skipWhile isBlank
  match ← peek with
  | none | some '\n' => bad "expected \\ after \x60a', \x60c' or \x60i'"
  | some c =>
    if c == '\\' then
      let _ ← next
      skipLineEnd
    let size := (← get).rest.length
    let cs ← textLines (size + 1) []
    pure (if size = 0 then "" else String.ofList cs ++ "\n")

/-- A label, up to a blank or a semicolon. -/
def labelName : Read String := do
  skipWhile isBlank
  let cs ← takeWhile fun c => c != '\n' && c != ';' && !isBlank c
  pure (String.ofList cs)

/-- A file name, up to the end of the line. -/
def fileName : Read String := do
  skipWhile isBlank
  let cs ← takeWhile (· != '\n')
  if cs.isEmpty then bad "missing filename in r/R/w/W commands"
  pure (String.ofList cs)

/-- The parts of a replacement; `limit` may be the length. -/
def replacement : (limit : Nat) → List Char → (text : List Char) → List Part
  | 0, _, text => [.text (String.ofList text.reverse)]
  | _, [], text => if text.isEmpty then [] else [.text (String.ofList text.reverse)]
  | limit + 1, c :: cs, text =>
    let cut (p : Part) (rest : List Char) : List Part :=
      (if text.isEmpty then [] else [.text (String.ofList text.reverse)])
        ++ p :: replacement limit rest []
    if c == '&' then cut (.group 0) cs
    else if c == '\\' then
      match cs with
      | [] => replacement limit [] ('\\' :: text)
      | d :: rest =>
        if d.isDigit then cut (.group (d.toNat - 48)) rest
        else
          match d with
          | 'L' => cut (.all .lower) rest
          | 'U' => cut (.all .upper) rest
          | 'E' => cut (.all .keep) rest
          | 'l' => cut (.next .lower) rest
          | 'u' => cut (.next .upper) rest
          | 'n' => replacement limit rest ('\n' :: text)
          | d =>
            match codeEscape? d rest with
            | some (e, rest) => replacement limit rest (e :: text)
            | none => replacement limit rest (d :: text)
    else replacement limit cs (c :: text)

/-- The flags of a substitution. -/
structure Flags where
  every : Bool := false
  print : Bool := false
  ignoreCase : Bool := false
  multiline : Bool := false
  number : Option Nat := none
  file : Option String := none

/-- Reads the flags of a substitution; each takes a character, so `limit` may be their number. -/
def flags : (limit : Nat) → Flags → Read Flags
  | 0, f => pure f
  | limit + 1, f => do
    match ← peek with
    | none => pure f
    | some c =>
      if c == '\x7d' || c == '#' then pure f
      else if c.isDigit then
        if f.number.isSome then
          let _ ← next
          bad "multiple number options to \x60s' command"
        let n ← number
        if n = 0 then bad "number option to \x60s' command may not be zero"
        flags limit { f with number := some n }
      else
        let _ ← next
        match c with
        | '\n' | ';' => pure f
        | ' ' => flags limit f
        | 'i' | 'I' => flags limit { f with ignoreCase := true }
        | 'm' | 'M' => flags limit { f with multiline := true }
        | 'g' =>
          if f.every then bad "multiple \x60g' options to \x60s' command"
          flags limit { f with every := true }
        | 'p' =>
          if f.print then bad "multiple \x60p' options to \x60s' command"
          flags limit { f with print := true }
        | 'w' =>
          let path ← fileName
          pure { f with file := some path }
        | _ => bad "unknown option to \x60s'"

/-- The highest group that a replacement refers to. -/
def highestGroup (parts : List Part) : Nat :=
  parts.foldl (fun n (p : Part) => match p with
    | .group k => max n k
    | _ => n) 0

/-- A substitution behind its letter. -/
def substitution : Read Action := do
  let unterminated {α : Type} : Read α := bad "unterminated \x60s' command"
  match ← next with
  | none => unterminated
  | some divider =>
    match ← upToDivider divider true with
    | none => unterminated
    | some what =>
      match ← upToDivider divider false with
      | none => unterminated
      | some new =>
        let f ← flags ((← get).rest.length + 1) {}
        let e ← expression what f.ignoreCase f.multiline
        let parts := replacement (new.length + 1) new []
        if let some r := e.regex then
          let highest := highestGroup parts
          if highest > r.groupCount then
            bad ("invalid reference \\" ++ toString highest ++ " on \x60s' command's RHS")
        pure (.substitute
          { what := e, new := parts, every := f.every, print := f.print,
            number := f.number.getD 1, file := f.file })

/-- The characters of one side of a translation. -/
def translated : List Char → List Char
  | '\\' :: c :: rest =>
    (match c with
      | 'n' => ['\n']
      | '\\' => ['\\']
      | c =>
        match codeEscape? c [] with
        | some (d, _) => [d]
        | none => [c]) ++ translated rest
  | c :: rest => c :: translated rest
  | [] => []

/-- A translation behind its letter. -/
def translation : Read Action := do
  let unterminated {α : Type} : Read α := bad "unterminated \x60y' command"
  match ← next with
  | none => unterminated
  | some divider =>
    match ← upToDivider divider false with
    | none => unterminated
    | some a =>
      match ← upToDivider divider false with
      | none => unterminated
      | some b =>
        let a := translated a
        let b := translated b
        if a.length != b.length then bad "strings for \x60y' command are different lengths"
        endOfCommand
        pure (.translate (a.zip b))

/-- Adds a command to the script. -/
def emit (i : Instruction) : Read Unit := modify fun r =>
  { r with found := { r.found with instructions := r.found.instructions.push i } }

/-- One command behind its addresses. -/
def command (first : Option Address) (second : Option RangeEnd) (negated : Bool) : Read Unit := do
  let add (a : Action) : Read Unit := emit ⟨first, second, negated, a⟩
  let alone : Read Unit := do
    if second.isSome then bad "command only uses one address"
  match ← next with
  | none => bad "missing command"
  | some c =>
    match c with
    | '#' => bad "comments don't accept any addresses"
    | '\x7b' =>
      let r ← get
      set { r with blocks := r.found.instructions.size :: r.blocks }
      add (.block 0)
    | '\x7d' =>
      let r ← get
      match r.blocks with
      | [] => bad "unexpected \x60\x7d'"
      | start :: blocks =>
        if first.isSome then bad "\x7d doesn't want any addresses"
        let here := r.found.instructions.size
        let closed := r.found.instructions.modify start fun i => { i with action := .block here }
        set { r with blocks := blocks, found := { r.found with instructions := closed } }
        endOfCommand
        add .blockEnd
    | 'a' =>
      let text ← addedText
      add (.append text)
    | 'i' =>
      let text ← addedText
      add (.insert text)
    | 'c' =>
      let text ← addedText
      add (.change text)
    | ':' =>
      if first.isSome then bad ": doesn't want any addresses"
      let name ← labelName
      if name = "" then bad "\":\" lacks a label"
      modify fun r => { r with found :=
        { r.found with labels := (name, r.found.instructions.size) :: r.found.labels } }
      add .label
    | 'b' | 't' | 'T' =>
      let name ← labelName
      add (.jump name (if c == 'b' then none else some (c == 't')))
    | 'q' | 'Q' =>
      alone
      skipWhile isBlank
      let n ← number
      endOfCommand
      add (.quit n (c == 'Q'))
    | 'l' | 'L' =>
      skipWhile isBlank
      let ds ← takeWhile Char.isDigit
      endOfCommand
      add (.show_ (if ds.isEmpty then none else some (Shell.digits 10 ds 0 0).1))
    | 'r' | 'R' =>
      let path ← fileName
      add (.readFile path (c == 'R'))
    | 'w' | 'W' =>
      let path ← fileName
      add (.writeFile path (c == 'W'))
    | 's' =>
      let a ← substitution
      add a
    | 'y' =>
      let a ← translation
      add a
    | 'v' =>
      let _ ← labelName
      pure ()
    | c =>
      if "=dDFgGhHnNpPzx".toList.contains c then
        endOfCommand
        add (.simple c)
      else bad ("unknown command: \x60" ++ c.toString ++ "'")

/-- All commands; each takes a character at least, so `limit` may be the length. -/
def commands : (limit : Nat) → Read Unit
  | 0 => pure ()
  | limit + 1 => do
    skipWhile fun c => isBlank c || c == '\n' || c == ';'
    match ← peek with
    | none =>
      let r ← get
      if !r.blocks.isEmpty then throw ⟨"unmatched \x60\x7b'", 0⟩
    | some '#' =>
      let r ← get
      if r.position = 0 && (r.rest.take 3 == ['#', 'n', '\n'] || r.rest == ['#', 'n']) then
        modify fun r => { r with found := { r.found with quiet := true } }
      skipWhile (· != '\n')
      commands limit
    | some _ =>
      let first ← address?
      skipWhile isBlank
      let second ← match first, ← peek with
        | some _, some ',' => do
          let _ ← next
          skipWhile isBlank
          match ← rangeEnd? with
          | some e => pure (some e)
          | none =>
            let _ ← next
            bad "unexpected \x60,'"
        | _, _ => pure none
      skipWhile isBlank
      match first, second with
      | some (.line 0), some (.at_ (.expression _)) => pure ()
      | some (.line 0), _ =>
        let _ ← next
        bad "invalid usage of line address 0"
      | _, _ => pure ()
      let negated := (← peek) == some '!'
      if negated then
        let _ ← next
        skipWhile isBlank
        if (← peek) == some '!' then
          let _ ← next
          bad "multiple \x60!'s"
      command first second negated
      commands limit

/-- Reads a script. -/
def Program.ofText (extended : Bool) (text : String) : Except Fault Program := do
  let (_, r) ← (commands (text.length + 1)).run { rest := text.toList, extended := extended }
  pure r.found

/-- The first label that is jumped to and does not stand anywhere. -/
def Program.missingLabel? (p : Program) : Option String :=
  p.instructions.toList.findSome? fun i =>
    match i.action with
    | .jump name _ =>
      if name = "" || (p.labels.lookup name).isSome then none else some name
    | _ => none

end HardenAudit.Program.Edit

/-!
## Substitutions

The text of a line with matches of an expression replaced.  An empty match does not count right
behind another match.
-/

namespace HardenAudit.Program.Edit

/-- A replacement that is being put together: the text so far in reverse, how letters are changed, and
how the next letter is. -/
structure Composition where
  out : List Char := []
  all : CaseChange := .keep
  once : Option CaseChange := none

/-- A letter with its case changed. -/
def CaseChange.apply : CaseChange → Char → Char
  | .lower, c => c.toLower
  | .upper, c => c.toUpper
  | .keep, c => c

namespace Composition

/-- Adds characters. -/
def add (k : Composition) : List Char → Composition
  | [] => k
  | c :: cs =>
    let first := (k.once.getD k.all).apply c
    { k with out := (cs.map k.all.apply).reverse ++ first :: k.out, once := none }

/-- Adds a part of a replacement for a match. -/
def part (t : Regex.Subject) (m : Regex.Match) (k : Composition) : Part → Composition
  | .text s => k.add s.toList
  | .group 0 => k.add (t.slice m.start m.finish)
  | .group n =>
    match m.groups.lookup n with
    | some (a, b) => k.add (t.slice a b)
    | none => k
  | .all c => { k with all := c, once := none }
  | .next c => { k with once := some c }

end Composition

/-- What stands in place of a match, in reverse. -/
def replaced (parts : List Part) (t : Regex.Subject) (m : Regex.Match) : List Char :=
  (parts.foldl (Composition.part t m) {}).out

/-- Goes through a text from a place on: the new text in reverse, and whether something was replaced.
`count` matches were found before, the last one up to `behind`; each round goes further in the text, so
`limit` may be its length. -/
def Substitution.walk (s : Substitution) (r : Regex) (t : Regex.Subject) : (limit : Nat) →
    (at_ count : Nat) → (behind : Option Nat) → (out : List Char) → (done : Bool) → List Char × Bool
  | 0, i, _, _, out, done => ((t.slice i t.chars.size).reverse ++ out, done)
  | limit + 1, i, count, behind, out, done =>
    let rest := (t.slice i t.chars.size).reverse ++ out
    if i > t.chars.size then (out, done)
    else
      match r.search? t (fun a b => a != b || behind != some a) i with
      | none => (rest, done)
      | some m =>
        let out := (t.slice i m.start).reverse ++ out
        let count := count + 1
        let chosen := count ≥ s.number
        let out := if chosen then replaced s.new t m ++ out else (t.slice m.start m.finish).reverse ++ out
        if chosen && !s.every then ((t.slice m.finish t.chars.size).reverse ++ out, true)
        else if m.finish > m.start then
          s.walk r t limit m.finish count (some m.finish) out (done || chosen)
        else
          let out := (t.slice m.finish (m.finish + 1)).reverse ++ out
          s.walk r t limit (m.finish + 1) count none out (done || chosen)

/-- The text with matches replaced; none if there was nothing to replace. -/
def Substitution.apply? (s : Substitution) (r : Regex) (t : Regex.Subject) : Option String :=
  match s.walk r t (t.chars.size + 2) 0 0 none [] false with
  | (out, true) => some (String.ofList out.reverse)
  | (_, false) => none

end HardenAudit.Program.Edit
