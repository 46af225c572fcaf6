import HardenAudit.Program.Files
import HardenAudit.Program.RichRegex
import HardenAudit.Program.Stream

/-!
# Looking for lines: `grep`
-/

namespace HardenAudit.Program

open Kernel (Refusal Work)

/-- What is looked for, and how lines are shown. -/
structure Grep where
  name : String
  regex : Option Regex
  ignoreCase : Bool := false
  invert : Bool := false
  wholeLine : Bool := false
  wholeWord : Bool := false
  count : Bool := false
  numbers : Bool := false
  offsets : Bool := false
  onlyMatching : Bool := false
  /-- Show the names of files with matches, or of those without. -/
  names : Option Bool := none
  quiet : Bool := false
  silent : Bool := false
  headed : Bool := false
  /-- Are names never shown? -/
  unheaded : Bool := false
  asText : Bool := false
  most : Option Nat := none
  before : Nat := 0
  after : Nat := 0
  /-- Were lines around the selected ones asked for, even if none? -/
  contexts : Bool := false
  /-- Does the longest match count, or the preferred one? -/
  longest : Bool := true
  colored : Bool := false
  /-- The end of lines, and what stands behind a name, if not the usual character. -/
  lineEnd : String := "\n"
  nameEnd : Option String := none
  /-- What stands between lines that do not follow each other. -/
  divider : Option String := some "--"
  /-- The name that the input is shown under. -/
  label : String := "(standard input)"
  /-- Are binary files passed over? -/
  textOnly : Bool := false
  /-- Patterns for names of files and of directories, and whether those that match are taken. -/
  fileRules : List (Bool × String) := []
  directoryRules : List (Bool × String) := []
  /-- What is done with directories: `r` goes through them, `s` passes over them. -/
  directories : Char := 'd'
  deriving Inhabited

namespace Grep

/-- A text in a colour. -/
def paint (g : Grep) (code text : String) : String :=
  if g.colored then "\x1b[" ++ code ++ "m\x1b[K" ++ text ++ "\x1b[m\x1b[K" else text

/-- The name of a file as it is shown. -/
def shownName (g : Grep) (path : String) : String := g.paint "35" path

/-- The name of a file with what stands behind it. -/
def headName (g : Grep) (path sep : String) : String :=
  g.shownName path ++ (match g.nameEnd with
    | some e => e
    | none => g.paint "36" sep)

/-- Is a name left out by rules?  The last rule that fits decides; if none fits, names are left out if
the first rule says what to take. -/
def leavesOut (rules : List (Bool × String)) (whole : Bool) (name : String) : Bool :=
  let tails (cs : List Char) : List (List Char) := (List.range cs.length).filterMap fun i =>
    if cs[i]? == some '/' && cs[i + 1]? != some '/' then some (cs.drop (i + 1)) else none
  let texts := name.toList :: (if whole then [] else tails name.toList)
  let fits (pattern : String) : Bool :=
    texts.any (Shell.Pattern.isMatch (pattern.toList.map (·, false)))
  match rules.reverse.find? fun r => fits r.2 with
  | some (takes, _) => !takes
  | none => match rules.head? with
    | some (takes, _) => takes
    | none => false

/-- May a match stand between two places of a text? -/
def accepts (g : Grep) (t : Regex.Subject) (a b : Nat) : Bool :=
  (!g.wholeLine || (a == 0 && b == t.chars.size))
    && (!g.wholeWord || (!t.isWordBefore a && !t.isWordAt b))

/-- The first match in a line from a place on. -/
def match? (g : Grep) (t : Regex.Subject) (i : Nat) : Option Regex.Match :=
  g.regex.bind fun r => r.search? t (g.accepts t) i g.longest

/-- Is a line selected? -/
def selects (g : Grep) (t : Regex.Subject) : Bool := (g.match? t 0).isSome != g.invert

/-- All matches in a line that are not empty; each goes further, so `limit` may be the length. -/
def matches_ (g : Grep) (t : Regex.Subject) : (limit : Nat) → Nat → List (Nat × Nat)
  | 0, _ => []
  | limit + 1, i =>
    match g.match? t i with
    | none => []
    | some m =>
      if m.finish > m.start then (m.start, m.finish) :: matches_ g t limit m.finish
      else if m.start ≥ t.chars.size then []
      else matches_ g t limit (m.start + 1)

/-- Going through one file. -/
structure Progress where
  number : Nat := 0
  offset : Nat := 0
  selected : Nat := 0
  /-- Lines that may be shown before the next selected one, the latest first. -/
  held : List (Nat × Nat × String) := []
  /-- Lines that are still to be shown after the last selected one. -/
  due : Nat := 0
  /-- The number of the last line that was shown, in this file. -/
  shown : Option Nat := none
  /-- Has a line of any file been shown? -/
  any : Bool := false
  binary : Bool := false
  deriving Inhabited

/-- What stands before a line; `sep` stands behind the name and the numbers. -/
def lineHead (g : Grep) (path : String) (number offset : Nat) (sep : String) : String :=
  (if g.headed then g.headName path sep else "")
    ++ (if g.numbers then g.paint "32" (toString number) ++ g.paint "36" sep else "")
    ++ (if g.offsets then g.paint "32" (toString offset) ++ g.paint "36" sep else "")

/-- The text of a line with its matches in colour. -/
def painted (g : Grep) (t : Regex.Subject) : String :=
  let found := g.matches_ t (t.chars.size + 2) 0
  let (parts, last) := found.foldl (fun (acc : List String × Nat) (m : Nat × Nat) =>
    (g.paint "01;31" (String.ofList (t.slice m.1 m.2))
      :: String.ofList (t.slice acc.2 m.1) :: acc.1, m.2)) ([], 0)
  String.join parts.reverse ++ String.ofList (t.slice last t.chars.size)

/-- A line as it is shown. -/
def lineText (g : Grep) (path : String) (number offset : Nat) (sep : String) (text : String) : String :=
  let matching := g.colored && (sep == ":") != g.invert
  let body := if matching then
      g.painted { chars := text.toList.toArray, ignoreCase := g.ignoreCase }
    else text
  g.lineHead path number offset sep ++ body ++ g.lineEnd

/-- One line of a file. -/
def step (g : Grep) (path : String) : LineStep Progress := fun p line _ =>
  let t : Regex.Subject := { chars := line.toList.toArray, ignoreCase := g.ignoreCase }
  let number := p.number + 1
  let offset := p.offset
  let p := { p with number := number, offset := offset + line.length + 1 }
  let silent := g.count || g.names.isSome || g.quiet
  if g.selects t then
    let p := { p with selected := p.selected + 1 }
    let full := g.most.any (p.selected ≥ ·)
    if silent then
      { state := p, stop := full || g.names.isSome || g.quiet }
    else if !g.asText && g.lineEnd == "\n" && line.toList.contains (Char.ofNat 0) then
      { state := { p with binary := true }, stop := true }
    else
      let held := p.held.reverse
      let first := match held with
        | (n, _, _) :: _ => n
        | [] => number
      let gap := g.contexts && p.any && p.shown != some (first - 1)
      let divider := if gap then (match g.divider with
          | some text => g.paint "36" text ++ "\n"
          | none => "") else ""
      let earlier := String.join (held.map fun (n, o, text) => g.lineText path n o "-" text)
      let own := if g.onlyMatching then
          if g.invert then ""
          else String.join ((g.matches_ t (line.length + 2) 0).map fun (a, b) =>
            g.lineHead path number (offset + a) ":"
              ++ g.paint "01;31" (String.ofList (t.slice a b)) ++ g.lineEnd)
        else g.lineText path number offset ":" line
      { state := { p with held := [], due := g.after, shown := some number, any := true }
        out := divider ++ (if g.onlyMatching then "" else earlier) ++ own
        stop := full && g.after = 0 }
  else
    let done := g.most.any (p.selected ≥ ·)
    if silent then { state := p }
    else if p.due > 0 then
      { state := { p with due := p.due - 1, shown := some number }
        out := if g.onlyMatching then "" else g.lineText path number offset "-" line
        stop := done && p.due ≤ 1 }
    else { state := { p with held := ((number, offset, line) :: p.held).take g.before } }

/-- What came of all files so far. -/
structure Result where
  found : Bool := false
  failed : Bool := false
  any : Bool := false
  deriving Inhabited

/-- Goes through one file. -/
def file (g : Grep) (path : String) (fd : Nat) (r : Result) : Work Result := do
  let shown := if path = "-" then g.label else path
  match ← streamLines g.name fd { any := r.any : Progress } (g.step shown) g.lineEnd with
  | .error e =>
    if !g.silent then report g.name (shown ++ ": " ++ e.text)
    pure { r with failed := true }
  | .ok (p, _) =>
    if p.binary && g.textOnly then pure r
    else
      if p.binary then report g.name (shown ++ ": binary file matches")
      let start := if g.headed then g.headName shown ":" else ""
      if g.count && !g.quiet && g.names.isNone then put g.name (start ++ toString p.selected ++ "\n")
      let found := p.selected > 0
      let listed := match g.names with
        | some wanted => wanted == found
        | none => false
      if listed && !g.quiet then put g.name (g.shownName shown ++ g.nameEnd.getD "\n")
      pure { r with found := r.found || found, any := p.any }

/-- Goes through what a path leads to, directories included if asked to; `limit` bounds their depth.
`named` says that the path was an argument. -/
def path (g : Grep) : (limit : Nat) → (named : Bool) → String → Result → Work Result
  | 0, _, _, r => pure r
  | limit + 1, named, p, r => do
    if g.quiet && r.found then pure r
    else if p = "-" && named then g.file p 0 r
    else
      let failed (message : String) : Work Result := do
        if !g.silent then report g.name (p ++ ": " ++ message)
        pure { r with failed := true }
      let name := if named then p else lastName p
      match ← if named then inspect p else inspectLink p with
      | .error e => failed e.text
      | .ok s =>
        if s.kind == .directory then
          if leavesOut g.directoryRules (!named) name || g.directories == 's' then pure r
          else if g.directories == 'r' then
            let names ← namesIn p
            names.foldlM (fun r n => path g limit false (inside p n) r) r
          else failed "Is a directory"
        else if leavesOut g.fileRules (!named) name then pure r
        else if !named && s.kind != .file then pure r
        else
          match ← Work.ask (.openFile p .input) with
          | .error e => failed e.text
          | .ok fd =>
            let g := if named then g else { g with headed := !g.unheaded }
            let r ← g.file p fd r
            close fd
            pure r

end Grep

/-- The options of `grep`. -/
def grepOptions : Options :=
  let o : Options := .make "EFGPivwxcnlLqshHoae:f:m:A:B:C:rRbyzuUTZID:d:X:V0123456789" []
  let plain (name : String) (c : Char) : String × Char × Takes := (name, c, .nothing)
  let value (name : String) (c : Char) : String × Char × Takes := (name, c, .value)
  { o with names :=
    [plain "basic-regexp" 'G', plain "extended-regexp" 'E', plain "fixed-regexp" 'F',
     plain "fixed-strings" 'F', plain "perl-regexp" 'P', value "after-context" 'A',
     value "before-context" 'B', value "binary-files" '0', plain "binary" 'U',
     plain "byte-offset" 'b', value "context" 'C', ("color", '*', .optional),
     ("colour", '*', .optional), plain "count" 'c', value "devices" 'D', value "directories" 'd',
     value "exclude" '-', value "exclude-from" '<', value "exclude-dir" '/', value "file" 'f',
     plain "files-with-matches" 'l', plain "files-without-match" 'L', value "group-separator" '~',
     plain "help" '?', value "include" '+', plain "ignore-case" 'i', plain "no-ignore-case" '!',
     plain "initial-tab" 'T', value "label" '=', plain "line-buffered" '_', plain "line-number" 'n',
     plain "line-regexp" 'x', value "max-count" 'm', plain "no-filename" 'h',
     plain "no-group-separator" '|', plain "no-messages" 's', plain "null" 'Z',
     plain "null-data" 'z', plain "only-matching" 'o', plain "quiet" 'q', plain "recursive" 'r',
     plain "dereference-recursive" 'R', value "regexp" 'e', plain "invert-match" 'v',
     plain "silent" 'q', plain "text" 'a', plain "unix-byte-offsets" 'u', plain "version" 'V',
     plain "with-filename" 'H', plain "word-regexp" 'w'] }

/-- Ends with a hint at the usage of `grep`. -/
def grepUsage {α : Type} (name : String) : Work α := do
  printError ("Usage: " ++ name ++ " [OPTION]... PATTERNS [FILE]...\n")
  hint name 2

/-- The patterns of a call, and the arguments that are files. -/
def grepPatterns (c : Call) : Work (List String × List String) := do
  let given := c.options.filter fun o => o.1 == 'e' || o.1 == 'f'
  if given.isEmpty then
    match c.rest with
    | [] => grepUsage c.name
    | pattern :: files => pure (pattern.splitOn "\n", files)
  else
    let texts ← given.mapM fun (letter, value) => do
      let value := value.getD ""
      if letter == 'e' then pure (value.splitOn "\n")
      else
        match ← contentOf value with
        | .ok text => pure (linesOf text).1
        | .error e => giveUp c.name 2 (value ++ ": " ++ e.text)
    pure (texts.flatten, c.rest)

/-- The expression that matches what one of several does. -/
def oneOf : List Regex → Option Regex
  | [] => none
  | [r] => some r
  | r :: rest => (oneOf rest).map (.alt r)

/-- The repetition at the start of an expression or of a part of it, which stands for nothing there;
`limit` may be the length of the expression. -/
def startingRepetitions : (limit : Nat) → (start : Bool) → List Char → List String
  | 0, _, _ => []
  | _, _, [] => []
  | limit + 1, start, c :: cs =>
    match c with
    | '\\' => startingRepetitions limit false (cs.drop 1)
    | '[' =>
      match Regex.setMembers (cs.length + 1) true {} (if cs.head? == some '^' then cs.drop 1 else cs) with
      | .ok (_, rest) => startingRepetitions limit false rest
      | .error _ => []
    | '*' | '+' | '?' =>
      (if start then [c.toString] else []) ++ startingRepetitions limit start cs
    | '\x7b' =>
      match Regex.bounds? true cs with
      | some (_, _, rest) => (if start then ["\x7b...\x7d"] else []) ++ startingRepetitions limit start rest
      | none => startingRepetitions limit false cs
    | '(' | '|' => startingRepetitions limit true cs
    | '^' | '$' => startingRepetitions limit start cs
    | _ => startingRepetitions limit false cs

/-- Warns about repetitions of nothing. -/
def warnAboutStarts (name pattern : String) : List String → Work Unit
  | [] => pure ()
  | what :: rest => do
    report name ("warning: " ++ what ++ " at start of expression")
    warnAboutStarts name pattern rest

/-- The expressions for patterns of a kind. -/
def grepRegexes (name : String) (kind : Char) (patterns : List String) : Work (List Regex) := do
  if kind == 'P' && patterns.length > 1 then
    giveUp name 2 "the -P option only supports a single pattern"
  let regexes ← patterns.mapM fun p => do
    let read : Except String Regex := match kind with
      | 'F' => .ok (Regex.ofLiteral p)
      | 'P' => RichRegex.ofText p
      | _ => Regex.ofText { extended := kind == 'E' } p
    match read with
    | .ok r => pure r
    | .error message => giveUp name 2 message
  if kind == 'E' then
    for p in patterns do
      warnAboutStarts name p (startingRepetitions (p.length + 1) true p.toList)
  pure regexes

/-- Is the output coloured? -/
def grepColors (c : Call) : Work Bool := do
  match (c.options.filter (·.1 == '*')).getLast? with
  | none => pure false
  | some (_, none) => pure false
  | some (_, some value) =>
    if ["always", "yes", "force"].contains value then pure true
    else if ["never", "no", "none", "auto", "tty", "if-tty"].contains value then pure false
    else grepUsage c.name

/-- The rules of a call about names. -/
def grepRules (c : Call) (letters : List Char) : List (Bool × String) :=
  (c.options.filter fun o => letters.contains o.1).map fun o =>
    let pattern := o.2.getD ""
    let pattern := if o.1 == '/' then
        String.ofList (pattern.toList.reverse.dropWhile (· == '/')).reverse else pattern
    (o.1 == '+', pattern)

/-- What is done with directories. -/
def grepDirectories (c : Call) : Work Char := do
  match (c.options.filter fun o => ['r', 'R', 'd'].contains o.1).getLast? with
  | none => pure 'd'
  | some ('d', value) =>
    match value.getD "" with
    | "recurse" => pure 'r'
    | "skip" => pure 's'
    | "read" => pure 'd'
    | other => do
      report c.name ("invalid argument '" ++ other ++ "' for '--directories'")
      printError "Valid arguments are:\n  - 'read'\n  - 'recurse'\n  - 'skip'\n"
      grepUsage c.name
  | some _ => pure 'r'

/-- Shows the lines of files that match a pattern. -/
def grepWith (kind : Char) : Program := fun argv _ => do
  let name := argv.head?.getD ""
  let args := argv.drop 1
  let c ← match sortArguments grepOptions args.length args with
    | .ok c => pure { c with name := name }
    | .error message => do
      report name message
      grepUsage name
  let number (letter : Char) : Work (Option Nat) := do
    match c.value? letter with
    | none => pure none
    | some text =>
      match Shell.plainNumber? text with
      | some n => pure (some n)
      | none =>
        giveUp name 2 (if letter == 'm' then "invalid max count"
          else text ++ ": invalid context length argument")
  let most ← number 'm'
  let around ← number 'C'
  let digits := (c.options.filter fun o => o.1.isDigit && o.2.isNone).map (·.1)
  let around := around.or (String.ofList digits).toNat?
  let before ← number 'B'
  let after ← number 'A'
  let colored ← grepColors c
  let directories ← grepDirectories c
  let (patterns, files) ← grepPatterns c
  let kinds := (c.options.map (·.1)).filter fun o => ['E', 'F', 'G', 'P'].contains o
  if kinds.any (some · != kinds.head?) then giveUp name 2 "conflicting matchers specified"
  if c.has 'u' then report name "warning: --unix-byte-offsets (-u) is obsolete"
  let kind := (kinds.head?).getD kind
  let rich := kind == 'P'
  let patterns := if !rich then patterns else patterns.map fun p =>
    if c.has 'x' then "^(?:" ++ p ++ ")$"
    else if c.has 'w' then "(?<!\\w)(?:" ++ p ++ ")(?!\\w)"
    else p
  let read ← grepRegexes name kind patterns
  let deep := directories == 'r'
  let binary := (c.options.filter fun o =>
    o.1 == 'a' || o.1 == 'I' || (o.1 == '0' && o.2.isSome)).getLast?
  let asText := binary.any fun o => o.1 == 'a' || o.2 == some "text"
  let textOnly := binary.any fun o => o.1 == 'I' || o.2 == some "without-match"
  let g : Grep :=
    { name := name, regex := oneOf read
      ignoreCase := (c.last? ['i', 'y', '!']).any (· != '!'), invert := c.has 'v'
      wholeLine := c.has 'x' && !rich, wholeWord := c.has 'w' && !rich, count := c.has 'c', numbers := c.has 'n'
      offsets := c.has 'b', onlyMatching := c.has 'o', quiet := c.has 'q', silent := c.has 's'
      names := (c.last? ['l', 'L']).map (· == 'l')
      headed := if (c.last? ['h', 'H']) == some 'H' then true
        else if c.has 'h' then false else files.length > 1
      unheaded := c.has 'h'
      asText := asText, textOnly := textOnly, most := most, before := (before.or around).getD 0
      after := (after.or around).getD 0
      contexts := (before.or (after.or around)).isSome, longest := !rich, colored := colored
      lineEnd := if c.has 'z' then String.ofList [Char.ofNat 0] else "\n"
      nameEnd := if c.has 'Z' then some (String.ofList [Char.ofNat 0]) else none
      divider := match c.last? ['~', '|'] with
        | some '~' => c.value? '~'
        | some _ => none
        | none => some "--"
      label := (c.value? '=').getD "(standard input)"
      fileRules := grepRules c ['+', '-'], directoryRules := grepRules c ['/']
      directories := directories }
  let files := if !files.isEmpty then files else if deep then [""] else ["-"]
  let rec go : List String → Grep.Result → Work Grep.Result
    | [], r => pure r
    | p :: rest, r => do
      let r ← if p = "" && deep then do
          let names ← namesIn "."
          names.foldlM (fun r n => g.path depthLimit false n r) r
        else g.path depthLimit true p r
      go rest r
  if most == some 0 then pure 1
  else
    let r ← go files {}
    pure (if r.found && g.quiet then 0 else if r.failed then 2 else if r.found then 0 else 1)

/-- The same under a name for one kind of patterns; messages have the common name. -/
def grepAs (kind : Char) : Program := fun argv env => grepWith kind ("grep" :: argv.drop 1) env

end HardenAudit.Program
