import HardenAudit.Program.Records.Expression
import HardenAudit.Program.Records.Syntax
import HardenAudit.Program.Records.Value

/-!
# Tokens of scripts about records

A slash starts a regular expression where an operand is expected, and divides otherwise; which of the
two it is follows from the token before it.
-/

namespace HardenAudit.Program.Records

/-- A token. -/
inductive Token where
  | eof
  | newline
  | number (x : Float) (shown : String)
  | text (s : String)
  | regex (source : String)
  | name (s : String)
  /-- A name with a parenthesis right behind it. -/
  | caller (s : String)
  | builtin (f : Builtin) (shown : String)
  | keyword (s : String)
  /-- An operator or a mark. -/
  | mark (s : String)
  /-- Something that ends the reading with a message about its line. -/
  | bad (message : String)
  /-- A character that is no part of a token. -/
  | stray (c : Char)
  deriving Inhabited

namespace Token

/-- The token as messages show it. -/
def shown : Token → String
  | eof => "end of file"
  | newline => "end of line"
  | number _ s => s
  | text s => s
  | regex source => "/" ++ source ++ "/"
  | name s | caller s | keyword s | mark s => s
  | builtin _ s => s
  | bad s => s
  | stray c => c.toString

/-- Is the token a certain mark? -/
def isMark (t : Token) (s : String) : Bool :=
  match t with
  | mark m => m == s
  | _ => false

/-- Is the token a certain reserved word? -/
def isKeyword (t : Token) (s : String) : Bool :=
  match t with
  | keyword k => k == s
  | _ => false

/-- Is the token the end of an operand, so that a slash behind it divides? -/
def endsOperand : Token → Bool
  | number .. | text _ | regex _ | name _ => true
  | builtin .length _ => true
  | mark s => s == ")" || s == "]" || s == "++" || s == "--"
  | _ => false

end Token

/-- The reserved words. -/
def keywords : List String :=
  ["BEGIN", "END", "function", "if", "else", "while", "do", "for", "in", "break", "continue", "next",
   "nextfile", "exit", "return", "delete", "print", "printf", "getline"]

/-- The functions that are always there, by their names. -/
def builtins : List (String × Builtin) :=
  [("length", .length), ("substr", .substr), ("index", .index), ("split", .split), ("sub", .sub),
   ("gsub", .gsub), ("match", .match_), ("sprintf", .sprintf), ("sin", .sin), ("cos", .cos),
   ("atan2", .atan2), ("exp", .exp), ("log", .log), ("sqrt", .sqrt), ("int", .int), ("rand", .rand),
   ("srand", .srand), ("tolower", .tolower), ("toupper", .toupper), ("system", .system),
   ("close", .close), ("fflush", .fflush), ("systime", .systime), ("mktime", .mktime),
   ("strftime", .strftime)]

/-- The marks, longer ones first. -/
def marks : List String :=
  ["&&", "||", "==", "!=", "<=", ">=", ">>", "!~", "++", "--", "+=", "-=", "*=", "/=", "%=", "^=",
   "\x7b", "\x7d", "(", ")", "[", "]", ";", ",", "+", "-", "*", "/", "%", "^", "!", "<", ">", "|",
   "?", ":", "~", "$", "="]

/-- The text of a script that is left, with the line and the token before. -/
structure Source where
  rest : List Char
  line : Nat := 1
  last : Token := .newline
  deriving Inhabited

/-- Takes off blanks, comments and joined lines; each round takes a character, so `limit` may be the
length. -/
def skipBlanks : (limit : Nat) → List Char → Nat → List Char × Nat
  | 0, cs, line => (cs, line)
  | limit + 1, cs, line =>
    match cs with
    | '\\' :: '\n' :: rest => skipBlanks limit rest (line + 1)
    | '\\' :: '\r' :: '\n' :: rest => skipBlanks limit rest (line + 1)
    | '#' :: rest => (rest.dropWhile (· != '\n'), line)
    | c :: rest =>
      if c == ' ' || c == '\t' || c == '\r' || c.toNat == 11 || c.toNat == 12 then
        skipBlanks limit rest line
      else (cs, line)
    | [] => ([], line)

/-- Takes off ends of lines, with blanks and comments between them; each round takes a character, so
`limit` may be the length. -/
def skipLines : (limit : Nat) → List Char → Nat → List Char × Nat
  | 0, cs, line => (cs, line)
  | limit + 1, cs, line =>
    let (cs, line) := skipBlanks (cs.length + 1) cs line
    match cs with
    | '\n' :: rest => skipLines limit rest (line + 1)
    | cs => (cs, line)

/-- The raw text of a quoted part up to the mark that ends it, and what follows; none if the line or
the script ends before. -/
def quotedPart (mark : Char) : List Char → List Char → Option (List Char × List Char)
  | [], _ => none
  | '\\' :: c :: rest, found => quotedPart mark rest (c :: '\\' :: found)
  | c :: rest, found =>
    if c == mark then some (found.reverse, rest)
    else if c == '\n' then none
    else quotedPart mark rest (c :: found)

/-- The raw text of a regular expression up to its slash, which may stand in a set; each round takes a
character, so `limit` may be the length. -/
def regexPart : (limit : Nat) → List Char → List Char → Option (List Char × List Char)
  | 0, _, _ => none
  | limit + 1, cs, found =>
    match cs with
    | [] => none
    | '\\' :: '/' :: rest => regexPart limit rest ('/' :: found)
    | '\\' :: c :: rest => regexPart limit rest (c :: '\\' :: found)
    | '/' :: rest => some (found.reverse, rest)
    | '\n' :: _ => none
    | '[' :: rest =>
      let (front, tail) := match rest with
        | '^' :: ']' :: tail => (['^', ']'], tail)
        | ']' :: tail => ([']'], tail)
        | '^' :: tail => (['^'], tail)
        | tail => ([], tail)
      let inner := insideSet (tail.length + 1) tail []
      match inner with
      | some (body, rest) => regexPart limit rest ((']' :: body) ++ front.reverse ++ '[' :: found)
      | none => none
    | c :: rest => regexPart limit rest (c :: found)
where
  /-- The inside of a set, in reverse, and what follows its end. -/
  insideSet : (limit : Nat) → List Char → List Char → Option (List Char × List Char)
    | 0, _, _ => none
    | limit + 1, cs, found =>
      match cs with
      | [] => none
      | '\n' :: _ => none
      | ']' :: rest => some (found, rest)
      | '\\' :: '/' :: rest => insideSet limit rest ('/' :: found)
      | '\\' :: c :: rest => insideSet limit rest (c :: '\\' :: found)
      | '[' :: ':' :: rest =>
        match Regex.namedPart ':' rest with
        | some (name, rest) => insideSet limit rest (("[:" ++ name ++ ":]").toList.reverse ++ found)
        | none => insideSet limit (':' :: rest) ('[' :: found)
      | c :: rest => insideSet limit rest (c :: found)

/-- A text with its escapes replaced; each round takes a character, so `limit` may be the length. -/
def unescape : (limit : Nat) → List Char → List Char
  | 0, _ => []
  | _, [] => []
  | limit + 1, '\\' :: '\n' :: rest => unescape limit rest
  | limit + 1, '\\' :: rest =>
    match Expression.escape? rest with
    | some (c, rest) => c :: unescape limit rest
    | none => '\\' :: unescape limit rest
  | limit + 1, c :: rest => c :: unescape limit rest

/-- A text with its escapes replaced. -/
def unescaped (text : String) : String :=
  String.ofList (unescape (text.length + 1) text.toList)

/-- The start of something that never ends, as messages show it. -/
def runaway (what : String) (mark : Char) (cs : List Char) : Token :=
  .bad ("runaway " ++ what ++ " " ++ String.ofList (mark :: (cs.takeWhile (· != '\n')).take 10) ++ " ...")

/-- A decimal number at the start of a text, and what follows. -/
def decimal (cs : List Char) : Float × List Char × List Char :=
  let whole := cs.takeWhile Char.isDigit
  let rest := cs.drop whole.length
  let part := match rest with
    | '.' :: more => '.' :: more.takeWhile Char.isDigit
    | _ => []
  let rest := rest.drop part.length
  let power := match rest with
    | e :: more =>
      if e == 'e' || e == 'E' then
        let sign := match more with
          | s :: _ => if s == '+' || s == '-' then [s] else []
          | [] => []
        let ds := (more.drop sign.length).takeWhile Char.isDigit
        if ds.isEmpty then (if sign.isEmpty then [e] else []) else e :: sign ++ ds
      else []
    | [] => []
  let all := whole ++ part ++ power
  let (x, _) := readNumber (match power with
    | [_] => whole ++ part
    | _ => all)
  (x, all, cs.drop (whole ++ part ++ power).length)

/-- The next token with its line, and the source behind it.  Ends of lines are passed over behind marks after which
a statement goes on or a new one starts. -/
def nextToken (s : Source) : Token × Nat × Source :=
  let (cs, line) := skipBlanks (s.rest.length + 1) s.rest s.line
  let give (t : Token) (rest : List Char) : Token × Nat × Source := (t, line, ⟨rest, line, t⟩)
  let giveBeforeLines (t : Token) (rest : List Char) : Token × Nat × Source :=
    let (rest, after) := skipLines (rest.length + 1) rest line
    (t, line, ⟨rest, after, t⟩)
  match cs with
  | [] => give .eof []
  | '\n' :: rest =>
    let (rest, after) := skipLines (rest.length + 1) rest (line + 1)
    (.newline, line, ⟨rest, after, .newline⟩)
  | '"' :: rest =>
    match quotedPart '"' rest [] with
    | some (body, rest) =>
      give (.text (String.ofList (unescape (body.length + 1) body))) rest
    | none => give (runaway "string constant" '"' rest) []
  | c :: rest =>
    if c.isDigit || (c == '.' && rest.head?.any Char.isDigit) then
      let (x, shown, rest) := decimal cs
      give (.number x (String.ofList shown)) rest
    else if c.isAlpha || c == '_' then
      let word := cs.takeWhile fun d => d.isAlphanum || d == '_'
      let name := String.ofList word
      let rest := cs.drop word.length
      if keywords.contains name then
        if name == "do" || name == "else" then giveBeforeLines (.keyword name) rest
        else give (.keyword name) rest
      else
        match builtins.lookup name with
        | some f => give (.builtin f name) rest
        | none =>
          if rest.head? == some '(' then give (.caller name) rest else give (.name name) rest
    else if c == '/' && !s.last.endsOperand then
      match regexPart (rest.length + 1) rest [] with
      | some (body, rest) => give (.regex (String.ofList body)) rest
      | none => give (runaway "regular expression" '/' rest) []
    else
      match marks.find? fun m => m.toList.isPrefixOf cs with
      | some m =>
        let rest := cs.drop m.length
        if ["\x7b", "\x7d", "&&", "||", ",", ";"].contains m then giveBeforeLines (.mark m) rest
        else give (.mark m) rest
      | none => give (.stray c) rest

end HardenAudit.Program.Records
