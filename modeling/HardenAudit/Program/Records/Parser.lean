import HardenAudit.Program.Records.Token

/-!
# Reading scripts about records

Operators bind, from loosely to tightly: assignment, choice, `||`, `&&`, `in`, matching, comparison,
joining, sums, products, signs, commands that are read from, powers, steps, fields.
-/

namespace HardenAudit.Program.Records

/-- A name with what it stands for. -/
structure Entry where
  name : String
  kind : Kind := .unknown
  deriving Inhabited

/-- A call of a function of the script: its number, its line, and what is handed over. -/
structure Call where
  function : Nat
  line : Nat
  arguments : List Expr
  deriving Inhabited

/-- Reading under way. -/
structure Parsing where
  source : Source
  token : Token := .newline
  line : Nat := 1
  /-- Open parentheses and braces. -/
  parens : Nat := 0
  braces : Nat := 0
  names : Array Entry := #[]
  /-- The functions that were mentioned, with the bodies of those that were defined. -/
  functions : Array (String × Option Function) := #[]
  /-- The parameters of the function that is being read, and its name. -/
  parameters : Array Entry := #[]
  inFunction : Option String := none
  loops : Nat := 0
  /-- The calls of functions so far. -/
  calls : List Call := []
  /-- Is it an action for records? -/
  inRule : Bool := false
  messages : List String := []
  deriving Inhabited

/-- Why reading stops: something is wrong that was noted, after which reading may go on or not. -/
inductive Fault where
  | malformed
  | fatal
  deriving DecidableEq, Repr, Inhabited

/-- Reading, which may stop. -/
abbrev Parse := ExceptT Fault (StateM Parsing)

namespace Parse

/-- Notes what is wrong in a line. -/
def note (line : Nat) (message : String) : Parse Unit :=
  modify fun p => { p with messages := ("line " ++ toString line ++ ": " ++ message) :: p.messages }

/-- Reads the next token.  Marks that close nothing are noted and passed over; each round reads a token,
so `limit` may be the length of the text. -/
def advanceFrom : (limit : Nat) → Parse Unit
  | 0 => throw .fatal
  | limit + 1 => do
    let p ← get
    let (t, line, source) := nextToken p.source
    let p := { p with source := source, token := t, line := line }
    match t with
    | .bad message =>
      note line message
      throw .fatal
    | .stray c =>
      modify fun p => { p with
        messages := (toString line ++ ": unexpected character '" ++ c.toString ++ "'") :: p.messages }
      throw .fatal
    | .mark "(" => set { p with parens := p.parens + 1 }
    | .mark "\x7b" => set { p with braces := p.braces + 1 }
    | .mark ")" =>
      set { p with parens := p.parens - 1 }
      if p.parens = 0 then
        note line "extra ')'"
        advanceFrom limit
    | .mark "\x7d" =>
      set { p with braces := p.braces - 1 }
      if p.braces = 0 then
        note line "extra '\x7d'"
        advanceFrom limit
    | _ => set p

/-- Reads the next token. -/
def advance : Parse Unit := do
  advanceFrom ((← get).source.rest.length + 2)

/-- The token that comes next. -/
def peek : Parse Token := do pure (← get).token

/-- Fails at the token that comes next. -/
def unexpected {α : Type} : Parse α := do
  let p ← get
  match p.token with
  | .eof =>
    note p.line (if p.braces > 0 then "missing \x7d near end of file" else "syntax error at or near end of file")
    throw .fatal
  | .newline =>
    if p.parens > 0 then note p.line "missing ) near end of line"
    else note p.line "syntax error at or near end of line"
  | t =>
    if p.parens > 0 && (t.isMark "\x7d" || t.isMark ";") then
      note p.line ("missing ) near " ++ t.shown)
    else note p.line ("syntax error at or near " ++ t.shown)
  throw .malformed

/-- Is a certain mark next? -/
def sees (s : String) : Parse Bool := do pure ((← peek).isMark s)

/-- Takes a mark if it is next. -/
def take? (s : String) : Parse Bool := do
  if ← sees s then
    advance
    pure true
  else pure false

/-- Takes a mark. -/
def expect (s : String) : Parse Unit := do
  if !(← take? s) then unexpected

/-- Passes over ends of lines. -/
def skipNewlines : Parse Unit := do
  match ← peek with
  | .newline => advance
  | _ => pure ()

/-! ## Names -/

/-- The word for a kind in messages. -/
def kindWord (local_ : Bool) : Kind → String
  | .array => if local_ then "local array" else "array"
  | .function => "function"
  | _ => if local_ then "local variable" else "variable"

/-- The variable that a name stands for, used as a kind of thing. -/
def refer (name : String) (kind : Kind) : Parse Ref := do
  let p ← get
  let check (local_ : Bool) (known : Kind) : Parse Unit := do
    if kind != .unknown && known != .unknown && known != kind then
      note p.line ("illegal reference to " ++ kindWord local_ known ++ " " ++ name)
      throw .malformed
  match p.parameters.findIdx? (·.name == name) with
  | some i =>
    check true ((p.parameters[i]?.map (·.kind)).getD .unknown)
    if kind != .unknown then
      set { p with parameters := p.parameters.modify i fun e => { e with kind := kind } }
    pure (.parameter i)
  | none =>
    if p.functions.any (·.1 == name) then
      note p.line ("illegal reference to function " ++ name)
      throw .malformed
    match p.names.findIdx? (·.name == name) with
    | some i =>
      check false ((p.names[i]?.map (·.kind)).getD .unknown)
      if kind != .unknown then
        set { p with names := p.names.modify i fun e => { e with kind := kind } }
      pure (.shared i)
    | none =>
      set { p with names := p.names.push ⟨name, kind⟩ }
      pure (.shared p.names.size)

/-- The number of a function. -/
def functionNumber (name : String) : Parse Nat := do
  let p ← get
  if (p.names.find? (·.name == name)).any (·.kind != .unknown) then
    note p.line ("illegal reference to variable " ++ name)
    throw .malformed
  match p.functions.findIdx? (·.1 == name) with
  | some i => pure i
  | none =>
    set { p with functions := p.functions.push (name, none) }
    pure p.functions.size

/-! ## Expressions -/

/-- How an expression is read: do the sign for greater values and the bar belong to the output
statement around it? -/
structure Manner where
  outlet : Bool := false
  deriving Inhabited

/-- How tightly the parts of an expression bind. -/
inductive Level where
  | any
  | either
  | both
  | member
  | matching
  | comparison
  | join
  | sum
  | product
  | sign
  | piped
  | power
  | stepped
  | operand
  deriving DecidableEq, Repr, Inhabited

/-- Readers of expressions. -/
abbrev Readers := Level → Manner → Parse Expr

/-- Can the expression be assigned to? -/
def isPlace : Expr → Bool
  | .variable _ | .field _ | .element .. => true
  | _ => false

/-- The operation of an assignment. -/
def assignment? : Token → Option (Option Operation)
  | .mark "=" => some none
  | .mark "+=" => some (some .add)
  | .mark "-=" => some (some .subtract)
  | .mark "*=" => some (some .multiply)
  | .mark "/=" => some (some .divide)
  | .mark "%=" => some (some .remainder)
  | .mark "^=" => some (some .power)
  | _ => none

/-- Can an operand of a join start with the token? -/
def startsOperand : Token → Bool
  | .number .. | .text _ | .regex _ | .name _ | .caller _ | .builtin .. => true
  | .mark s => s == "(" || s == "!" || s == "$" || s == "++" || s == "--"
  | .keyword k => k == "getline"
  | _ => false

/-- Repeats a step as long as it gives something new; `limit` bounds the rounds. -/
def extend (step : Expr → Parse (Option Expr)) : (limit : Nat) → Expr → Parse Expr
  | 0, e => pure e
  | limit + 1, e => do
    match ← step e with
    | some next => extend step limit next
    | none => pure e

/-- More rounds than any script has tokens. -/
def roundLimit : Nat := 0x10000000

/-- Reads a regular expression, or notes why it is none. -/
def regex (source : String) : Parse Regex := do
  match Expression.read source with
  | .ok r => pure r
  | .error message =>
    note (← get).line ("regular expression compile failed (" ++ message ++ ")\n" ++ source)
    throw .fatal

section
variable (self : Readers)

/-- Further expressions behind commas. -/
def moreExpressions (one : Parse Expr) : (limit : Nat) → List Expr → Parse (List Expr)
  | 0, found => pure found.reverse
  | limit + 1, found => do
    if ← take? "," then
      let e ← one
      moreExpressions one limit (e :: found)
    else pure found.reverse

/-- A list of expressions up to a mark, which may be empty. -/
def listUntil (one : Parse Expr) (stop : String) : Parse (List Expr) := do
  if ← sees stop then pure []
  else
    let first ← one
    moreExpressions one roundLimit [first]

/-- An argument of a call, where a name may stand for an array. -/
def argument : Parse Expr := do
  let p ← get
  match p.token with
  | .name name =>
    let (t, _, _) := nextToken p.source
    if t.isMark "," || t.isMark ")" then
      advance
      let v ← refer name .unknown
      pure (.variable v)
    else self .any {}
  | _ => self .any {}

/-- An array as an argument of a function that is always there. -/
def arrayArgument : Parse Expr := do
  match ← peek with
  | .name name =>
    let v ← refer name .array
    advance
    pure (.variable v)
  | _ => unexpected

/-- How many arguments a function takes. -/
def argumentCounts : Builtin → List Nat
  | .length => [0, 1]
  | .substr => [2, 3]
  | .index | .match_ | .atan2 => [2]
  | .split | .sub | .gsub => [2, 3]
  | .rand | .systime => [0]
  | .srand | .fflush => [0, 1]
  | .strftime => [0, 1, 2, 3]
  | .sprintf => (List.range 256).drop 1
  | _ => [1]

/-- The arguments of the function that splits texts. -/
def splitArguments : Parse (List Expr) := do
  let first ← self .any {}
  expect ","
  let array ← arrayArgument
  if ← take? "," then
    let third ← self .any {}
    pure [first, array, third]
  else pure [first, array]

/-- The call of a function that is always there. -/
def builtinCall (f : Builtin) (name : String) : Parse Expr := do
  advance
  if !(← sees "(") then
    if f == .length then pure (.builtin f []) else unexpected
  else
    advance
    let args ←
      if f == .split then splitArguments self
      else if f == .length then listUntil (argument self) ")"
      else listUntil (self .any {}) ")"
    if (← sees ")") && !(argumentCounts f).contains args.length then
      note (← get).line ("wrong number of arguments in call to " ++ name)
      throw .malformed
    expect ")"
    match f, args with
    | .sub, [_, _, place] | .gsub, [_, _, place] => if !isPlace place then unexpected
    | _, _ => pure ()
    match f, args with
    | .sub, .text s :: _ | .gsub, .text s :: _ | .match_, [_, .text s] =>
      let _ ← regex s
    | .split, [_, _, .text s] =>
      if s.length > 1 then
        let _ ← regex s
    | _, _ => pure ()
    pure (.builtin f args)

/-- The place that a record is read into, if one is named. -/
def readPlace? : Parse (Option Expr) := do
  match ← peek with
  | .name _ | .mark "$" =>
    let e ← self .operand {}
    pure (some e)
  | _ => pure none

/-- A field behind its sign. -/
def fieldOperand (m : Manner) : Parse Expr := do
  match ← peek with
  | .mark "++" | .mark "--" =>
    let up := (← peek).isMark "++"
    advance
    let place ← self .operand m
    pure (.step place up false)
  | .mark "-" =>
    advance
    let e ← self .operand m
    pure (.minus e)
  | .mark "+" =>
    advance
    let e ← self .operand m
    pure (.plus e)
  | .mark "!" =>
    advance
    let e ← self .operand m
    pure (.negation e)
  | _ => self .operand m

/-- What is in parentheses. -/
def parenthesized : Parse Expr := do
  let first ← self .any {}
  if ← sees "," then
    let subscripts ← moreExpressions (self .any {}) roundLimit [first]
    expect ")"
    if (← peek).isKeyword "in" then
      advance
      match ← peek with
      | .name name =>
        let v ← refer name .array
        advance
        pure (.member subscripts v)
      | _ => unexpected
    else unexpected
  else
    expect ")"
    pure first

/-- A variable or an element. -/
def nameOperand (name : String) : Parse Expr := do
  let (t, _, _) := nextToken (← get).source
  if t.isMark "[" then
    let v ← refer name .array
    advance
    advance
    let subscripts ← listUntil (self .any {}) "]"
    if subscripts.isEmpty then unexpected
    expect "]"
    pure (.element v subscripts)
  else
    let v ← refer name .scalar
    advance
    pure (.variable v)

/-- Does the name belong to a variable of the program? -/
def isVariable (name : String) : Parse Bool := do
  let p ← get
  pure (p.parameters.any (·.name == name) || p.names.any (·.name == name))

/-- The call of a function of the script. -/
def functionCall (name : String) : Parse Expr := do
  let p ← get
  let f ← functionNumber name
  advance
  advance
  let args ← listUntil (argument self) ")"
  expect ")"
  modify fun q => { q with calls := ⟨f, p.line, args⟩ :: q.calls }
  pure (.call f args)

/-- An operand without the steps behind it. -/
def operand (m : Manner) : Parse Expr := do
  match ← peek with
  | .number x _ =>
    advance
    pure (.number x)
  | .text s =>
    advance
    pure (.text s)
  | .regex source =>
    let r ← regex source
    advance
    pure (.regex source r)
  | .mark "$" =>
    advance
    let e ← fieldOperand self m
    pure (.field e)
  | .mark "(" =>
    advance
    parenthesized self
  | .name name => nameOperand self name
  | .caller name =>
    if ← isVariable name then nameOperand self name else functionCall self name
  | .builtin f name => builtinCall self f name
  | .keyword "getline" =>
    advance
    let place ← readPlace? self
    if ← take? "<" then
      let file ← self .power {}
      pure (.getline (some file) none place)
    else pure (.getline none none place)
  | _ => unexpected

/-- An operand with steps. -/
def stepped (m : Manner) : Parse Expr := do
  match ← peek with
  | .mark "++" | .mark "--" =>
    let up := (← peek).isMark "++"
    advance
    let place ← self .operand m
    if !isPlace place then unexpected
    pure (.step place up false)
  | _ =>
    let e ← self .operand m
    if isPlace e then
      if ← take? "++" then pure (.step e true true)
      else if ← take? "--" then pure (.step e false true)
      else pure e
    else pure e

/-- Powers, which group to the right. -/
def powerOf (m : Manner) : Parse Expr := do
  let base ← self .stepped m
  if ← take? "^" then
    let t ← peek
    let exponent ← if t.isMark "-" || t.isMark "+" || t.isMark "!" then self .sign m else self .power m
    pure (.binary .power base exponent)
  else pure base

/-- Commands that are read from. -/
def pipedOf (m : Manner) : Parse Expr := do
  let first ← self .power m
  if m.outlet then pure first
  else
    extend (fun e => do
      if ← take? "|" then
        if !(← peek).isKeyword "getline" then unexpected
        advance
        let place ← readPlace? self
        pure (some (.getline none (some e) place))
      else pure none) roundLimit first

/-- Signs. -/
def signed (m : Manner) : Parse Expr := do
  if ← take? "-" then
    let e ← self .sign m
    pure (.minus e)
  else if ← take? "+" then
    let e ← self .sign m
    pure (.plus e)
  else if ← take? "!" then
    let e ← self .sign m
    pure (.negation e)
  else self .piped m

/-- Operations that group to the left, with operands of the next level. -/
def leftward (operations : List (String × Operation)) (below : Level) (m : Manner) : Parse Expr := do
  let first ← self below m
  extend (fun e => do
    let t ← peek
    match operations.find? fun o => t.isMark o.1 with
    | some (_, op) =>
      advance
      let f ← self below m
      pure (some (.binary op e f))
    | none => pure none) roundLimit first

/-- Values that are joined; a place may also be assigned to here. -/
def joined (m : Manner) : Parse Expr := do
  let first ← self .sum m
  let e ← extend (fun e => do
    if startsOperand (← peek) then
      let f ← self .sum m
      pure (some (.join e f))
    else pure none) roundLimit first
  match isPlace e, assignment? (← peek) with
  | true, some op =>
    advance
    let value ← self .any m
    pure (.assign op e value)
  | _, _ => pure e

/-- Comparisons. -/
def compared (m : Manner) : Parse Expr := do
  let first ← self .join m
  let comparisons : List (String × Comparison) :=
    [("==", .equal), ("!=", .notEqual), ("<", .less), ("<=", .lessEqual), (">=", .greaterEqual)]
      ++ (if m.outlet then [] else [(">", .greater)])
  extend (fun e => do
    let t ← peek
    match comparisons.find? fun c => t.isMark c.1 with
    | some (_, c) =>
      advance
      let f ← self .join m
      pure (some (.compare c e f))
    | none => pure none) roundLimit first

/-- Matches with regular expressions. -/
def matched (m : Manner) : Parse Expr := do
  let first ← self .comparison m
  extend (fun e => do
    let t ← peek
    if t.isMark "~" || t.isMark "!~" then
      advance
      let f ← self .comparison m
      match f with
      | .text s =>
        let _ ← regex s
        pure (some (.matching (t.isMark "~") e f))
      | _ => pure (some (.matching (t.isMark "~") e f))
    else pure none) roundLimit first

/-- Questions whether an array has a key. -/
def asked (m : Manner) : Parse Expr := do
  let first ← self .matching m
  extend (fun e => do
    if (← peek).isKeyword "in" then
      advance
      match ← peek with
      | .name name =>
        let v ← refer name .array
        advance
        pure (some (.member [e] v))
      | _ => unexpected
    else pure none) roundLimit first

/-- Conditions that must both hold. -/
def bothOf (m : Manner) : Parse Expr := do
  let first ← self .member m
  extend (fun e => do
    if ← take? "&&" then
      let f ← self .member m
      pure (some (.both e f))
    else pure none) roundLimit first

/-- Conditions of which one must hold. -/
def eitherOf (m : Manner) : Parse Expr := do
  let first ← self .both m
  extend (fun e => do
    if ← take? "||" then
      let f ← self .both m
      pure (some (.either e f))
    else pure none) roundLimit first

/-- Any expression. -/
def anyOf (m : Manner) : Parse Expr := do
  let test ← self .either m
  if ← take? "?" then
    let yes ← self .any m
    expect ":"
    let no ← self .any m
    pure (.choice test yes no)
  else pure test

/-- An expression of a level. -/
def atLevel : Level → Manner → Parse Expr
  | .any => anyOf self
  | .either => eitherOf self
  | .both => bothOf self
  | .member => asked self
  | .matching => matched self
  | .comparison => compared self
  | .join => joined self
  | .sum => leftward self [("+", .add), ("-", .subtract)] .product
  | .product => leftward self [("*", .multiply), ("/", .divide), ("%", .remainder)] .sign
  | .sign => signed self
  | .piped => pipedOf self
  | .power => powerOf self
  | .stepped => stepped self
  | .operand => operand self

end

/-- The readers; `limit` bounds how deep expressions are nested. -/
def readers : (limit : Nat) → Readers
  | 0, _, _ => throw .fatal
  | limit + 1, level, m => atLevel (readers limit) level m

/-- An expression. -/
def expression (m : Manner := {}) : Parse Expr := readers roundLimit .any m

/-! ## Statements -/

/-- Is the next token one behind which no part of a statement can stand? -/
def seesEnd : Parse Bool := do
  match ← peek with
  | .newline | .eof => pure true
  | .mark s => pure (s == ";" || s == "\x7d")
  | _ => pure false

/-- Takes the mark or the end of the line behind a statement. -/
def endStatement : Parse Unit := do
  match ← peek with
  | .newline => advance
  | .mark ";" => advance
  | .mark "\x7d" => pure ()
  | _ => unexpected

/-- Where output goes. -/
def outlet : Parse Outlet := do
  if ← take? ">" then
    let e ← expression
    pure (.file e)
  else if ← take? ">>" then
    let e ← expression
    pure (.append e)
  else if ← take? "|" then
    let e ← expression
    pure (.command e)
  else pure .standard

/-- Is an output statement at its end, or at the place where its output goes? -/
def seesOutlet : Parse Bool := do
  let t ← peek
  pure ((← seesEnd) || t.isMark ">" || t.isMark ">>" || t.isMark "|")

/-- The values of an output statement, which may stand in parentheses together. -/
def printed : Parse (List Expr) := do
  if ← seesOutlet then pure []
  else
    let start ← get
    let grouped : Parse (Option (List Expr)) := do
      advance
      let es ← listUntil (expression {}) ")"
      expect ")"
      let done ← seesOutlet
      pure (if done then some es else none)
    let together ← if ← sees "(" then
        tryCatch grouped fun _ => pure none
      else pure none
    match together with
    | some es => pure es
    | none =>
      set start
      let one := expression { outlet := true }
      let first ← one
      moreExpressions one roundLimit [first]

/-- An output statement behind its word. -/
def output (make : List Expr → Outlet → Statement) (atLeast : Nat := 0) : Parse Statement := do
  let es ← printed
  if es.length < atLeast then
    note (← get).line "no arguments in call to printf"
    throw .fatal
  let o ← outlet
  endStatement
  pure (make es o)

/-- A condition in parentheses, and the ends of lines behind it. -/
def condition : Parse Expr := do
  expect "("
  let e ← expression
  expect ")"
  pure e

/-- What is wrong with a statement at its place. -/
def misplaced (message : String) : Parse Unit := do
  note (← get).line message

/-- The body of a loop. -/
def inLoop (statement : Parse Statement) : Parse Statement := do
  modify fun p => { p with loops := p.loops + 1 }
  let s ← statement
  modify fun p => { p with loops := p.loops - 1 }
  pure s

/-- A loop with a head of its own, behind its word. -/
def loopFor (statement : Parse Statement) : Parse Statement := do
  expect "("
  let start ← get
  let overKeys : Parse (Option (Ref × Ref)) := do
    match ← peek with
    | .name name =>
      advance
      if !(← peek).isKeyword "in" then pure none
      else
        advance
        match ← peek with
        | .name array =>
          advance
          if ← sees ")" then
            let v ← refer name .scalar
            let a ← refer array .array
            advance
            pure (some (v, a))
          else pure none
        | _ => pure none
    | _ => pure none
  match ← tryCatch overKeys (fun _ => pure none) with
  | some (v, a) =>
    skipNewlines
    let body ← inLoop statement
    pure (.loopIn v a body)
  | none =>
    set start
    let first ← if ← sees ";" then pure .nothing else do
      let e ← expression
      pure (.expression e)
    expect ";"
    let test ← if ← sees ";" then pure none else some <$> expression
    expect ";"
    let last ← if ← sees ")" then pure .nothing else do
      let e ← expression
      pure (.expression e)
    expect ")"
    skipNewlines
    let body ← inLoop statement
    pure (.loopFor first test last body)

/-- Passes over the rest of a statement that is malformed; each round takes a token, so `limit` may be
any number of rounds that is enough. -/
def recover : (limit : Nat) → Parse Unit
  | 0 => throw .fatal
  | limit + 1 => do
    match ← peek with
    | .newline | .mark ";" => advance
    | .mark "\x7d" => pure ()
    | .eof => unexpected
    | _ =>
      advance
      recover limit

/-- Statements up to the closing brace; one that is malformed is noted and passed over. -/
def statements (statement : Parse Statement) : (limit : Nat) → List Statement → Parse (List Statement)
  | 0, found => pure found.reverse
  | limit + 1, found => do
    match ← peek with
    | .mark "\x7d" => pure found.reverse
    | .eof => unexpected
    | _ =>
      let s ← tryCatch statement fun e => do
        if e == .fatal then throw .fatal
        modify fun p => { p with parens := 0 }
        if (← get).messages.length ≥ 5 then throw .fatal
        recover roundLimit
        pure .nothing
      statements statement limit (s :: found)

/-- A block. -/
def block (statement : Parse Statement) : Parse Statement := do
  expect "\x7b"
  skipNewlines
  let body ← statements statement roundLimit []
  -- a mark behind the outermost brace belongs to it
  let p ← get
  if p.braces = 0 then
    let (t, _, source) := nextToken p.source
    if t.isMark ";" && p.source.rest.head? != some '\n' then set { p with source := source }
  advance
  skipNewlines
  pure (.block body)

/-- A statement; `limit` bounds how deep statements are nested. -/
def statement : (limit : Nat) → Parse Statement
  | 0 => throw .fatal
  | limit + 1 => do
    let inner := statement limit
    let t ← peek
    match t with
    | .mark "\x7b" => block inner
    | .mark ";" | .newline =>
      advance
      pure .nothing
    | .keyword word =>
      match word with
      | "getline" =>
        let e ← expression
        endStatement
        pure (.expression e)
      | "if" =>
        advance
        let test ← condition
        skipNewlines
        let yes ← inner
        if (← peek).isKeyword "else" then
          advance
          let no ← inner
          pure (.choice test yes no)
        else pure (.choice test yes .nothing)
      | "while" =>
        advance
        let test ← condition
        skipNewlines
        let body ← inLoop inner
        pure (.loop test body)
      | "do" =>
        advance
        let body ← inLoop inner
        if !(← peek).isKeyword "while" then unexpected
        advance
        let test ← condition
        endStatement
        pure (.loopAfter body test)
      | "for" =>
        advance
        loopFor inner
      | "print" =>
        advance
        output .print
      | "printf" =>
        advance
        output .printf 1
      | "break" | "continue" =>
        if (← get).loops = 0 then misplaced (word ++ " statement outside of loop")
        advance
        endStatement
        pure (if word == "break" then .break else .continue)
      | "next" | "nextfile" =>
        if !(← get).inRule then misplaced ("improper use of " ++ word)
        advance
        endStatement
        pure (if word == "next" then .next else .nextFile)
      | "exit" =>
        advance
        let e ← if ← seesEnd then pure none else some <$> expression
        endStatement
        pure (.exit e)
      | "return" =>
        if (← get).inFunction.isNone then misplaced "return outside function body"
        advance
        let e ← if ← seesEnd then pure none else some <$> expression
        endStatement
        pure (.return e)
      | "delete" =>
        advance
        match ← peek with
        | .name name =>
          let a ← refer name .array
          advance
          if ← take? "[" then
            let subscripts ← listUntil expression "]"
            expect "]"
            endStatement
            pure (.delete a (some subscripts))
          else
            endStatement
            pure (.delete a none)
        | _ => unexpected
      | _ => unexpected
    | _ =>
      let e ← expression
      endStatement
      pure (.expression e)

/-! ## Scripts -/

/-- The parameters of a function. -/
def parameters (limit : Nat) : Parse Unit := do
  if !(← sees ")") then
    let rec go : (limit : Nat) → Parse Unit
      | 0 => throw .fatal
      | limit + 1 => do
        let p ← get
        match p.token with
        | .name name =>
          if p.inFunction == some name then
            note p.line "function parameter cannot be the function"
            unexpected
          if p.parameters.any (·.name == name) then
            note p.line (name ++ " is duplicated in argument list")
          else set { p with parameters := p.parameters.push ⟨name, .unknown⟩ }
          advance
          if ← take? "," then go limit
        | _ => unexpected
    go limit
  expect ")"

/-- The definition of a function behind its word. -/
def definition : Parse Unit := do
  let p ← get
  let name ← match p.token with
    | .name s | .caller s => pure s
    | _ => unexpected
  let i ← functionNumber name
  if ((← get).functions[i]?.bind (·.2)).isSome then
    note p.line ("redefinition of " ++ name)
    throw .fatal
  -- the function may call itself
  modify fun q => { q with
    inFunction := some name, parameters := #[], inRule := false
    functions := q.functions.modify i fun f => (f.1, some ⟨name, [], .nothing⟩) }
  advance
  expect "("
  parameters roundLimit
  skipNewlines
  let body ← block (statement roundLimit)
  modify fun q => { q with
    inFunction := none, parameters := #[]
    functions := q.functions.modify i fun f => (f.1, some ⟨name, (q.parameters.map (·.kind)).toList, body⟩) }

/-- The rules and functions of a script, one after another; each takes a token, so `limit` may be any
number of rounds that is enough. -/
def rules : (limit : Nat) → Script → Parse Script
  | 0, s => pure s
  | limit + 1, s => do
    match ← peek with
    | .eof => pure s
    | .keyword "BEGIN" =>
      advance
      if !(← sees "\x7b") then unexpected
      modify fun p => { p with inRule := false }
      let b ← block (statement roundLimit)
      rules limit { s with begin_ := s.begin_ ++ [b] }
    | .keyword "END" =>
      advance
      if !(← sees "\x7b") then unexpected
      modify fun p => { p with inRule := false }
      let b ← block (statement roundLimit)
      rules limit { s with end_ := s.end_ ++ [b] }
    | .keyword "function" =>
      advance
      definition
      rules limit s
    | t =>
      modify fun p => { p with inRule := true }
      let selection ← if t.isMark "\x7b" then pure Selection.always else do
        let first ← expression
        if ← take? "," then
          let last ← expression
          pure (Selection.between first last)
        else pure (Selection.when first)
      if ← sees "\x7b" then
        let b ← block (statement roundLimit)
        rules limit { s with rules := s.rules.push ⟨selection, some b⟩ }
      else
        match ← peek with
        | .newline | .mark ";" => advance
        | .eof => pure ()
        | _ => unexpected
        rules limit { s with rules := s.rules.push ⟨selection, none⟩ }

/-- What an argument is known to be. -/
def argumentKind (p : Parsing) : Expr → Kind
  | .variable (.shared i) => (p.names[i]?.map (·.kind)).getD .unknown
  | .variable (.parameter _) => .unknown
  | _ => .scalar

/-- Notes what is wrong with a call: too many arguments, or arrays where values belong. -/
def checkCall (p : Parsing) (c : Call) : Parse Unit := do
  if let some (name, some f) := p.functions[c.function]? then
    if c.arguments.length > f.parameters.length then
      note c.line ("too many arguments in call to " ++ name)
    else
      for ((e, wanted), i) in (c.arguments.zip f.parameters).zipIdx do
        let known := argumentKind p e
        if wanted != .unknown && known != .unknown && wanted != known then
          note c.line ("type error in arg(" ++ toString (i + 1) ++ ") in call to " ++ name)

/-- A whole script. -/
def script : Parse Script := do
  advance
  skipNewlines
  let s ← rules roundLimit {}
  let p ← get
  if p.messages.isEmpty then
    for c in p.calls.reverse do
      checkCall p c
    for (name, body) in p.functions do
      if body.isNone then note p.line ("function " ++ name ++ " never defined")
  pure { s with
    functions := p.functions.map fun f => f.2.getD ⟨f.1, [], .nothing⟩
    names := p.names.map (·.name) }

end Parse

/-- The names that are known before a script is read. -/
def knownNames : Array Entry :=
  (specialNames.map fun n =>
    ({ name := n, kind := if n == "ENVIRON" || n == "ARGV" then .array else .scalar } : Entry)).toArray

/-- Reads a script, or says what is wrong with it. -/
def readScript (text : String) : Except (List String) Script :=
  let start : Parsing := { source := { rest := (text ++ "\n").toList }, names := knownNames }
  match (Parse.script.run).run start with
  | (.ok s, p) => if p.messages.isEmpty then .ok s else .error p.messages.reverse
  | (.error _, p) => .error p.messages.reverse

end HardenAudit.Program.Records
