import HardenAudit.ExtendedShell.Variables
import HardenAudit.Shell.Number

/-!
# Arithmetic

Expressions on numbers of 64 bits.  A text is read into an expression first; a variable in it stands
for the value of the expression that its text is.
-/

namespace HardenAudit.ExtendedShell.Arithmetic

/-- The number of 64 bits that a number wraps around to. -/
def wrap (n : Int) : Int := Int.bmod n 0x10000000000000000

/-- What is wrong with an expression: its text, the message, and the text from where it is wrong. -/
structure Fault where
  text : String
  message : String
  token : String
  deriving Repr, Inhabited

/-- An expression; those that may fail note the text from there on. -/
inductive Expr where
  | number (n : Int)
  | variable (name : String) (subscript : Option String)
  | unary (op : Char) (e : Expr)
  | binary (op : String) (a b : Expr) (rest : String)
  | assign (op : String) (name : String) (subscript : Option String) (e : Expr) (rest : String)
  /-- A step up or down, before or after the value is taken. -/
  | step (name : String) (subscript : Option String) (up after : Bool)
  | choice (test yes no : Expr)
  | both (a b : Expr)
  | either (a b : Expr)
  | comma (a b : Expr)
  deriving Inhabited

/-! ## Tokens -/

/-- A token. -/
inductive Token where
  | ended
  | number (n : Int)
  | variable (name : String) (subscript : Option String)
  | mark (text : String)
  deriving DecidableEq, Repr, Inhabited

/-- Reading under way. -/
structure Parsing where
  rest : List Char
  token : Token := .ended
  /-- The text from the last token on. -/
  last : List Char := []
  deriving Inhabited

/-- Reading, which may fail with a message and the text from where it is wrong. -/
abbrev Parse := StateT Parsing (Except (String × String))

/-- The marks, longer ones first. -/
def marks : List String :=
  ["<<=", ">>=", "**", "&&", "||", "<<", ">>", "==", "!=", "<=", ">=", "*=", "/=", "%=", "+=", "-=", "&=",
   "^=", "|=", "=", "<", ">", "+", "-", "*", "/", "%", "!", "(", ")", "&", "|", "^", "~", "?", ":", ","]

/-- The value of a digit in a base; up to base 36 both cases are the same. -/
def digit? (base : Nat) (c : Char) : Option Nat :=
  let v :=
    if c.isDigit then some (c.toNat - 48)
    else if c.isLower then some (c.toNat - 87)
    else if c.isUpper then some (if base ≤ 36 then c.toNat - 55 else c.toNat - 29)
    else if c == '@' then some 62
    else if c == '_' then some 63
    else none
  v.filter (· < base)

/-- The number that digits are in a base, or what is wrong. -/
def digits (base : Nat) (cs : List Char) : Except String Int :=
  (cs.foldlM (fun (n : Int) (c : Char) =>
    match digit? base c with
    | some d => Except.ok (wrap (n * base + d))
    | none =>
      if c.isAlphanum || c == '@' || c == '_' then Except.error "value too great for base"
      else Except.error "invalid number") 0 : Except String Int)

/-- The number that a text is, or what is wrong. -/
def numberOf (cs : List Char) : Except String Int :=
  match cs with
  | '0' :: x :: rest =>
    if x == 'x' || x == 'X' then
      if rest.contains '#' then .error "invalid number" else digits 16 rest
    else if (x :: rest).contains '#' then .error "invalid number"
    else digits 8 (x :: rest)
  | _ =>
    let base := cs.takeWhile (· != '#')
    if base.length == cs.length then digits 10 cs
    else
      let rest := cs.drop (base.length + 1)
      match digits 10 base with
      | .error e => .error e
      | .ok b =>
        if b < 2 || b > 64 then .error "invalid arithmetic base"
        else if rest.isEmpty then .error "invalid integer constant"
        else if rest.contains '#' then .error "invalid number"
        else digits b.toNat rest

/-- A subscript behind its bracket and the rest; none if it has no end.  Each round takes a character, so
`limit` may be their number. -/
def subscript? : (limit depth : Nat) → List Char → List Char → Option (String × List Char)
  | 0, _, _, _ => none
  | _, _, [], _ => none
  | limit + 1, depth, c :: rest, found =>
    if c == '[' then subscript? limit (depth + 1) rest (c :: found)
    else if c == ']' then
      if depth = 0 then some (String.ofList found.reverse, rest)
      else subscript? limit (depth - 1) rest (c :: found)
    else subscript? limit depth rest (c :: found)

/-- Blanks between tokens. -/
def isBlank (c : Char) : Bool := c == ' ' || c == '\t' || c == '\n' || c == '\r'

/-- Can an operand follow the token? -/
def wantsOperand : Token → Bool
  | .ended => true
  | .mark _ => true
  | _ => false

namespace Parse

/-- Fails at the last token. -/
def fail {α : Type} (message : String) : Parse α := do
  throw (message, String.ofList (← get).last)

/-- Reads the next token. -/
def advance : Parse Unit := do
  let p ← get
  let rest := p.rest.dropWhile isBlank
  match rest with
  | [] => set { p with rest := [], token := .ended }
  | c :: more =>
    let give (t : Token) (after : List Char) : Parse Unit := set (⟨after, t, rest⟩ : Parsing)
    if c.isDigit then
      let ds := rest.takeWhile fun c => c.isAlphanum || c == '#' || c == '@' || c == '_'
      match numberOf ds with
      | .ok n => give (.number n) (rest.drop ds.length)
      | .error message => throw (message, String.ofList ds)
    else if Shell.isNameStart c then
      let name := rest.takeWhile Shell.isNameChar
      let after := rest.drop name.length
      match after with
      | '[' :: inside =>
        match subscript? (inside.length + 1) 0 inside [] with
        | some (sub, after) => give (.variable (String.ofList name) (some sub)) after
        | none => throw ("bad array subscript", String.ofList rest)
      | _ => give (.variable (String.ofList name) none) after
    else
      -- two signs are a step if a variable stands before or behind them
      let stepping := match rest with
        | '+' :: '+' :: _ | '-' :: '-' :: _ => true
        | _ => false
      let behind := (more.drop 1).dropWhile isBlank
      let steps := stepping && ((p.token matches .variable ..)
        || (behind.head?.map Shell.isNameStart).getD false)
      if steps then give (.mark (String.ofList [c, c])) (more.drop 1)
      else
        match marks.find? fun m => m.toList.isPrefixOf rest with
        | some m => give (.mark m) (rest.drop m.length)
        | none =>
          throw (if wantsOperand p.token then "syntax error: operand expected"
            else "syntax error: invalid arithmetic operator", String.ofList rest)

/-- The token that comes next. -/
def peek : Parse Token := do pure (← get).token

/-- Is a mark next? -/
def sees (m : String) : Parse Bool := do pure ((← peek) == .mark m)

/-- Takes a mark if it is next. -/
def take? (m : String) : Parse Bool := do
  if ← sees m then
    advance
    pure true
  else pure false

/-- How tightly parts bind, from loosely to tightly. -/
inductive Level where
  | comma
  | assign
  | choice
  | either
  | both
  | tight (n : Nat)
  | power
  | unary
  deriving DecidableEq, Repr, Inhabited

/-- The levels of operations that group to the left. -/
def leftward : List (List String) :=
  [["|"], ["^"], ["&"], ["==", "!="], ["<=", ">=", "<", ">"], ["<<", ">>"], ["+", "-"], ["*", "/", "%"]]

/-- Readers of expressions. -/
abbrev Readers := Level → Parse Expr

/-- Repeats a step as long as it gives something new; `limit` bounds the rounds. -/
def extend (step : Expr → Parse (Option Expr)) : (limit : Nat) → Expr → Parse Expr
  | 0, e => pure e
  | limit + 1, e => do
    match ← step e with
    | some next => extend step limit next
    | none => pure e

/-- More rounds than any expression has tokens. -/
def roundLimit : Nat := 0x10000000

section
variable (self : Readers)

/-- An operand. -/
def operand : Parse Expr := do
  match ← peek with
  | .number n =>
    advance
    pure (.number n)
  | .variable name sub =>
    advance
    if ← take? "++" then pure (.step name sub true true)
    else if ← take? "--" then pure (.step name sub false true)
    else pure (.variable name sub)
  | .mark "(" =>
    advance
    let e ← self .comma
    if !(← sees ")") then fail "missing \x60)\x27"
    advance
    pure e
  | .mark "++" | .mark "--" =>
    let up := (← peek) == .mark "++"
    advance
    match ← peek with
    | .variable name sub =>
      advance
      pure (.step name sub up false)
    | _ => fail "identifier expected after pre-increment or pre-decrement"
  | _ => fail "syntax error: operand expected"

/-- Signs and negations. -/
def unaryOf : Parse Expr := do
  let signs : List (String × Char) := [("!", '!'), ("~", '~'), ("-", '-'), ("+", '+')]
  let t ← peek
  match signs.find? fun e => t == .mark e.1 with
  | some (_, op) =>
    advance
    let e ← self .unary
    pure (.unary op e)
  | none => operand self

/-- Powers, which group to the right. -/
def powerOf : Parse Expr := do
  let a ← self .unary
  if ← take? "**" then
    let b ← self .power
    let rest := String.ofList (← get).last
    pure (.binary "**" a b rest)
  else pure a

/-- Operations that group to the left. -/
def tightOf (n : Nat) : Parse Expr := do
  let below : Level := if n + 1 < leftward.length then .tight (n + 1) else .power
  let operations := leftward.getD n []
  let first ← self below
  extend (fun e => do
    match ← peek with
    | .mark m =>
      if operations.contains m then
        advance
        let rest := String.ofList (← get).last
        let f ← self below
        pure (some (.binary m e f rest))
      else pure none
    | _ => pure none) roundLimit first

/-- A choice. -/
def choiceOf : Parse Expr := do
  let test ← self .either
  if ← take? "?" then
    let t ← peek
    if t == .ended || t == .mark ":" then fail "expression expected"
    let yes ← self .comma
    if !(← sees ":") then fail "\x60:\x27 expected for conditional expression"
    advance
    if (← peek) == .ended then fail "expression expected"
    let no ← self .choice
    pure (.choice test yes no)
  else pure test

/-- The marks of assignments. -/
def assignments : List String :=
  ["=", "*=", "/=", "%=", "+=", "-=", "<<=", ">>=", "&=", "^=", "|="]

/-- An assignment. -/
def assignOf : Parse Expr := do
  let target ← self .choice
  match ← peek with
  | .mark m =>
    if assignments.contains m then
      match target with
      | .variable name sub =>
        advance
        let rest := String.ofList (← get).last
        let e ← self .assign
        pure (.assign (String.ofList m.toList.dropLast) name sub e rest)
      | _ => fail "attempted assignment to non-variable"
    else pure target
  | _ => pure target

/-- An expression of a level. -/
def atLevel : Level → Parse Expr
  | .comma => do
    let first ← self .assign
    extend (fun e => do
      if ← take? "," then
        let f ← self .assign
        pure (some (.comma e f))
      else pure none) roundLimit first
  | .assign => assignOf self
  | .choice => choiceOf self
  | .either => do
    let first ← self .both
    extend (fun e => do
      if ← take? "||" then
        let f ← self .both
        pure (some (.either e f))
      else pure none) roundLimit first
  | .both => do
    let first ← self (.tight 0)
    extend (fun e => do
      if ← take? "&&" then
        let f ← self (.tight 0)
        pure (some (.both e f))
      else pure none) roundLimit first
  | .tight n => tightOf self n
  | .power => powerOf self
  | .unary => unaryOf self

end

/-- The readers; `limit` bounds how deep expressions are nested. -/
def readers : (limit : Nat) → Readers
  | 0, _ => fail "expression recursion level exceeded"
  | limit + 1, level => atLevel (readers limit) level

/-- A whole expression. -/
def whole : Parse Expr := do
  advance
  let e ← readers roundLimit .comma
  if (← peek) != .ended then fail "syntax error in expression"
  pure e

end Parse

/-- Reads an expression; an empty text is zero. -/
def read (text : String) : Except Fault Expr :=
  let cs := text.toList.dropWhile isBlank
  if cs.isEmpty then .ok (.number 0)
  else
    match Parse.whole.run { rest := cs } with
    | .ok (e, _) => .ok e
    | .error (message, token) => .error ⟨String.ofList cs, message, token⟩

/-! ## Values -/

/-- A power; each round takes one off the exponent's digits, so `limit` may be their number. -/
def power : (limit : Nat) → (base exponent : Int) → Int
  | 0, _, _ => 1
  | limit + 1, base, exponent =>
    if exponent ≤ 0 then 1
    else
      let half := power limit (wrap (base * base)) (exponent / 2)
      if exponent % 2 = 1 then wrap (half * base) else half

/-- A number of 64 bits without its sign. -/
def bits (n : Int) : Nat := (n % 0x10000000000000000).toNat

/-- An operation on two numbers, or what is wrong. -/
def operate (op : String) (a b : Int) : Except String Int :=
  let truth (p : Bool) : Except String Int := .ok (if p then 1 else 0)
  match op with
  | "+" => .ok (wrap (a + b))
  | "-" => .ok (wrap (a - b))
  | "*" => .ok (wrap (a * b))
  | "/" => if b = 0 then .error "division by 0" else .ok (wrap (Int.tdiv a b))
  | "%" => if b = 0 then .error "division by 0" else .ok (wrap (Int.tmod a b))
  | "**" => if b < 0 then .error "exponent less than 0" else .ok (power 64 a b)
  | "<<" => .ok (wrap (a * (Nat.pow 2 (bits b % 64) : Nat)))
  | ">>" => .ok (wrap (Int.fdiv a (Nat.pow 2 (bits b % 64) : Nat)))
  | "&" => .ok (wrap (Nat.land (bits a) (bits b) : Nat))
  | "|" => .ok (wrap (Nat.lor (bits a) (bits b) : Nat))
  | "^" => .ok (wrap (Nat.xor (bits a) (bits b) : Nat))
  | "==" => truth (a == b)
  | "!=" => truth (a != b)
  | "<" => truth (decide (a < b))
  | ">" => truth (decide (a > b))
  | "<=" => truth (decide (a ≤ b))
  | ">=" => truth (decide (a ≥ b))
  | _ => .ok b

/-- Evaluating, which may fail. -/
abbrev Calc := ExceptT Fault Sh

/-- An evaluator of texts. -/
abbrev Evaluator := String → Calc Int

section
variable (text : String) (self : Evaluator)

/-- The element that a subscript stands for, if there can be one. -/
def keyOf (name : String) (subscript : Option String) : Calc (String × Option Key) := do
  let target ← (Sh.follow name : Sh String)
  let (name, own) := splitSubscript target
  match subscript.or own with
  | none => pure (name, some .whole)
  | some sub =>
    let v ← (Sh.find? name : Sh (Option Variable))
    let known : Option Value := v.map (·.value)
    match known with
    | some (.table _) => pure (name, some (.text sub))
    | other =>
      let n ← self sub
      if n ≥ 0 then pure (name, some (.number n.toNat))
      else
        let next := match other with
          | some (.list s) => s.next
          | _ => 1
        let i := (next : Int) + n
        pure (name, if i < 0 then none else some (.number i.toNat))

/-- The value of a variable or an element. -/
def valueOf (name : String) (subscript : Option String) : Calc Int := do
  let (target, key) ← keyOf self name subscript
  match key with
  | none =>
    (Sh.warnPlain (target ++ ": bad array subscript") : Sh Unit)
    missing target
  | some key =>
    match ← (Sh.find? target : Sh (Option Variable)) with
    | some v =>
      match if v.isSet then v.value.get? key else none with
      | some t => self t
      | none => missing target
    | none => missing target
where
  /-- A value that is missing counts as zero, unless that is an error. -/
  missing (target : String) : Calc Int := do
    let shown := match subscript with
      | some sub => target ++ "[" ++ sub ++ "]"
      | none => target
    let check : Sh Unit := do
      if ← Sh.hasOption "nounset" then
        Sh.warnPlain (shown ++ ": unbound variable")
        Sh.leave 127
    check
    pure 0

/-- Gives a variable or an element a value. -/
def assignTo (name : String) (subscript : Option String) (n : Int) : Calc Unit := do
  let (target, key) ← keyOf self name subscript
  match key with
  | none => throw ⟨"", "bad array subscript", target ++ "[" ++ subscript.getD "" ++ "]"⟩
  | some key =>
    let change : Sh Unit := do
      if !(← Sh.storeAt target key (toString n)) then Sh.discard
    change

/-- The value of an expression; `limit` bounds how deep it is nested. -/
def evaluate : (limit : Nat) → Expr → Calc Int
  | 0, _ => pure 0
  | limit + 1, e => do
    let go := evaluate limit
    let apply (op : String) (a b : Int) (rest : String) : Calc Int :=
      match operate op a b with
      | .ok n => pure n
      | .error message => throw ⟨text, message, rest⟩
    match e with
    | .number n => pure n
    | .variable name sub => valueOf self name sub
    | .unary op e =>
      let n ← go e
      pure (match op with
        | '!' => if n = 0 then 1 else 0
        | '~' => wrap (-n - 1)
        | '-' => wrap (-n)
        | _ => n)
    | .binary op a b rest =>
      let x ← go a
      let y ← go b
      apply op x y rest
    | .assign op name sub e rest =>
      if op == "" then
        let n ← go e
        assignTo self name sub n
        pure n
      else
        let x ← valueOf self name sub
        let y ← go e
        let n ← apply op x y rest
        assignTo self name sub n
        pure n
    | .step name sub up after =>
      let x ← valueOf self name sub
      let y := wrap (if up then x + 1 else x - 1)
      assignTo self name sub y
      pure (if after then x else y)
    | .choice test yes no =>
      let n ← go test
      if n != 0 then go yes else go no
    | .both a b =>
      let x ← go a
      if x = 0 then pure 0
      else
        let y ← go b
        pure (if y = 0 then 0 else 1)
    | .either a b =>
      let x ← go a
      if x != 0 then pure 1
      else
        let y ← go b
        pure (if y = 0 then 0 else 1)
    | .comma a b =>
      let _ ← go a
      go b

end

/-- The value of a text; `limit` bounds how deep variables lead to each other. -/
def evaluator : (limit : Nat) → Evaluator
  | 0, text => throw ⟨text, "expression recursion level exceeded", text⟩
  | limit + 1, text => do
    match read text with
    | .error f => throw f
    | .ok e =>
      let shown := String.ofList (text.toList.dropWhile isBlank)
      evaluate shown (evaluator limit) 0x10000000 e

end Arithmetic

namespace Sh

/-- The value of an expression, or what is wrong with it. -/
def calculate? (text : String) : Sh (Except Arithmetic.Fault Int) :=
  (Arithmetic.evaluator 1024 text).run

/-- Reports what is wrong with an expression. -/
def warnFault (f : Arithmetic.Fault) : Sh Unit := do
  if f.message == "bad array subscript" then warnPlain (f.token ++ ": bad array subscript")
  else warn (f.text ++ ": " ++ f.message ++ " (error token is \"" ++ f.token ++ "\")")

/-- The value of an expression; one that is wrong is reported, and the unit is given up. -/
def calculate (text : String) : Sh Int := do
  match ← calculate? text with
  | .ok n => pure n
  | .error f =>
    warnFault f
    discard

/-- The part of a variable that a subscript stands for, if there can be one; a text has `size` elements. -/
def keyOf? (name sub : String) (size : Nat) : Sh (Option Key) := do
  let v ← find? name
  let known : Option Value := v.map (·.value)
  match known with
  | some (.table _) => pure (some (.text sub))
  | other =>
    let n ← calculate sub
    if n ≥ 0 then pure (some (.number n.toNat))
    else
      let next := match other with
        | some (.list s) => s.next
        | some (.text _) => size
        | _ => 0
      let i := (next : Int) + n
      pure (if i < 0 then none else some (.number i.toNat))

/-- The part of a variable to give a value to; none after a complaint. -/
def keyFor (name sub : String) : Sh (Option Key) := do
  let key ← keyOf? name sub 1
  if key.isNone then warnPlain (name ++ "[" ++ sub ++ "]: bad array subscript")
  pure key

/-- The part of a variable to take the value of; none after a complaint. -/
def keyToRead (name sub : String) : Sh (Option Key) := do
  let key ← keyOf? name sub 0
  if key.isNone then warnPlain (name ++ ": bad array subscript")
  pure key

/-- A value for a variable, which is calculated if the variable is one for numbers. -/
def valueFor (v : Variable) (old : Option String) (value : String) (append : Bool) : Sh String := do
  if v.integer then
    let n ← calculate value
    let before ← if append then calculate (old.getD "0") else pure 0
    pure (toString (Arithmetic.wrap (before + n)))
  else pure (if append then old.getD "" ++ value else value)

/-- Assigns to a variable or to a part of it; says whether that worked. -/
def assignPart (name : String) (key : Key) (value : String) (append : Bool) : Sh Bool := do
  let v := ((← get).known? name).getD {}
  let old := if v.isSet && ((← get).known? name).isSome then v.value.get? key else none
  let text ← valueFor v old value append
  storeAt name key text

/-- Assigns to what a text names, which may be an element; says whether that worked. -/
def assignNamed (text value : String) (append : Bool := false) : Sh Bool := do
  let target ← follow text
  let (name, sub) := splitSubscript target
  match sub with
  | none => assignPart name .whole value append
  | some sub =>
    match ← keyFor name sub with
    | some key => assignPart name key value append
    | none => pure false

end Sh
end HardenAudit.ExtendedShell
