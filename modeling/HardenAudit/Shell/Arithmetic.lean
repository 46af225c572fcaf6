import HardenAudit.Shell.Number
import HardenAudit.Shell.Syntax

/-!
# Arithmetic expressions

Expressions over integers of 64 bits, with variables that may be assigned.  The parts of a condition
that do not count are read but not computed.
-/

namespace HardenAudit.Shell.Arithmetic

/-- A token of an expression. -/
inductive Token where
  | number (n : Int64)
  | name (text : String)
  /-- An operator, a parenthesis, or a sign that has no meaning. -/
  | sign (text : String)
  deriving Repr, Inhabited

/-- Operators, longer ones before those that they start with. -/
def operators : List String :=
  ["<<=", ">>=", "==", "!=", "<=", ">=", "&&", "||", "<<", ">>", "+=", "-=", "*=", "/=", "%=", "&=",
   "^=", "|=", "+", "-", "*", "/", "%", "(", ")", "<", ">", "&", "|", "^", "!", "~", "?", ":", "="]

/-- The first token of a text, and the rest. -/
def token (c : Char) (rest : List Char) : Token × List Char :=
  if c.isDigit then
    let n := unsigned 0 (c :: rest)
    (.number (.ofInt (clamp n.value)), n.rest)
  else if isNameStart c then
    (.name (String.ofList ((c :: rest).takeWhile isNameChar)), (c :: rest).dropWhile isNameChar)
  else
    match operators.find? fun o => o.toList.isPrefixOf (c :: rest) with
    | some o => (.sign o, (c :: rest).drop o.length)
    | none => (.sign "bad", rest)

/-- The tokens of a text; each takes a character at least, so `limit` may be its length. -/
def tokens : (limit : Nat) → List Char → List Token
  | 0, _ => []
  | _, [] => []
  | limit + 1, c :: rest =>
    if c == ' ' || c == '\t' || c == '\n' then tokens limit rest
    else
      let (t, rest) := token c rest
      t :: tokens limit rest

/-- Why an expression has no value. -/
inductive Failure where
  /-- Something is wrong with the expression itself. -/
  | wrong (message : String)
  /-- The value of a variable is no number. -/
  | illegalNumber (text : String)
  | readOnly (name : String)
  /-- A quotient is too large. -/
  | overflow
  deriving Repr, Inhabited

/-- What is known of the variables. -/
structure Scope where
  value : String → Option String
  isReadOnly : String → Bool

/-- Tokens that are left, and variables that were assigned, the latest first. -/
structure Progress where
  tokens : List Token
  assigned : List (String × Int64) := []

/-- Computing. -/
abbrev Compute := StateT Progress (Except Failure)

/-- The sign that comes next. -/
def nextSign : Compute (Option String) := do
  match (← get).tokens with
  | .sign text :: _ => pure (some text)
  | _ => pure none

/-- Drops a token. -/
def skip : Compute Unit := modify fun p => { p with tokens := p.tokens.drop 1 }

/-- The value of a variable. -/
def lookup (scope : Scope) (name : String) : Compute Int64 := do
  match (← get).assigned.lookup name with
  | some n => pure n
  | none =>
    let text := (scope.value name).getD ""
    match wholeNumber? 0 text with
    | some n => pure (.ofInt n)
    | none => throw (.illegalNumber text)

/-- Assigns to a variable. -/
def assign (scope : Scope) (name : String) (n : Int64) : Compute Int64 := do
  if scope.isReadOnly name then throw (.readOnly name)
  modify fun p => { p with assigned := (name, n) :: p.assigned }
  pure n

/-- How tightly an operator binds; a smaller number binds tighter. -/
def precedence? (op : String) : Option Nat :=
  if ["*", "/", "%"].contains op then some 0
  else if ["+", "-"].contains op then some 1
  else if ["<<", ">>"].contains op then some 2
  else if ["<", "<=", ">", ">="].contains op then some 3
  else if ["==", "!="].contains op then some 4
  else if op = "&" then some 5
  else if op = "^" then some 6
  else if op = "|" then some 7
  else none

/-- One for true, zero for false. -/
def truth (b : Bool) : Int64 := if b then 1 else 0

/-- The value of an operation. -/
def apply (op : String) (a b : Int64) : Compute Int64 :=
  match op with
  | "*" => pure (a * b)
  | "/" | "%" =>
    if b == 0 then throw (.wrong "division by zero")
    else if b == -1 && a == Int64.minValue then throw .overflow
    else pure (if op = "/" then a / b else a % b)
  | "+" => pure (a + b)
  | "-" => pure (a - b)
  | "<<" => pure (a <<< b)
  | ">>" => pure (a >>> b)
  | "<" => pure (truth (a < b))
  | "<=" => pure (truth (a ≤ b))
  | ">" => pure (truth (b < a))
  | ">=" => pure (truth (b ≤ a))
  | "==" => pure (truth (a == b))
  | "!=" => pure (truth (a != b))
  | "&" => pure (a &&& b)
  | "^" => pure (a ^^^ b)
  | _ => pure (a ||| b)

/-- The operator of an assignment with one, such as `+=`; the plain assignment has none. -/
def assignment? (sign : String) : Option (Option String) :=
  if sign = "=" then some none
  else if ["==", "!=", "<=", ">="].contains sign then none
  else if sign.endsWith "=" then some (some (String.ofList sign.toList.dropLast))
  else none

mutual

/-- A number, a variable, an expression in parentheses, or one of these behind signs.  In a part that
does not count, `idle` is set. -/
def primary (scope : Scope) (idle : Bool) : (limit : Nat) → Compute Int64
  | 0 => throw (.wrong "expecting primary")
  | limit + 1 => do
    match (← get).tokens with
    | .number n :: _ =>
      skip
      pure n
    | .name name :: _ =>
      skip
      if idle then pure 0 else lookup scope name
    | .sign "(" :: _ =>
      skip
      let n ← whole scope idle limit
      if (← nextSign) != some ")" then throw (.wrong "expecting ')'")
      skip
      pure n
    | .sign "+" :: _ =>
      skip
      primary scope idle limit
    | .sign "-" :: _ =>
      skip
      let n ← primary scope idle limit
      pure (-n)
    | .sign "!" :: _ =>
      skip
      let n ← primary scope idle limit
      pure (truth (n == 0))
    | .sign "~" :: _ =>
      skip
      let n ← primary scope idle limit
      pure (~~~n)
    | _ => throw (.wrong "expecting primary")

/-- What follows a first operand: operators that bind tighter than `bound`. -/
def operations (scope : Scope) (idle : Bool) (a : Int64) (bound : Nat) : (limit : Nat) → Compute Int64
  | 0 => pure a
  | limit + 1 => do
    match ← nextSign with
    | none => pure a
    | some op =>
      match precedence? op with
      | none => pure a
      | some level =>
        if level ≥ bound then pure a
        else
          skip
          let b ← primary scope idle limit
          let b ← operations scope idle b level limit
          let n ← if idle then pure b else apply op a b
          operations scope idle n bound limit

/-- Operands joined by `&&`. -/
def conjunction (scope : Scope) (idle : Bool) : (limit : Nat) → Compute Int64
  | 0 => throw (.wrong "expecting primary")
  | limit + 1 => do
    let a ← primary scope idle limit
    let a ← operations scope idle a 8 limit
    if (← nextSign) == some "&&" then
      skip
      let b ← conjunction scope (idle || a == 0) limit
      pure (truth (a != 0 && b != 0))
    else pure a

/-- Operands joined by `||`. -/
def disjunction (scope : Scope) (idle : Bool) : (limit : Nat) → Compute Int64
  | 0 => throw (.wrong "expecting primary")
  | limit + 1 => do
    let a ← conjunction scope idle limit
    if (← nextSign) == some "||" then
      skip
      let b ← disjunction scope (idle || a != 0) limit
      pure (truth (a != 0 || b != 0))
    else pure a

/-- A choice between two expressions. -/
def choice (scope : Scope) (idle : Bool) : (limit : Nat) → Compute Int64
  | 0 => throw (.wrong "expecting primary")
  | limit + 1 => do
    let a ← disjunction scope idle limit
    if (← nextSign) == some "?" then
      skip
      let b ← whole scope (idle || a == 0) limit
      if (← nextSign) != some ":" then throw (.wrong "expecting ':'")
      skip
      let c ← choice scope (idle || a != 0) limit
      pure (if a != 0 then b else c)
    else pure a

/-- A whole expression, which may assign to a variable. -/
def whole (scope : Scope) (idle : Bool) : (limit : Nat) → Compute Int64
  | 0 => throw (.wrong "expecting primary")
  | limit + 1 => do
    match (← get).tokens with
    | .name name :: .sign sign :: _ =>
      match assignment? sign with
      | none => choice scope idle limit
      | some op =>
        skip
        skip
        let n ← whole scope idle limit
        if idle then pure n
        else
          match op with
          | none => assign scope name n
          | some op =>
            let old ← lookup scope name
            let n ← apply op old n
            assign scope name n
    | _ => choice scope idle limit

end

/-- The value of an expression, and the variables that it assigns, in order. -/
def evaluate (scope : Scope) (text : String) : Except Failure (Int64 × List (String × Int64)) := do
  let all := tokens (text.length + 1) text.toList
  let (n, p) ← (whole scope false (8 * all.length + 16)).run { tokens := all }
  match p.tokens with
  | [] => pure (n, p.assigned.reverse)
  | _ => throw (.wrong "expecting EOF")

end HardenAudit.Shell.Arithmetic
