import HardenAudit.Program.Basic
import HardenAudit.Program.Regex

/-!
# Expressions in arguments: `expr`

Each argument is an operator or a value.  Operators bind in this order, the loosest first: `|`, `&`,
comparisons, sums, products, and the match of a pattern.  A side that does not matter for `|` or `&`
is read and not calculated.
-/

namespace HardenAudit.Program.Calculate

/-- A value. -/
inductive Value where
  | number (n : Int)
  | text (s : String)
  deriving Repr, Inhabited

namespace Value

/-- The value as it is written. -/
def written : Value → String
  | number n => toString n
  | text s => s

/-- Digits, perhaps behind a minus. -/
def looksLikeNumber (s : String) : Bool :=
  let ds := match s.toList with
    | '-' :: ds => ds
    | ds => ds
  !ds.isEmpty && ds.all Char.isDigit

/-- The number that the value is, if it is one. -/
def number? : Value → Option Int
  | number n => some n
  | text s => if looksLikeNumber s then some (Shell.integer 10 s.toList).value else none

/-- Does the value count as nothing?  An empty text and a zero do. -/
def isNull : Value → Bool
  | number n => n == 0
  | text s =>
    let ds := match s.toList with
      | '-' :: ds => ds
      | ds => ds
    s = "" || (!ds.isEmpty && ds.all (· == '0'))

/-- The number of a truth value. -/
def ofBool (b : Bool) : Value := number (if b then 1 else 0)

end Value

/-- Reading under way: the argument that was read last, and those that are left. -/
structure Source where
  last : String := ""
  rest : List String

/-- Reading an expression, which may fail with a message. -/
abbrev Reader := StateT Source (Except String)

/-- The next argument; there must be one. -/
def next : Reader String := do
  let s ← get
  match s.rest with
  | a :: rest =>
    set { last := a, rest := rest : Source }
    pure a
  | [] => throw ("syntax error: missing argument after " ++ quote s.last)

/-- Takes the next argument, if it is one of several. -/
def oneOf? (wanted : List String) : Reader (Option String) := do
  match (← get).rest with
  | a :: _ =>
    if wanted.contains a then
      let a ← next
      pure (some a)
    else pure none
  | [] => pure none

/-- What a pattern matches at the start of a text: what its first group matched, or else how many
characters there are. -/
def matchStart (text pattern : String) : Except String Value := do
  let r ← Regex.ofText { extended := false, strict := true } pattern
  let t : Regex.Subject := { chars := text.toList.toArray }
  let found := r.matchAt? t (fun _ _ => true) true 0
  if r.groupCount > 0 then
    pure (.text (match found.bind fun m => m.groups.lookup 1 with
      | some (a, b) => String.ofList (t.slice a b)
      | none => ""))
  else
    pure (.number (match found with
      | some m => m.finish
      | none => 0))

/-- The outcome of a comparison. -/
def compareValues (op : String) (a b : Value) : Value :=
  let order := match a.number?, b.number? with
    | some m, some n => compare m n
    | _, _ => compare a.written b.written
  .ofBool (match op with
    | "<" => order == .lt
    | "<=" => order != .gt
    | "=" | "==" => order == .eq
    | "!=" => order != .eq
    | ">=" => order != .lt
    | _ => order == .gt)

/-- The outcome of a sum or a product. -/
def calculate (op : String) (a b : Value) : Except String Value :=
  match a.number?, b.number? with
  | some m, some n =>
    match op with
    | "+" => .ok (.number (m + n))
    | "-" => .ok (.number (m - n))
    | "*" => .ok (.number (m * n))
    | _ =>
      if n = 0 then .error "division by zero"
      else .ok (.number (if op = "/" then m.tdiv n else m.tmod n))
  | _, _ => .error "non-integer argument"

/-- Operators and what stands behind them, from the left to the right; each takes an argument, so
`limit` may be their number. -/
def chain (ops : List String) (combine : String → Value → Reader Value) : (limit : Nat) → Value →
    Reader Value
  | 0, v => pure v
  | limit + 1, v => do
    match ← oneOf? ops with
    | none => pure v
    | some op =>
      let v ← combine op v
      chain ops combine limit v

/-- A level of operators: reads an operand, and what stands behind it. -/
def level (ops : List String) (operand : Bool → Reader Value)
    (combine : (live : Bool) → String → Value → Reader Value) (live : Bool) : Reader Value := do
  let first ← operand live
  let limit := (← get).rest.length
  chain ops (combine live) limit first

/-- A level of operators whose sides are both calculated. -/
def plainLevel (ops : List String) (operand : Bool → Reader Value)
    (apply : String → Value → Value → Except String Value) : Bool → Reader Value :=
  level ops operand fun live op a => do
    let b ← operand live
    if live then liftM (apply op a b) else pure a

/-- All levels, over a reader for single values. -/
def levels (single : Bool → Reader Value) : Bool → Reader Value :=
  let matching := plainLevel [":"] single fun _ a b => matchStart a.written b.written
  let products := plainLevel ["*", "/", "%"] matching calculate
  let sums := plainLevel ["+", "-"] products calculate
  let comparisons := plainLevel ["<", "<=", "=", "==", "!=", ">=", ">"] sums fun op a b =>
    .ok (compareValues op a b)
  let both := level ["&"] comparisons fun live _ a => do
    let b ← comparisons (live && !a.isNull)
    pure (if a.isNull || b.isNull then .number 0 else a)
  level ["|"] both fun live _ a => do
    let b ← both (live && a.isNull)
    pure (if !a.isNull then a else if b.isNull then .number 0 else b)

/-- A part of a text, given by the number of its first character and its length. -/
def partOf (text : String) (first length : Value) : Value :=
  match first.number?, length.number? with
  | some i, some n =>
    if i ≤ 0 || n ≤ 0 then .text ""
    else .text (String.ofList ((text.toList.drop (i.toNat - 1)).take n.toNat))
  | _, _ => .text ""

/-- A single value: an argument, a function with its arguments, or an expression in parentheses. -/
def single : (limit : Nat) → (live : Bool) → Reader Value
  | 0, _ => pure (.text "")
  | limit + 1, live => do
    let operand := single limit live
    match ← next with
    | "+" =>
      let a ← next
      pure (.text a)
    | "length" =>
      let a ← operand
      pure (.number a.written.length)
    | "match" =>
      let a ← operand
      let b ← operand
      if live then liftM (matchStart a.written b.written) else pure a
    | "index" =>
      let a ← operand
      let b ← operand
      let wanted := b.written.toList
      pure (.number (match a.written.toList.findIdx? wanted.contains with
        | some i => i + 1
        | none => 0))
    | "substr" =>
      let a ← operand
      let b ← operand
      let c ← operand
      pure (partOf a.written b c)
    | "(" =>
      let v ← levels (single limit) live
      let s ← get
      match s.rest with
      | [] => throw ("syntax error: expecting ')' after " ++ quote s.last)
      | a :: _ =>
        if a = ")" then
          let _ ← next
          pure v
        else throw ("syntax error: expecting ')' instead of " ++ quote a)
    | ")" => throw "syntax error: unexpected ')'"
    | a => pure (.text a)

/-- The value of an expression. -/
def evaluate (args : List String) : Except String Value := do
  let (v, s) ← (levels (single (args.length + 1)) true).run { rest := args }
  match s.rest with
  | [] => pure v
  | a :: _ => throw ("syntax error: unexpected argument " ++ quote a)

end HardenAudit.Program.Calculate

namespace HardenAudit.Program

/-- Writes the value of an expression. -/
def expr : Program := fun argv _ => do
  let name := argv.head?.getD ""
  let args := match argv.drop 1 with
    | "--" :: rest => rest
    | args => args
  if args.isEmpty then misuse name 2 "missing operand"
  match Calculate.evaluate args with
  | .error message => giveUp name 2 message
  | .ok v =>
    put name (v.written ++ "\n")
    pure (if v.isNull then 1 else 0)

end HardenAudit.Program
