import HardenAudit.Shell.Options

/-!
# Conditions: `test`

A condition is a row of words: operands, operators with one or two operands, negations,
conjunctions, disjunctions and parentheses.  What a word is taken for depends on the words behind
it.
-/

namespace HardenAudit.Shell.Builtin

open Kernel (Status)
open Sh

/-- What an operator of a condition is. -/
inductive Operator where
  | unary
  | binary
  | negation
  | conjunction
  | disjunction
  | leftParen
  | rightParen
  deriving DecidableEq, Repr, Inhabited

/-- What a word of a condition is taken for. -/
inductive Lexeme where
  | ended
  | operand
  | operator (o : Operator) (text : String)
  deriving DecidableEq, Repr, Inhabited

/-- The operator that a word spells. -/
def operator? (word : String) : Option Operator :=
  if ["-r", "-w", "-x", "-e", "-f", "-d", "-c", "-b", "-p", "-u", "-g", "-k", "-s", "-t", "-z",
      "-n", "-h", "-O", "-G", "-L", "-S"].contains word then some .unary
  else if ["=", "!=", "<", ">", "-eq", "-ne", "-ge", "-gt", "-le", "-lt", "-nt", "-ot",
      "-ef"].contains word then some .binary
  else if word = "!" then some .negation
  else if word = "-a" then some .conjunction
  else if word = "-o" then some .disjunction
  else if word = "(" then some .leftParen
  else if word = ")" then some .rightParen
  else none

/-- What the first of some words is taken for.  A word that spells an operator with one operand is
an operand if nothing follows, or an operator with two operands that has its second one. -/
def lexeme : List String → Lexeme
  | [] => .ended
  | word :: rest =>
    match operator? word with
    | none => .operand
    | some .unary =>
      let isOperand : Bool := match rest with
        | [] => true
        | [_] => false
        | next :: _ => operator? next == some .binary
      if isOperand then .operand else .operator .unary word
    | some .leftParen => if rest.isEmpty then .operand else .operator .leftParen word
    | some o => .operator o word

/-- Complains about the words of a condition. -/
def badCondition {α : Type} (word message : String) : Sh α :=
  fail (if word = "" then message else word ++ ": " ++ message)

/-- The number that a word is. -/
def conditionNumber (word : String) : Sh Int :=
  match wholeNumber? 10 word with
  | some n => pure n
  | none => fail ("Illegal number: " ++ word)

/-- What a path leads to, if anything. -/
def status? (path : String) : Sh (Option Status) := do
  match ← ask (.inspect path) with
  | .ok s => pure (some s)
  | .error _ => pure none

/-- An operator with one operand. -/
def unaryHolds (op word : String) : Sh Bool := do
  match op with
  | "-z" => pure (word == "")
  | "-n" => pure (word != "")
  | "-t" =>
    let _ ← conditionNumber word
    pure false
  | "-h" | "-L" =>
    match ← ask (.inspectLink word) with
    | .ok s => pure (s.kind == .link)
    | .error _ => pure false
  | _ =>
    match ← status? word with
    | none => pure false
    | some s =>
      pure (match op with
        | "-f" => s.kind == .file
        | "-d" => s.kind == .directory
        | "-c" => s.kind == .device
        | "-p" => s.kind == .pipe
        | "-s" => s.size > 0
        | "-x" => s.executable
        | "-r" => s.grants .read
        | "-w" => s.grants .write
        | "-u" => s.mode / 0o4000 % 2 == 1
        | "-g" => s.mode / 0o2000 % 2 == 1
        | "-k" => s.mode / 0o1000 % 2 == 1
        | "-O" | "-G" => s.own
        | "-e" => true
        | _ => false)

/-- An operator with two operands. -/
def binaryHolds (op a b : String) : Sh Bool := do
  let compare (f : Int → Int → Bool) : Sh Bool := do
    let x ← conditionNumber a
    let y ← conditionNumber b
    pure (f x y)
  let files (f : Status → Status → Bool) : Sh Bool := do
    match ← status? a, ← status? b with
    | some x, some y => pure (f x y)
    | _, _ => pure false
  match op with
  | "=" => pure (a == b)
  | "!=" => pure (a != b)
  | "<" => pure (decide (a < b))
  | ">" => pure (decide (b < a))
  | "-eq" => compare (· == ·)
  | "-ne" => compare (· != ·)
  | "-ge" => compare fun x y => decide (x ≥ y)
  | "-gt" => compare fun x y => decide (x > y)
  | "-le" => compare fun x y => decide (x ≤ y)
  | "-lt" => compare fun x y => decide (x < y)
  | "-nt" => files fun x y => decide (x.changed > y.changed)
  | "-ot" => files fun x y => decide (x.changed < y.changed)
  | _ => files fun x y => x.same y

/-- A part of a condition at some words: does it hold, and the words from its last one on. -/
abbrev Part := Lexeme → List String → Sh (Bool × List String)

/-- A condition without connectives. -/
def primaryWith (either : Part) : Part := fun n words => do
  match n with
  | .ended => pure (false, words)
  | .operator .leftParen _ =>
    let inside := words.drop 1
    if lexeme inside matches .operator .rightParen _ then pure (false, inside)
    else
      let (holds, words) ← either (lexeme inside) inside
      let words := words.drop 1
      if lexeme words matches .operator .rightParen _ then pure (holds, words)
      else badCondition "" "closing paren expected"
  | .operator .unary op =>
    match words.drop 1 with
    | [] => badCondition op "argument expected"
    | word :: rest =>
      let holds ← unaryHolds op word
      pure (holds, word :: rest)
  | _ =>
    let word := words.head?.getD ""
    match lexeme (words.drop 1) with
    | .operator .binary op =>
      match words.drop 2 with
      | [] => badCondition op "argument expected"
      | b :: rest =>
        let holds ← binaryHolds op word b
        pure (holds, b :: rest)
    | _ => pure (word != "", words)

/-- A condition that may be negated; each negation takes a word, so `limit` may be their number. -/
def negatedWith (either : Part) : (limit : Nat) → Part
  | 0, n, words => primaryWith either n words
  | limit + 1, n, words => do
    match n with
    | .operator .negation _ =>
      let n := lexeme (words.drop 1)
      let words := if n == .ended then words else words.drop 1
      let (holds, words) ← negatedWith either limit n words
      pure (!holds, words)
    | _ => primaryWith either n words

/-- A conjunction. -/
def allWith (either : Part) : (limit : Nat) → Part
  | 0, _, words => pure (true, words)
  | limit + 1, n, words => do
    let (holds, words) ← negatedWith either limit n words
    if lexeme (words.drop 1) matches .operator .conjunction _ then
      let words := words.drop 2
      let (more, words) ← allWith either limit (lexeme words) words
      pure (holds && more, words)
    else pure (holds, words)

/-- A disjunction. -/
def anyWith (either : Part) : (limit : Nat) → Part
  | 0, _, words => pure (false, words)
  | limit + 1, n, words => do
    let (holds, words) ← allWith either (limit + 1) n words
    if lexeme (words.drop 1) matches .operator .disjunction _ then
      let words := words.drop 2
      let (more, words) ← anyWith either limit (lexeme words) words
      pure (holds || more, words)
    else pure (holds, words)

/-- A whole condition; `limit` bounds how deep parentheses are nested. -/
def anyOf (size : Nat) : (limit : Nat) → Part
  | 0, _, words => pure (false, words)
  | limit + 1, n, words => anyWith (anyOf size limit) size n words

/-- Does a condition hold, whose first word is taken for a given thing? -/
def conditionHolds (n : Lexeme) (words : List String) : Sh Bool := do
  let size := words.length + 2
  let (holds, rest) ← anyOf size size n words
  match rest with
  | a :: _ :: _ => badCondition a "unexpected operator"
  | _ => pure holds

/-- Does a condition hold?  With three or four words the first and the last may be parentheses, and
the first may say that all the others are negated; `limit` bounds such words. -/
def condition : (limit : Nat) → (negated : Bool) → List String → Sh Bool
  | 0, negated, _ => pure negated
  | limit + 1, negated, words => do
    let size := words.length
    let plain (n : Lexeme) (words : List String) : Sh Bool := do
      let holds ← conditionHolds n words
      pure (holds != negated)
    if words.isEmpty then pure negated
    else if size = 3 && (operator? (words.getD 1 "")) == some .binary then plain .operand words
    else if size = 3 || size = 4 then
      if words.head? == some "(" && words.getLast? == some ")" then
        let inside := (words.drop 1).dropLast
        plain (lexeme inside) inside
      else if words.head? == some "!" then condition limit true (words.drop 1)
      else plain (lexeme words) words
    else plain (lexeme words) words

/-- The status of a condition; `closing` asks for a bracket at the end. -/
def test (closing : Bool) (args : List String) : Sh Nat := do
  let words ←
    if closing then
      match args.getLast? with
      | some last =>
        if last.startsWith "]" then pure args.dropLast else fail "missing ]"
      | none => fail "missing ]"
    else pure args
  let holds ← condition (words.length + 1) false words
  pure (if holds then 0 else 1)

end HardenAudit.Shell.Builtin
