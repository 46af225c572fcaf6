import HardenAudit.Program.Files
import HardenAudit.Shell.Number

/-!
# Conditions in arguments: `test`

How a condition is read depends on the number of its words: up to four words are told apart by their
number, and more of them are read as an expression with `-o`, `-a` and `!`.
-/

namespace HardenAudit.Program.Condition

open Kernel (Status Work)

/-- Reading a condition: the word before, and those that are left; may fail with a message. -/
abbrev Reader := StateT (String × List String) (ExceptT String Work)

/-- Asks the kernel for something. -/
def work {α : Type} (w : Work α) : Reader α := StateT.lift (ExceptT.lift w)

/-- Fails with a message. -/
def fail {α : Type} (message : String) : Reader α := throw message

/-- The words that are left. -/
def rest : Reader (List String) := do
  pure (← get).2

/-- Fails because a word is missing. -/
def beyond {α : Type} : Reader α := do
  let (last, words) ← get
  fail ("missing argument after " ++ quote (words.getLast?.getD last))

/-- The next word. -/
def next : Reader String := do
  match (← get).2 with
  | w :: words =>
    set (w, words)
    pure w
  | [] => beyond

/-- The operators between two words. -/
def binaryOperators : List String :=
  ["=", "==", "!=", "-eq", "-ne", "-lt", "-le", "-gt", "-ge", "-nt", "-ot", "-ef"]

/-- The operators before a word. -/
def unaryLetters : List Char := "bcdefghknprstuwxzGLNOS".toList

/-- A number with blanks around it. -/
def number (word : String) : Reader Int := do
  let n := Shell.integer 10 word.toList
  if n.present && n.rest.all Shell.isSpace then pure n.value
  else fail ("invalid integer " ++ quote word)

/-- What a path leads to. -/
def status? (path : String) : Reader (Option Status) := do
  match ← work (inspect path) with
  | .ok s => pure (some s)
  | .error _ => pure none

/-- Does an operator hold between two words? -/
def holdsBetween (op a b : String) : Reader Bool := do
  let numbers (test : Int → Int → Bool) : Reader Bool := do
    let m ← number a
    let n ← number b
    pure (test m n)
  let times (test : Nat → Nat → Bool) : Reader Bool := do
    match ← status? a, ← status? b with
    | some x, some y => pure (test x.changed y.changed)
    | some _, none => pure (op = "-nt")
    | none, some _ => pure (op = "-ot")
    | none, none => pure false
  match op with
  | "=" | "==" => pure (a == b)
  | "!=" => pure (a != b)
  | "-eq" => numbers (· == ·)
  | "-ne" => numbers (· != ·)
  | "-lt" => numbers (· < ·)
  | "-le" => numbers (· ≤ ·)
  | "-gt" => numbers (· > ·)
  | "-ge" => numbers (· ≥ ·)
  | "-nt" => times (· > ·)
  | "-ot" => times (· < ·)
  | _ =>
    match ← status? a, ← status? b with
    | some x, some y => pure (x.same y)
    | _, _ => pure false

/-- Does an operator hold for a word? -/
def holdsFor (letter : Char) (word : String) : Reader Bool := do
  let status (test : Status → Bool) : Reader Bool := do
    pure (((← status? word).map test).getD false)
  match letter with
  | 'n' => pure (word != "")
  | 'z' => pure (word = "")
  | 'e' => status fun _ => true
  | 'O' | 'G' => status (·.own)
  | 'r' => status (·.grants .read)
  | 'w' => status (·.grants .write)
  | 'u' => status fun s => s.mode / 0o4000 % 2 == 1
  | 'g' => status fun s => s.mode / 0o2000 % 2 == 1
  | 'k' => status fun s => s.mode / 0o1000 % 2 == 1
  | 'h' | 'L' =>
    match ← work (inspectLink word) with
    | .ok s => pure (s.kind == .link)
    | .error _ => pure false
  | 'f' => status (·.kind == .file)
  | 'd' => status (·.kind == .directory)
  | 'c' => status (·.kind == .device)
  | 'p' => status (·.kind == .pipe)
  | 's' => status fun s => s.size > 0 || s.kind == .directory
  | 'x' => status (·.executable)
  | 't' =>
    let _ ← number word
    pure false
  | _ => pure false

/-- The letter of a word that may be an operator. -/
def letter? (word : String) : Option Char :=
  match word.toList with
  | ['-', c] => some c
  | _ => none

/-- An operator and the word behind it. -/
def unary : Reader Bool := do
  let op ← next
  match letter? op with
  | some c =>
    if unaryLetters.contains c then
      let w ← next
      holdsFor c w
    else fail (quote op ++ ": unary operator expected")
  | none => beyond

/-- Two words with an operator between them. -/
def binary : Reader Bool := do
  let a ← next
  let op ← next
  let b ← next
  holdsBetween op a b

/-- A single word. -/
def one : Reader Bool := do
  let w ← next
  pure (w != "")

/-- The opposite of a condition behind an exclamation mark. -/
def opposite (r : Reader Bool) : Reader Bool := do
  let _ ← next
  let b ← r
  pure !b

/-- Two words. -/
def two : Reader Bool := do
  match ← rest with
  | "!" :: _ => opposite one
  | w :: _ => if (letter? w).isSome then unary else beyond
  | [] => beyond

/-- Three words, over a reader for expressions. -/
def three (expression : Reader Bool) : Reader Bool := do
  match ← rest with
  | a :: op :: c :: _ =>
    if binaryOperators.contains op then binary
    else if a = "!" then opposite two
    else if a = "(" && c = ")" then
      let _ ← next
      let b ← one
      let _ ← next
      pure b
    else if op = "-a" || op = "-o" then expression
    else fail (quote op ++ ": binary operator expected")
  | _ => beyond

/-- So many words, over a reader for expressions. -/
def counted (expression : Reader Bool) (count : Nat) : Reader Bool := do
  match count with
  | 1 => one
  | 2 => two
  | 3 => three expression
  | 4 =>
    match ← rest with
    | "!" :: _ => opposite (three expression)
    | "(" :: _ :: _ :: ")" :: _ =>
      let _ ← next
      let b ← two
      let _ ← next
      pure b
    | _ => expression
  | _ => expression

/-- A term of an expression. -/
def termWith (expression : Reader Bool) : (limit : Nat) → Reader Bool
  | 0 => beyond
  | limit + 1 => do
    let words ← rest
    let plain : Reader Bool := do
      match words with
      | w :: _ => if (letter? w).isSome then unary else one
      | [] => beyond
    match words with
    | [] => beyond
    | "!" :: _ :: _ => opposite (termWith expression limit)
    | "(" :: inner =>
      let _ ← next
      if inner.isEmpty then beyond
      let size := ((inner.drop 1).take 3).findIdx (· == ")") + 1
      let b ← counted expression (if size > 3 then inner.length else size)
      match ← rest with
      | ")" :: _ =>
        let _ ← next
        pure b
      | w :: _ => fail ("')' expected, found " ++ w)
      | [] => fail "')' expected"
    | _ :: op :: _ :: _ => if binaryOperators.contains op then binary else plain
    | _ => plain

/-- Expressions; each takes a word at least, so `limit` may be their number.  `level` tells which
operators may stand here: `-o`, `-a`. -/
def expressionWith : (limit : Nat) → (either : Bool) → Reader Bool
  | 0, _ => beyond
  | limit + 1, either => do
    let first ← if either then expressionWith limit false
      else termWith (expressionWith limit true) (limit + 1)
    match ← rest with
    | op :: _ =>
      if op = (if either then "-o" else "-a") then
        let _ ← next
        let second ← expressionWith limit either
        pure (if either then first || second else first && second)
      else pure first
    | [] => pure first

/-- Does the condition of some words hold? -/
def holds : Reader Bool := do
  let words ← rest
  if words.isEmpty then pure false
  else
    let b ← counted (expressionWith (2 * words.length + 2) true) words.length
    match ← rest with
    | [] => pure b
    | w :: _ => fail ("extra argument " ++ quote w)

end HardenAudit.Program.Condition

namespace HardenAudit.Program

/-- Evaluates a condition; with `closing` a bracket has to stand behind it. -/
def test (closing : Bool) : Program := fun argv _ => do
  let name := argv.head?.getD ""
  let args := argv.drop 1
  if closing && args.getLast? != some "]" then giveUp name 2 "missing ']'"
  let words := if closing then args.dropLast else args
  match ← (Condition.holds.run (name, words)).run with
  | .ok (b, _) => pure (if b then 0 else 1)
  | .error message => giveUp name 2 message

end HardenAudit.Program
