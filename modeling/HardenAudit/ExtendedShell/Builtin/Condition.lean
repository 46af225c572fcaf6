import HardenAudit.ExtendedShell.Builtin.Options
import HardenAudit.ExtendedShell.Glob
import HardenAudit.ExtendedShell.Parser
import HardenAudit.Program.Regex

/-!
# Conditions

There are two kinds.  The words of `test` are an expression whose shape depends on how many there are.
The other kind is part of the language: its words are not split, and it knows patterns.
-/

namespace HardenAudit.ExtendedShell

open Kernel (Status)

namespace Sh

/-! ## Operators -/

/-- What a path leads to, if anything. -/
def statusOf? (path : String) : Sh (Option Status) := do
  if path == "" then pure none
  else
    match ← ask (.inspect path) with
    | .ok s => pure (some s)
    | .error _ => pure none

/-- An operator with one operand. -/
def unaryHolds (op word : String) : Sh Bool := do
  match op with
  | "-z" => pure (word == "")
  | "-n" => pure (word != "")
  | "-o" => hasOption word
  | "-v" =>
    let found ← namedValue word
    pure (!found.isMissing false)
  | "-R" =>
    match (← get).known? word with
    | some v => pure (v.reference && v.isSet)
    | none => pure false
  | "-t" => pure false
  | "-h" | "-L" =>
    if word == "" then pure false
    else
      match ← ask (.inspectLink word) with
      | .ok s => pure (s.kind == .link)
      | .error _ => pure false
  | _ =>
    match ← statusOf? word with
    | none => pure false
    | some s =>
      pure (match op with
        | "-a" | "-e" => true
        | "-f" => s.kind == .file
        | "-d" => s.kind == .directory
        | "-c" => s.kind == .device
        | "-p" => s.kind == .pipe
        | "-s" => s.size > 0
        | "-x" => s.executable
        | "-r" => s.grants .read
        | "-w" => s.grants .write
        | "-u" => s.mode / 0o4000 % 2 == 1
        | "-g" => s.mode / 0o2000 % 2 == 1
        | "-k" => s.mode / 0o1000 % 2 == 1
        | "-O" | "-G" => s.own
        | _ => false)

/-- A comparison of two files; one that is there is newer than one that is not. -/
def filesHold (op a b : String) : Sh Bool := do
  let x ← statusOf? a
  let y ← statusOf? b
  pure (match op, x, y with
    | "-nt", some x, some y => decide (x.changed > y.changed)
    | "-nt", some _, none => true
    | "-ot", some x, some y => decide (x.changed < y.changed)
    | "-ot", none, some _ => true
    | "-ef", some x, some y => x.same y
    | _, _, _ => false)

/-- A comparison of two numbers. -/
def numbersHold (op : String) (x y : Int) : Bool :=
  match op with
  | "-eq" => decide (x = y)
  | "-ne" => decide (x ≠ y)
  | "-lt" => decide (x < y)
  | "-le" => decide (x ≤ y)
  | "-gt" => decide (x > y)
  | _ => decide (x ≥ y)

/-- Is the operator one for numbers? -/
def comparesNumbers (op : String) : Bool := ["-eq", "-ne", "-lt", "-le", "-gt", "-ge"].contains op

/-! ## Conditions of the language -/

/-- The text of a regular expression: what stood in quotes stands for itself. -/
def expressionText (atoms : List Pattern.Atom) : String :=
  let special (c : Char) : Bool := "\\^$.|?*+()[]\x7b\x7d".toList.contains c
  String.join (atoms.map fun a =>
    if a.2 && special a.1 then "\\" ++ a.1.toString else a.1.toString)

/-- Does a regular expression match?  What it and its groups match is kept. -/
def regexHolds (text expression : String) : Sh (Option Bool) := do
  match Program.Regex.ofText { extended := true, strict := true } expression with
  | .error _ => pure none
  | .ok r =>
    let subject : Program.Regex.Subject :=
      { chars := text.toList.toArray, ignoreCase := ← hasExtra "nocasematch" }
    let slice (a b : Nat) : String := String.ofList (subject.slice a b)
    let keep (values : List String) : Sh Unit :=
      modify fun s => s.putGlobal "BASH_REMATCH" { value := .list (.ofList values) }
    match r.search? subject (fun _ _ => true) 0 with
    | none =>
      keep []
      pure (some false)
    | some m =>
      let groups := (List.range (r.groupCount + 1)).drop 1
      keep (slice m.start m.finish :: groups.map fun n =>
        match m.groups.lookup n with
        | some (a, b) => slice a b
        | none => "")
      pure (some true)

/-- A text as it is shown in the trace of a condition. -/
def tracedOperand (text : String) : String := if text == "" then "\x27\x27" else text

/-- The trace of commands, which conditions are shown in term by term. -/
abbrev Tracer := String → Sh Unit

/-- The number that a text of a condition is; none after a complaint. -/
def conditionNumber? (text : String) : Sh (Option Int) := do
  match ← calculate? text with
  | .ok n => pure (some n)
  | .error f =>
    warnFault f
    pure none

/-- The status of a term with two operands. -/
def binaryStatus (services : Services) (trace : Tracer) (op : String) (a b : Word) : Sh Nat := do
  let left ← expandText services { tilde := true } a
  let cells ← cellsOf services { tilde := true } b.pieces
  let right := Cell.text cells
  let answer (holds : Bool) : Sh Nat := pure (if holds then 0 else 1)
  let shown (text : String) : Sh Unit :=
    trace ("[[ " ++ tracedOperand left ++ " " ++ op ++ " " ++ tracedOperand text ++ " ]]")
  let atoms := Cell.atoms cells
  let special (c : Char) : Bool := "\\*?[]()|!+@".toList.contains c
  let escaped := String.join (atoms.map fun a =>
    if a.2 then "\\" ++ a.1.toString else a.1.toString)
  let patternText := if atoms.any fun a => a.2 && special a.1 then escaped else
    if atoms.all (·.2) then escaped else right
  if op == "==" || op == "=" || op == "!=" then
    shown patternText
    let items := Pattern.ofAtoms true atoms
    let m : Pattern.Manner := { folded := ← hasExtra "nocasematch" }
    let found := Pattern.isMatch m items left.toList
    answer (found == (op != "!="))
  else if op == "=~" then
    let expression := expressionText atoms
    shown expression
    match ← regexHolds left expression with
    | some found => answer found
    | none => pure 2
  else
    shown right
    if op == "<" then answer (decide (left < right))
    else if op == ">" then answer (decide (right < left))
    else if comparesNumbers op then
      match ← conditionNumber? left with
      | none => pure 1
      | some x =>
        match ← conditionNumber? right with
        | none => pure 1
        | some y => answer (numbersHold op x y)
    else
      let holds ← filesHold op left right
      answer holds

/-- The status of a condition. -/
def conditionStatus (services : Services) (trace : Tracer) : Condition → Sh Nat
  | .word w => do
    let text ← expandText services { tilde := true } w
    trace ("[[ -n " ++ tracedOperand text ++ " ]]")
    pure (if text != "" then 0 else 1)
  | .unary op w => do
    let text ← expandText services { tilde := true } w
    trace ("[[ " ++ op ++ " " ++ tracedOperand text ++ " ]]")
    let holds ← unaryHolds op text
    pure (if holds then 0 else 1)
  | .binary op a b => binaryStatus services trace op a b
  | .negation c => do
    let status ← conditionStatus services trace c
    pure (if status == 0 then 1 else if status == 1 then 0 else status)
  | .both a b => do
    let status ← conditionStatus services trace a
    if status == 0 then conditionStatus services trace b else pure status
  | .either a b => do
    let status ← conditionStatus services trace a
    if status == 0 then pure 0 else conditionStatus services trace b
  | .group c => conditionStatus services trace c

end Sh

namespace Builtin

open Sh

/-! ## Conditions in words -/

/-- An expression of words, which may fail with a message. -/
abbrev Testing := ExceptT String (StateT (List String) Sh)

/-- Is the word an operator with one operand? -/
def isUnary (word : String) : Bool := unaryOperators.contains word

/-- Is the word an operator with two operands? -/
def isBinary (word : String) : Bool :=
  (binaryOperators.contains word && word != "=~") || word == "<" || word == ">"

/-- Takes the next word. -/
def takeWord : Testing String := do
  match ← get with
  | [] => throw "argument expected"
  | w :: rest =>
    set rest
    pure w

/-- An operator with one operand, and the operand. -/
def unaryPart : Testing Bool := do
  let op ← takeWord
  if op == "-t" then
    match ← get with
    | [] => pure false
    | w :: rest =>
      if (Shell.wholeNumber? 10 w).isSome then set rest
      pure false
  else
    let word ← takeWord
    (unaryHolds op word : Sh Bool)

/-- Two operands with an operator between them. -/
def binaryPart : Testing Bool := do
  let a ← takeWord
  let op ← takeWord
  let b ← takeWord
  let number (text : String) : Testing Int :=
    match Shell.wholeNumber? 10 text with
    | some n => pure n
    | none => throw (text ++ ": integer expression expected")
  if op == "=" || op == "==" then pure (a == b)
  else if op == "!=" then pure (a != b)
  else if op == "<" then pure (decide (a < b))
  else if op == ">" then pure (decide (b < a))
  else if comparesNumbers op then
    let x ← number a
    let y ← number b
    pure (numbersHold op x y)
  else (filesHold op a b : Sh Bool)

/-- The parts of expressions. -/
inductive TestLevel where
  | either
  | both
  | term
  deriving DecidableEq, Repr

/-- An expression; every step takes a word or goes to a smaller level, so `limit` may be three times the
number of words. -/
def testPart : (limit : Nat) → TestLevel → Testing Bool
  | 0, _ => throw "argument expected"
  | limit + 1, level => do
    match level with
    | .either =>
      let a ← testPart limit .both
      match ← get with
      | "-o" :: rest =>
        set rest
        let b ← testPart limit .either
        pure (a || b)
      | _ => pure a
    | .both =>
      let a ← testPart limit .term
      match ← get with
      | "-a" :: rest =>
        set rest
        let b ← testPart limit .both
        pure (a && b)
      | _ => pure a
    | .term =>
      let words ← get
      match words with
      | [] => throw "argument expected"
      | "!" :: rest =>
        set rest
        if rest.isEmpty then throw "argument expected"
        let a ← testPart limit .term
        pure (!a)
      | "(" :: rest =>
        set rest
        if rest.isEmpty then throw "argument expected"
        let a ← testPart limit .either
        match ← get with
        | [] => throw "\x60)\x27 expected"
        | ")" :: rest =>
          set rest
          pure a
        | w :: _ => throw ("\x60)\x27 expected, found " ++ w)
      | w :: rest =>
        if words.length ≥ 3 && isBinary (words.getD 1 "") then binaryPart
        else if words.length ≥ 2 && isUnary w then unaryPart
        else
          set rest
          pure (w != "")

/-- An expression of two words. -/
def testTwo : Testing Bool := do
  match ← get with
  | "!" :: w :: _ =>
    set ([] : List String)
    pure (w == "")
  | w :: _ => if isUnary w then unaryPart else throw (w ++ ": unary operator expected")
  | [] => throw "argument expected"

/-- An expression of three words. -/
def testThree : Testing Bool := do
  match ← get with
  | [a, op, b] =>
    let done (holds : Bool) : Testing Bool := do
      set ([] : List String)
      pure holds
    if isBinary op then binaryPart
    else if op == "-a" then done (a != "" && b != "")
    else if op == "-o" then done (a != "" || b != "")
    else if a == "!" then
      set [op, b]
      let holds ← testTwo
      pure (!holds)
    else if a == "(" && b == ")" then done (op != "")
    else throw (op ++ ": binary operator expected")
  | _ => throw "argument expected"

/-- A whole expression. -/
def testWhole : Testing Bool := do
  let words ← get
  let limit := 3 * words.length + 3
  match words with
  | [] => pure false
  | [w] =>
    set ([] : List String)
    pure (w != "")
  | [_, _] => testTwo
  | [_, _, _] => testThree
  | [a, b, c, d] =>
    if a == "!" then
      set [b, c, d]
      let holds ← testThree
      pure (!holds)
    else if a == "(" && d == ")" then
      set [b, c]
      let holds ← testTwo
      set ([] : List String)
      pure holds
    else testPart limit .either
  | _ => testPart limit .either

/-- The status of an expression of words; `closing` asks for a bracket at the end. -/
def test (closing : Bool) (args : List String) : Sh Nat := do
  let complain (message : String) : Sh Nat := do
    warn message
    pure 2
  if closing && args.getLast? != some "]" then complain "missing \x60]\x27"
  else
    let words := if closing then args.dropLast else args
    let (r, rest) ← testWhole.run.run words
    match r with
    | .error message => complain message
    | .ok holds =>
      match rest with
      | [] => pure (if holds then 0 else 1)
      | w :: _ =>
        if w.startsWith "-" then complain ("syntax error: \x60" ++ w ++ "\x27 unexpected")
        else complain "too many arguments"

end Builtin
end HardenAudit.ExtendedShell
