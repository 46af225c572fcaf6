import HardenAudit.Program.Regex

/-!
# Regular expressions in scripts about records

The notation has sets, groups, alternatives and repetitions.  Braces stand for themselves, and so does
a parenthesis that closes nothing; the marks for the start and the end have their meaning everywhere.
-/

namespace HardenAudit.Program.Records.Expression

open Regex (literal)

/-- The character that an escape in a text stands for, behind its backslash, and the rest; none if it
stands for nothing. -/
def escape? (cs : List Char) : Option (Char × List Char) :=
  match cs with
  | [] => none
  | c :: rest =>
    match c with
    | '"' | '\\' => some (c, rest)
    | 'a' => some (Char.ofNat 7, rest)
    | 'b' => some (Char.ofNat 8, rest)
    | 'f' => some (Char.ofNat 12, rest)
    | 'n' => some ('\n', rest)
    | 'r' => some ('\r', rest)
    | 't' => some ('\t', rest)
    | 'v' => some (Char.ofNat 11, rest)
    | 'x' =>
      let ds := (rest.take 2).takeWhile fun d => (Shell.digitValue? 16 d).isSome
      if ds.isEmpty then none
      else some (Char.ofNat (Shell.digits 16 ds 0 0).1, rest.drop ds.length)
    | c =>
      if '0' ≤ c && c ≤ '7' then
        let ds := (cs.take 3).takeWhile fun d => '0' ≤ d && d ≤ '7'
        some (Char.ofNat ((Shell.digits 8 ds 0 0).1 % 256), cs.drop ds.length)
      else none

/-- The message about a set that is malformed. -/
def badSet : String := "bad class -- [], [^] or ["

/-- One character of a set, perhaps an escape, and the rest. -/
def setChar (cs : List Char) : Option (Char × List Char) :=
  match cs with
  | [] => none
  | '\\' :: rest =>
    match escape? rest with
    | some r => some r
    | none =>
      match rest with
      | c :: rest => some (c, rest)
      | [] => some ('\\', [])
  | c :: rest => some (c, rest)

/-- The members of a set up to its end; each takes a character, so `limit` may be their number. -/
def members : (limit : Nat) → (first : Bool) → CharSet → List Char →
    Except String (CharSet × List Char)
  | 0, _, _, _ => .error badSet
  | limit + 1, first, s, cs =>
    match cs with
    | ']' :: rest =>
      if first then plain limit s cs else .ok (s, rest)
    | '[' :: ':' :: more =>
      match Regex.namedPart ':' more with
      | some (name, rest) =>
        if (Shell.Pattern.inClass? name 'a').isSome then
          members limit false { s with classes := name :: s.classes } rest
        else .error badSet
      | none => plain limit s cs
    | cs => plain limit s cs
where
  /-- A character or a range. -/
  plain (limit : Nat) (s : CharSet) (cs : List Char) : Except String (CharSet × List Char) :=
    match setChar cs with
    | none => .error badSet
    | some (a, rest) =>
      match rest with
      | '-' :: d :: more =>
        if d == ']' then members limit false { s with ranges := (a, a) :: s.ranges } rest
        else
          match setChar (d :: more) with
          | none => .error badSet
          | some (b, more) =>
            let ranges := if a ≤ b then [(a, b)] else [(a, a), ('-', '-'), (b, b)]
            members limit false { s with ranges := ranges ++ s.ranges } more
      | _ => members limit false { s with ranges := (a, a) :: s.ranges } rest

/-- Reading an expression: what is left, and the groups so far. -/
structure Source where
  rest : List Char
  depth : Nat := 0

/-- Reading, which may fail with a message. -/
abbrev Reader := StateT Source (Except String)

/-- Repetitions behind a part; each takes a character, so `limit` may be their number. -/
def repetitions : (limit : Nat) → Regex → Reader Regex
  | 0, r => pure r
  | limit + 1, r => do
    let s ← get
    let go (rest : List Char) (least : Nat) (most : Option Nat) : Reader Regex := do
      match r with
      | .start => throw "syntax error ^* or ^+"
      | _ => pure ()
      set { s with rest := rest }
      repetitions limit (.times r least most)
    match s.rest with
    | '*' :: rest => go rest 0 none
    | '+' :: rest => go rest 1 none
    | '?' :: rest => go rest 0 (some 1)
    | _ => pure r

/-- The message about nothing where something must stand. -/
def missingOperand : String := "missing operand"

/-- One part of an expression, without repetitions. -/
def part (alternatives : Reader Regex) : Reader Regex := do
  let s ← get
  let take (rest : List Char) (r : Regex) : Reader Regex := do
    set { s with rest := rest }
    pure r
  match s.rest with
  | [] => throw missingOperand
  | '(' :: rest =>
    set { s with rest := rest, depth := s.depth + 1 }
    if rest.isEmpty then throw "missing ')'"
    let r ← alternatives
    let inner ← get
    match inner.rest with
    | ')' :: rest =>
      set { inner with rest := rest, depth := s.depth }
      pure r
    | _ => throw "missing ')'"
  | '.' :: rest => take rest (.one { negated := true })
  | '^' :: rest => take rest .start
  | '$' :: rest => take rest .finish
  | '[' :: rest =>
    let (negated, cs) := match rest with
      | '^' :: cs => (true, cs)
      | cs => (false, cs)
    let (set_, rest) ← (members (cs.length + 1) true { negated := negated } cs : Except String _)
    take rest (.one set_)
  | '\\' :: rest =>
    match escape? rest with
    | some (c, rest) => take rest (literal c)
    | none =>
      match rest with
      | c :: rest => take rest (literal c)
      | [] => take [] (literal '\\')
  | c :: rest =>
    if c == '*' || c == '+' || c == '?' || c == '|' || (c == ')' && s.depth > 0) then
      throw missingOperand
    else take rest (literal c)

/-- A row of parts; each takes a character, so `limit` may be their number. -/
def parts (alternatives : Reader Regex) : (limit : Nat) → Reader Regex
  | 0 => pure .empty
  | limit + 1 => do
    let s ← get
    let a ← part alternatives
    let a ← repetitions s.rest.length a
    let s ← get
    let ends := match s.rest with
      | [] => true
      | '|' :: _ => true
      | ')' :: _ => s.depth > 0
      | _ => false
    if ends then pure a
    else
      let b ← parts alternatives limit
      pure (.cat a b)

/-- Alternatives; `limit` bounds how deep groups are nested and how many alternatives there are. -/
def alternatives : (limit : Nat) → Reader Regex
  | 0 => pure .empty
  | limit + 1 => do
    let s ← get
    let a ← parts (alternatives limit) (s.rest.length + 1)
    let s ← get
    match s.rest with
    | '|' :: rest =>
      set { s with rest := rest }
      let b ← alternatives limit
      pure (.alt a b)
    | _ => pure a

/-- Reads an expression. -/
def read (text : String) : Except String Regex :=
  if text = "" then .ok .empty
  else ((alternatives (text.length + 1)).run { rest := text.toList }).map (·.1)

end HardenAudit.Program.Records.Expression
