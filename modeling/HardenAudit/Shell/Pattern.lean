import HardenAudit.Shell.Syntax

/-!
# Patterns

A pattern is a row of characters of which some stand for themselves only.  The others may be a
question mark (any character), a star (any row of characters), or a bracket with a set of characters.
-/

namespace HardenAudit.Shell.Pattern

/-- A character of a pattern, and whether it stands for itself only. -/
abbrev Atom := Char × Bool

/-- A pattern with its backslashes taken off: the character behind one stands for itself. -/
def unescape : List Atom → List Atom
  | ('\\', false) :: (c, _) :: rest => (c, true) :: unescape rest
  | ('\\', false) :: [] => [('\\', true)]
  | a :: rest => a :: unescape rest
  | [] => []

/-- Is the character in a class that has a name? -/
def inClass? (name : String) (c : Char) : Option Bool :=
  let n := c.toNat
  let isPunct := 0x21 ≤ n && n ≤ 0x7E && !c.isAlphanum
  match name with
  | "alnum" => some c.isAlphanum
  | "alpha" => some c.isAlpha
  | "blank" => some (c == ' ' || c == '\t')
  | "cntrl" => some (n < 0x20 || n == 0x7F)
  | "digit" => some c.isDigit
  | "graph" => some (0x21 ≤ n && n ≤ 0x7E)
  | "lower" => some c.isLower
  | "print" => some (0x20 ≤ n && n ≤ 0x7E)
  | "punct" => some isPunct
  | "space" => some (c == ' ' || (9 ≤ n && n ≤ 13))
  | "upper" => some c.isUpper
  | "xdigit" => some (c.isDigit || ('a' ≤ c && c ≤ 'f') || ('A' ≤ c && c ≤ 'F'))
  | _ => none

/-- A class such as `[:alpha:]`, behind its first bracket: is the character in it, and the rest. -/
def namedClass? (c : Char) : List Atom → Option (Bool × List Atom)
  | (':', _) :: rest =>
    let name := rest.takeWhile fun a => a.1 != ':'
    match rest.drop name.length with
    | (':', _) :: (']', _) :: rest =>
      (inClass? (String.ofList (name.map (·.1))) c).map (·, rest)
    | _ => none
  | _ => none

/-- The members of a set up to its end: is the character among them, and the rest behind the set;
`none` if the set has no end. -/
def members (c : Char) : (limit : Nat) → (found : Bool) → List Atom → Option (Bool × List Atom)
  | 0, _, _ => none
  | _, _, [] => none
  | limit + 1, found, (a, literal) :: rest =>
    let continued (found : Bool) (rest : List Atom) : Option (Bool × List Atom) :=
      match rest with
      | (']', false) :: rest => some (found, rest)
      | _ => members c limit found rest
    match if a == '[' && !literal then namedClass? c rest else none with
    | some (inside, rest) => continued (found || inside) rest
    | none =>
      match rest with
      | ('-', false) :: (b, bl) :: more =>
        if b == ']' && !bl then continued (found || a == c) rest
        else continued (found || (a ≤ c && c ≤ b)) more
      | _ => continued (found || a == c) rest

/-- A set behind its bracket: is the character in it, and the rest; `none` if it has no end. -/
def set? (c : Char) (p : List Atom) : Option (Bool × List Atom) :=
  match p with
  | ('!', false) :: rest => (members c (rest.length + 1) false rest).map fun r => (!r.1, r.2)
  | _ => members c (p.length + 1) false p

/-- Does the pattern match the text?  Each step takes something off one of the two, so `limit` may be
the sum of their lengths. -/
def matchesFrom : (limit : Nat) → List Atom → List Char → Bool
  | 0, p, s => p.isEmpty && s.isEmpty
  | _, [], s => s.isEmpty
  | limit + 1, ('*', false) :: rest, s =>
    matchesFrom limit rest s || (match s with
      | [] => false
      | _ :: s => matchesFrom limit (('*', false) :: rest) s)
  | limit + 1, ('?', false) :: rest, s =>
    match s with
    | [] => false
    | _ :: s => matchesFrom limit rest s
  | limit + 1, ('[', false) :: rest, s =>
    match s with
    | [] => false
    | c :: s =>
      match set? c rest with
      | some (true, rest) => matchesFrom limit rest s
      | some (false, _) => false
      | none => c == '[' && matchesFrom limit rest s
  | limit + 1, (a, _) :: rest, s =>
    match s with
    | [] => false
    | c :: s => a == c && matchesFrom limit rest s

/-- Does the pattern match the whole text? -/
def isMatch (p : List Atom) (s : List Char) : Bool :=
  let p := unescape p
  matchesFrom (p.length + s.length + 1) p s

/-- Has the pattern a character that may stand for others? -/
def isActive (p : List Atom) : Bool :=
  (unescape p).any fun a => !a.2 && (a.1 == '*' || a.1 == '?' || a.1 == '[')

/-- The character between two texts that are trimmed together. -/
def gap : Char := Char.ofNat 0

/-- The text without the part at its start or its end that matches a pattern; the part is as short or
as long as possible.  Several texts may stand behind each other with gaps between them: then a gap
ends what is compared with the pattern.  A short part at the start and a long one at the end are looked
for in the first text only. -/
def trim (p : List Atom) (atEnd longest : Bool) (s : List Char) : List Char :=
  let first := (s.takeWhile (· != gap)).length
  let cuts := if atEnd == longest then List.range (first + 1) else (List.range (s.length + 1)).reverse
  let part (k : Nat) : List Char := (if atEnd then s.drop k else s.take k).takeWhile (· != gap)
  match cuts.find? fun k => isMatch p (part k) with
  | some k => if atEnd then s.take k else s.drop k
  | none => s

end HardenAudit.Shell.Pattern
