import HardenAudit.Shell.Pattern

/-!
# Patterns with groups

A pattern is read from a row of characters of which some stand for themselves only.  Besides any
character, any row of characters and sets, it may have groups of alternatives that occur at most once,
any number of times, once at least, once, or not at all.
-/

namespace HardenAudit.ExtendedShell.Pattern

/-- A character, and whether it stands for itself only. -/
abbrev Atom := Char × Bool

/-- A member of a set. -/
inductive Member where
  | range (first last : Char)
  | named (name : String)
  deriving Repr, Inhabited

/-- An item of a pattern. -/
inductive Item where
  | char (c : Char)
  | any
  | star
  | set (negated : Bool) (members : List Member)
  /-- A group, under the sign that stands before it. -/
  | group (sign : Char) (alternatives : List (List Item))
  deriving Inhabited

/-! ## Reading -/

/-- A class such as `[:alpha:]`, behind its first bracket: its name, and the rest. -/
def namedClass? : List Atom → Option (String × List Atom)
  | (':', _) :: rest =>
    let name := rest.takeWhile fun a => a.1 != ':'
    match rest.drop name.length with
    | (':', _) :: (']', _) :: rest => some (String.ofList (name.map (·.1)), rest)
    | _ => none
  | _ => none

/-- The members of a set up to its end, and the rest; none if it has no end.  Each round takes an atom,
so `limit` may be their number. -/
def members? : (limit : Nat) → (first : Bool) → List Atom → List Member → Option (List Member × List Atom)
  | 0, _, _, _ => none
  | _, _, [], _ => none
  | limit + 1, first, (a, literal) :: rest, found =>
    if a == ']' && !literal && !first then some (found.reverse, rest)
    else
      match if a == '[' && !literal then namedClass? rest else none with
      | some (name, rest) => members? limit false rest (.named name :: found)
      | none =>
        let (a, rest) := match a, literal, rest with
          | '\\', false, (b, _) :: more => (b, more)
          | _, _, _ => (a, rest)
        match rest with
        | ('-', false) :: (b, bl) :: more =>
          if b == ']' && !bl then members? limit false rest (.range a a :: found)
          else
            let (b, more) := match b, bl, more with
              | '\\', false, (c, _) :: more => (c, more)
              | _, _, _ => (b, more)
            members? limit false more (.range a b :: found)
        | _ => members? limit false rest (.range a a :: found)

/-- A set behind its bracket, and the rest. -/
def set? (p : List Atom) : Option (Item × List Atom) :=
  let (negated, p) := match p with
    | ('!', false) :: rest => (true, rest)
    | ('^', false) :: rest => (true, rest)
    | _ => (false, p)
  (members? (p.length + 1) true p []).map fun r => (.set negated r.1, r.2)

/-- The alternatives of a group behind its parenthesis, and the rest; none if it has no end.  Each round
takes an atom, so `limit` may be their number. -/
def alternatives? : (limit depth : Nat) → List Atom → (current : List Atom) → List (List Atom) →
    Option (List (List Atom) × List Atom)
  | 0, _, _, _, _ => none
  | _, _, [], _, _ => none
  | limit + 1, depth, a :: rest, current, found =>
    match a with
    | ('\\', false) =>
      match rest with
      | b :: rest => alternatives? limit depth rest (b :: a :: current) found
      | [] => none
    | ('(', false) => alternatives? limit (depth + 1) rest (a :: current) found
    | (')', false) =>
      if depth = 0 then some ((current.reverse :: found).reverse, rest)
      else alternatives? limit (depth - 1) rest (a :: current) found
    | ('|', false) =>
      if depth = 0 then alternatives? limit depth rest [] (current.reverse :: found)
      else alternatives? limit depth rest (a :: current) found
    | _ => alternatives? limit depth rest (a :: current) found

/-- Reads a pattern, in which groups may count.  Each round takes an atom, so `limit` may be their
number. -/
def read (groups : Bool) : (limit : Nat) → List Atom → List Item
  | 0, _ => []
  | _, [] => []
  | limit + 1, (c, literal) :: rest =>
    let group? : Option (List (List Atom) × List Atom) :=
      match literal, rest with
      | false, ('(', false) :: more =>
        if groups && "?*+@!".toList.contains c then alternatives? (more.length + 1) 0 more [] []
        else none
      | _, _ => none
    match group? with
    | some (alternatives, rest) =>
      .group c (alternatives.map (read groups limit)) :: read groups limit rest
    | none =>
      if literal then .char c :: read groups limit rest
      else
        match c with
        | '*' => .star :: read groups limit rest
        | '?' => .any :: read groups limit rest
        | '\\' =>
          match rest with
          | (d, _) :: rest => .char d :: read groups limit rest
          | [] => [.char '\\']
        | '[' =>
          match set? rest with
          | some (s, rest) => s :: read groups limit rest
          | none => .char '[' :: read groups limit rest
        | _ => .char c :: read groups limit rest

/-- The pattern that a row of atoms is. -/
def ofAtoms (groups : Bool) (p : List Atom) : List Item := read groups (p.length + 1) p

/-- The text that a pattern is, if it matches nothing else. -/
def literal? (p : List Item) : Option (List Char) :=
  p.mapM fun (i : Item) => match i with
    | .char c => some c
    | _ => none

/-- Can the pattern match more than one text? -/
def isActive (p : List Item) : Bool := (literal? p).isNone

/-! ## Matching -/

/-- How characters are compared. -/
structure Manner where
  /-- Do upper and lower case count as the same? -/
  folded : Bool := false
  deriving Repr, Inhabited

/-- Are two characters the same? -/
def sameChar (m : Manner) (a b : Char) : Bool := a == b || (m.folded && a.toLower == b.toLower)

/-- Is the character a member of a set? -/
def isMember (m : Manner) (c : Char) : Member → Bool
  | .range a b =>
    (a ≤ c && c ≤ b)
      || (m.folded && ((a ≤ c.toLower && c.toLower ≤ b) || (a ≤ c.toUpper && c.toUpper ≤ b)))
  | .named name => (Shell.Pattern.inClass? name c).getD false

/-- Does the pattern match all of the text?  Each step takes something off one of the two or goes into a
group, so `limit` may be any number that is large enough. -/
def matchesFrom (m : Manner) : (limit : Nat) → List Item → List Char → Bool
  | 0, _, _ => false
  | _, [], s => s.isEmpty
  | limit + 1, .char a :: rest, s =>
    match s with
    | c :: s => sameChar m a c && matchesFrom m limit rest s
    | [] => false
  | limit + 1, .any :: rest, s =>
    match s with
    | _ :: s => matchesFrom m limit rest s
    | [] => false
  | limit + 1, .set negated members :: rest, s =>
    match s with
    | c :: s => (members.any (isMember m c) != negated) && matchesFrom m limit rest s
    | [] => false
  | limit + 1, .star :: rest, s =>
    if rest.isEmpty then true
    else
      matchesFrom m limit rest s || (match s with
        | _ :: s => matchesFrom m limit (.star :: rest) s
        | [] => false)
  | limit + 1, .group sign alternatives :: rest, s =>
    let isOne (k : Nat) : Bool := alternatives.any fun a => matchesFrom m limit a (s.take k)
    let after (k : Nat) : Bool := matchesFrom m limit rest (s.drop k)
    let again (k : Nat) : Bool := matchesFrom m limit (.group '*' alternatives :: rest) (s.drop k)
    let lengths := List.range (s.length + 1)
    match sign with
    | '@' => lengths.any fun k => isOne k && after k
    | '?' => after 0 || lengths.any fun k => isOne k && after k
    | '*' => after 0 || (lengths.drop 1).any fun k => isOne k && again k
    | '+' => (isOne 0 && after 0) || (lengths.drop 1).any fun k => isOne k && again k
    | _ => lengths.any fun k => !isOne k && after k

/-- Steps that are more than enough for any match. -/
def stepLimit : Nat := 0x10000000

/-- Does the pattern match all of the text? -/
def isMatch (m : Manner) (p : List Item) (s : List Char) : Bool := matchesFrom m stepLimit p s

/-- The text without the part at its start or its end that matches a pattern; the part is as short or as
long as possible. -/
def trim (p : List Item) (atEnd longest : Bool) (s : List Char) : List Char :=
  let cuts := List.range (s.length + 1)
  let cuts := if atEnd == longest then cuts else cuts.reverse
  let part (k : Nat) : List Char := if atEnd then s.drop k else s.take k
  match cuts.find? fun k => isMatch {} p (part k) with
  | some k => if atEnd then s.take k else s.drop k
  | none => s

/-- How many characters of a text a pattern matches at its start, as many as possible. -/
def longestAt (m : Manner) (p : List Item) (s : List Char) : Option Nat :=
  match literal? p with
  | some cs =>
    if cs.length ≤ s.length && (cs.zip s).all fun e => sameChar m e.1 e.2 then some cs.length else none
  | none => (List.range (s.length + 1)).reverse.find? fun k => isMatch m p (s.take k)

/-- Replaces matches in a text, from left to right; `make` gives what takes the place of a match.  Each
round takes a character, so `limit` may be their number. -/
def replaceFrom (m : Manner) (p : List Item) (make : List Char → List Char) (all : Bool) :
    (limit : Nat) → List Char → List Char
  | 0, s => s
  | _, [] => []
  | limit + 1, c :: s =>
    match longestAt m p (c :: s) with
    | some (k + 1) =>
      let rest := (c :: s).drop (k + 1)
      make ((c :: s).take (k + 1)) ++ (if all then replaceFrom m p make all limit rest else rest)
    | _ => c :: replaceFrom m p make all limit s

end HardenAudit.ExtendedShell.Pattern
