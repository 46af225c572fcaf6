import HardenAudit.Shell.Number
import HardenAudit.Shell.Pattern

/-!
# Regular expressions

An expression is read in the basic or the extended notation.  A match is the first one in a text, and
the longest one from there; of several ways to match that, the one counts that takes alternatives in
order and repeats as often as possible.
-/

namespace HardenAudit.Program

/-- A set of characters. -/
structure CharSet where
  negated : Bool := false
  ranges : List (Char × Char) := []
  classes : List String := []
  deriving Repr, Inhabited

/-- Is the character in the set? -/
def CharSet.contains (s : CharSet) (c : Char) : Bool :=
  let found := (s.ranges.any fun r => r.1 ≤ c && c ≤ r.2)
    || s.classes.any fun name => (Shell.Pattern.inClass? name c).getD false
  found != s.negated

/-- A regular expression. -/
inductive Regex where
  | empty
  | one (set : CharSet)
  | cat (a b : Regex)
  | alt (a b : Regex)
  | times (a : Regex) (least : Nat) (most : Option Nat)
  | group (number : Nat) (a : Regex)
  | back (number : Nat)
  | start
  | finish
  | wordStart
  | wordEnd
  | wordEdge (wanted : Bool)
  /-- Repetitions of which as few as possible are preferred. -/
  | lazily (a : Regex) (least : Nat) (most : Option Nat)
  /-- Something stands here, or does not, that takes nothing off the text. -/
  | look (ahead wanted : Bool) (a : Regex)
  /-- Only the preferred way to match counts. -/
  | once (a : Regex)
  /-- The match is said to start here. -/
  | keep
  /-- An expression for which small and capital letters are the same, or are not. -/
  | folded (on : Bool) (a : Regex)
  deriving Repr, Inhabited

namespace Regex

/-! ## Matching -/

/-- A text in which an expression is looked for. -/
structure Subject where
  chars : Array Char
  ignoreCase : Bool := false
  /-- Do lines inside the text have a start and an end? -/
  multiline : Bool := false
  deriving Inhabited

/-- A place in the text, and what the groups have matched. -/
structure Place where
  at_ : Nat
  groups : List (Nat × Nat × Nat) := []
  deriving BEq, Repr, Inhabited

namespace Subject

/-- Is the character at a place part of a word? -/
def isWordAt (t : Subject) (i : Nat) : Bool :=
  match t.chars[i]? with
  | some c => c.isAlphanum || c == '_'
  | none => false

/-- Is the character before a place part of a word? -/
def isWordBefore (t : Subject) (i : Nat) : Bool := i > 0 && t.isWordAt (i - 1)

/-- Do two characters count as the same? -/
def same (t : Subject) (a b : Char) : Bool :=
  a == b || (t.ignoreCase && a.toLower == b.toLower)

/-- Is a character in a set? -/
def belongs (t : Subject) (s : CharSet) (c : Char) : Bool :=
  if t.ignoreCase then
    let plain := { s with negated := false }
    (plain.contains c || plain.contains c.toLower || plain.contains c.toUpper) != s.negated
  else s.contains c

/-- The characters between two places. -/
def slice (t : Subject) (a b : Nat) : List Char := (t.chars.extract a b).toList

end Subject

/-- Does each place stand before the one in front of it? -/
def descends : List Place → Bool
  | p :: q :: rest => q.at_ < p.at_ && descends (q :: rest)
  | _ => true

/-- Places without those that were there before; what the groups matched counts if groups are referred
to. -/
def distinct (exact : Bool) (places : List Place) : List Place :=
  if descends places then places
  else
    (places.foldl (fun found p =>
      if found.any fun q => q.at_ == p.at_ && (!exact || q == p) then found else p :: found) []).reverse

/-- All places that repetitions reach, the farthest first, or the nearest first if `lazy` is asked for;
`limit` bounds the repetitions, and places that were reached before are left out. -/
def explore (exact lazy : Bool) (f : Place → List Place) : (limit : Nat) → Place →
    List Place × List Place → List Place × List Place
  | 0, p, (seen, found) => (seen, p :: found)
  | limit + 1, p, (seen, found) =>
    if seen.any fun q => q.at_ == p.at_ && (!exact || q == p) then (seen, found)
    else
      let found := if lazy then p :: found else found
      let (seen, found) :=
        (f p).foldl (fun acc q => explore exact lazy f limit q acc) (p :: seen, found)
      (seen, if lazy then found else p :: found)

/-- Places after so many repetitions. -/
def exactly (exact : Bool) (f : Place → List Place) : Nat → Place → List Place
  | 0, p => [p]
  | n + 1, p => distinct exact ((f p).flatMap (exactly exact f n))

/-- Places after so many repetitions at most, in the order of preference. -/
def atMost (exact lazy : Bool) (f : Place → List Place) : Nat → Place → List Place
  | 0, p => [p]
  | n + 1, p =>
    let further := ((f p).filter fun q => q.at_ != p.at_).flatMap (atMost exact lazy f n)
    distinct exact (if lazy then p :: further else further ++ [p])

/-- Places after repetitions. -/
def repeated (exact lazy : Bool) (size : Nat) (f : Place → List Place) (least : Nat)
    (most : Option Nat) (p : Place) : List Place :=
  let first := exactly exact f least p
  match most with
  | none => distinct exact (first.flatMap fun q => (explore exact lazy f size q ([], [])).2.reverse)
  | some n => distinct exact (first.flatMap (atMost exact lazy f (n - least)))

/-- How many characters from a place on are in a set, so many at most. -/
def runLength (t : Subject) (s : CharSet) : (most : Nat) → Nat → Nat
  | 0, _ => 0
  | most + 1, i =>
    match t.chars[i]? with
    | some c => if t.belongs s c then runLength t s most (i + 1) + 1 else 0
    | none => 0

/-- The set of an expression for one character, which may be a group by itself only. -/
def single? : Regex → Option CharSet
  | .one s => some s
  | _ => none

/-- All places that an expression reaches from a place, in the order of preference. -/
def reach (exact : Bool) : Regex → Subject → Place → List Place
  | .empty, _, p => [p]
  | .one s, t, p =>
    match t.chars[p.at_]? with
    | some c => if t.belongs s c then [{ p with at_ := p.at_ + 1 }] else []
    | none => []
  | .cat a b, t, p => distinct exact ((reach exact a t p).flatMap (reach exact b t))
  | .alt a b, t, p => distinct exact (reach exact a t p ++ reach exact b t p)
  | .group n a, t, p =>
    (reach exact a t p).map fun q =>
      { q with groups := (n, p.at_, q.at_) :: q.groups.filter (·.1 != n) }
  | .back n, t, p =>
    match p.groups.lookup n with
    | none => []
    | some (a, b) =>
      let wanted := t.slice a b
      let found := t.slice p.at_ (p.at_ + wanted.length)
      if found.length == wanted.length && (found.zip wanted).all fun (x, y) => t.same x y then
        [{ p with at_ := p.at_ + wanted.length }]
      else []
  | .times a least most, t, p =>
    match single? a with
    | some s =>
      let size := t.chars.size - p.at_
      let n := runLength t s (match most with
        | some m => min m size
        | none => size) p.at_
      (List.range (n + 1 - least)).map fun k => { p with at_ := p.at_ + n - k }
    | none => repeated exact false (t.chars.size + 2) (reach exact a t) least most p
  | .lazily a least most, t, p =>
    repeated exact true (t.chars.size + 2) (reach exact a t) least most p
  | .start, t, p =>
    if p.at_ = 0 || (t.multiline && t.chars[p.at_ - 1]? == some '\n') then [p] else []
  | .finish, t, p =>
    if p.at_ = t.chars.size || (t.multiline && t.chars[p.at_]? == some '\n') then [p] else []
  | .wordStart, t, p => if !t.isWordBefore p.at_ && t.isWordAt p.at_ then [p] else []
  | .wordEnd, t, p => if t.isWordBefore p.at_ && !t.isWordAt p.at_ then [p] else []
  | .wordEdge wanted, t, p =>
    if (t.isWordBefore p.at_ != t.isWordAt p.at_) == wanted then [p] else []
  | .look ahead wanted a, t, p =>
    let found :=
      if ahead then (reach exact a t p).head?
      else
        ((List.range (p.at_ + 1)).findSome? fun k =>
          (reach exact a t { p with at_ := p.at_ - k }).find? (·.at_ == p.at_))
    match found with
    | some q => if wanted then [{ q with at_ := p.at_ }] else []
    | none => if wanted then [] else [p]
  | .once a, t, p => (reach exact a t p).take 1
  | .keep, _, p => [{ p with groups := (0, p.at_, p.at_) :: p.groups.filter (·.1 != 0) }]
  | .folded on a, t, p => reach exact a { t with ignoreCase := on } p

/-- Does the expression refer to groups? -/
def refers : Regex → Bool
  | .back _ | .keep => true
  | .cat a b | .alt a b => refers a || refers b
  | .times a _ _ | .lazily a _ _ | .group _ a | .look _ _ a | .once a | .folded _ a => refers a
  | _ => false

/-- A match: where it starts and ends, and what the groups have matched. -/
structure Match where
  start : Nat
  finish : Nat
  groups : List (Nat × Nat × Nat)
  deriving Repr, Inhabited

/-- The match that starts at a place and passes a test: the longest one, or the preferred one. -/
def matchAt? (r : Regex) (t : Subject) (test : Nat → Nat → Bool) (longest : Bool) (i : Nat) :
    Option Match :=
  let ends := (reach r.refers r t { at_ := i }).filter fun p => test i p.at_
  let best :=
    if longest then
      ends.foldl (fun (best : Option Place) p =>
        match best with
        | some b => if p.at_ > b.at_ then some p else best
        | none => some p) none
    else ends.head?
  best.map fun p =>
    let start := match p.groups.lookup 0 with
      | some (a, _) => a
      | none => i
    ⟨start, p.at_, p.groups⟩

/-- The first match from a place on that passes a test. -/
def search? (r : Regex) (t : Subject) (test : Nat → Nat → Bool) (i : Nat) (longest : Bool := true) :
    Option Match :=
  ((List.range (t.chars.size + 1 - i)).map (· + i)).findSome? (matchAt? r t test longest)

/-! ## Reading -/

/-- How expressions are written. -/
structure Dialect where
  /-- Do parentheses, braces and bars have a meaning without a backslash? -/
  extended : Bool
  /-- Is a repetition of nothing refused? -/
  strict : Bool := false
  /-- Is a repetition of a repetition refused in the basic notation? -/
  single : Bool := false
  /-- Is a closing parenthesis refused that closes nothing? -/
  balanced : Bool := false
  /-- Do plus signs and question marks alone have a meaning without a backslash, and braces none? -/
  editor : Bool := false
  deriving Repr, Inhabited

/-- Reading under way: the characters that are left, and the groups so far. -/
structure Source where
  rest : List Char
  groups : Nat := 0
  closed : List Nat := []
  depth : Nat := 0

/-- Reading an expression, which may fail with a message. -/
abbrev Reader := StateT Source (Except String)

/-- The expression for one character. -/
def literal (c : Char) : Regex := .one { ranges := [(c, c)] }

/-- The set of the characters of words. -/
def wordSet (negated : Bool) : Regex :=
  .one { negated := negated, ranges := [('_', '_')], classes := ["alnum"] }

/-- The set of blanks. -/
def spaceSet (negated : Bool) : Regex := .one { negated := negated, classes := ["space"] }

/-- The end of a named part of a set, behind its second bracket. -/
def namedPart (mark : Char) (cs : List Char) : Option (String × List Char) :=
  let name := cs.takeWhile (· != mark)
  match cs.drop name.length with
  | _ :: ']' :: rest => some (String.ofList name, rest)
  | _ => none

/-- The message about a set without an end. -/
def unmatchedBracket : String := "Unmatched [, [^, [:, [., or [="

/-- The members of a set up to its end; `limit` may be the number of characters. -/
def setMembers : (limit : Nat) → (first : Bool) → CharSet → List Char →
    Except String (CharSet × List Char)
  | 0, _, _, _ => .error unmatchedBracket
  | _, _, _, [] => .error unmatchedBracket
  | limit + 1, first, s, c :: cs =>
    if c == ']' && !first then .ok (s, cs)
    else
      let single (a : Char) (rest : List Char) : Except String (CharSet × List Char) :=
        match rest with
        | '-' :: b :: more =>
          if b == ']' then setMembers limit false { s with ranges := (a, a) :: s.ranges } rest
          else
            let (b, more) := match b, more with
              | '[', '.' :: tail =>
                match namedPart '.' tail with
                | some (name, tail) => (name.toList.head?.getD b, tail)
                | none => (b, more)
              | _, _ => (b, more)
            if b == '[' && more.head? == some ':' then .error "Invalid range end"
            else if a ≤ b then setMembers limit false { s with ranges := (a, b) :: s.ranges } more
            else .error "Invalid range end"
        | _ => setMembers limit false { s with ranges := (a, a) :: s.ranges } rest
      if c == '-' && !first && cs.head?.any (· != ']') then .error "Invalid range end"
      else
      match c, cs with
      | '[', ':' :: more =>
        match namedPart ':' more with
        | some (name, rest) =>
          if (Shell.Pattern.inClass? name 'a').isSome then
            match rest with
            | '-' :: d :: _ =>
              if d == ']' then setMembers limit false { s with classes := name :: s.classes } rest
              else .error "Invalid range end"
            | _ => setMembers limit false { s with classes := name :: s.classes } rest
          else .error "Invalid character class name"
        | none => .error unmatchedBracket
      | '[', '=' :: more =>
        match namedPart '=' more with
        | some (name, rest) => single (name.toList.head?.getD '=') rest
        | none => .error unmatchedBracket
      | '[', '.' :: more =>
        match namedPart '.' more with
        | some (name, rest) =>
          if name.length > 1 then .error "Invalid collation character"
          else single (name.toList.head?.getD '.') rest
        | none => .error unmatchedBracket
      | c, cs => single c cs

/-- Is it a name up to a colon and the end of a set, so that the set looks like a class? -/
def isNameSet (cs : List Char) : Bool :=
  let inner := cs.takeWhile (· != ']')
  inner.getLast? == some ':' && cs.length > inner.length

/-- A set behind its bracket. -/
def bracket : Reader Regex := do
  let s ← get
  let (negated, cs) := match s.rest with
    | '^' :: cs => (true, cs)
    | cs => (false, cs)
  if cs.isEmpty then throw "Invalid regular expression"
  if s.rest.head? == some ':' && isNameSet (s.rest.drop 1) then
    throw "character class syntax is [[:space:]], not [:space:]"
  let (set_, rest) ← match setMembers (cs.length + 1) true { negated := negated } cs with
    | .ok r => pure r
    | .error e => throw e
  set { s with rest := rest }
  pure (.one set_)

/-- The bounds of a repetition behind its brace: least, most, and the rest; none if it is no bounds. -/
def bounds? (extended : Bool) (cs : List Char) : Option (Nat × Option Nat × List Char) :=
  let a := cs.takeWhile Char.isDigit
  let number (ds : List Char) : Nat := (Shell.digits 10 ds 0 0).1
  let close (cs : List Char) : Option (List Char) := match cs with
    | '\x7d' :: rest => if extended then some rest else none
    | '\\' :: '\x7d' :: rest => if extended then none else some rest
    | _ => none
  match cs.drop a.length with
  | ',' :: more =>
    let b := more.takeWhile Char.isDigit
    (close (more.drop b.length)).map fun rest =>
      (number a, if b.isEmpty then none else some (number b), rest)
  | more => if a.isEmpty then none else (close more).map fun rest => (number a, some (number a), rest)

/-- The message about a repetition of nothing. -/
def nothingBefore : String := "Invalid preceding regular expression"

/-- What is wrong with the bounds of a repetition. -/
def boundsTrouble (extended : Bool) (cs : List Char) : String :=
  let number (cs : List Char) : List Char × List Char :=
    let rec go : List Char → List Char → List Char × List Char
      | [], found => (found.reverse, [])
      | '\x7d' :: rest, found =>
        if extended then (found.reverse, '\x7d' :: rest) else go rest ('\x7d' :: found)
      | '\\' :: '\x7d' :: rest, found => (found.reverse, '\x7d' :: rest)
      | ',' :: rest, found => (found.reverse, ',' :: rest)
      | c :: rest, found => go rest (c :: found)
    go cs []
  let unclosed := "Unmatched \\\x7b"
  let wrong := "Invalid content of \\\x7b\\\x7d"
  let (first, rest) := number cs
  if rest.isEmpty then unclosed
  else if first.all Char.isDigit && rest.head? == some ',' then
    if (number (rest.drop 1)).2.isEmpty then unclosed else wrong
  else wrong

/-- Are these bounds with too many parts, which are refused in any case? -/
def isCrowded (cs : List Char) : Bool :=
  let rest := cs.dropWhile Char.isDigit
  rest.head? == some ',' && ((rest.drop 1).dropWhile Char.isDigit).head? == some ','

/-- The repetitions behind a part; each takes a character, so `limit` may be their number. -/
def repetitions (d : Dialect) : (limit : Nat) → Regex → Reader Regex
  | 0, r => pure r
  | limit + 1, r => do
    let s ← get
    let go (rest : List Char) (least : Nat) (most : Option Nat) : Reader Regex := do
      if most.any (· < least) then throw "Invalid content of \\\x7b\\\x7d"
      if least > 32767 || most.any (· > 32767) then throw "Regular expression too big"
      if d.single && (rest.head? == some '*' || rest.take 2 == ['\\', '\x7b']) then throw nothingBefore
      set { s with rest := rest }
      repetitions d limit (.times r least most)
    match s.rest with
    | '*' :: rest => go rest 0 none
    | '+' :: rest => if d.extended || d.editor then go rest 1 none else pure r
    | '?' :: rest => if d.extended || d.editor then go rest 0 (some 1) else pure r
    | '\x7b' :: rest =>
      if d.extended then
        match bounds? true rest with
        | some (least, most, rest) => go rest least most
        | none => if d.strict || isCrowded rest then throw (boundsTrouble true rest) else pure r
      else pure r
    | '\\' :: c :: rest =>
      if d.extended || d.editor then pure r
      else if c == '+' then go rest 1 none
      else if c == '?' then go rest 0 (some 1)
      else if c == '\x7b' then
        match bounds? false rest with
        | some (least, most, rest) => go rest least most
        | none => throw (boundsTrouble false rest)
      else pure r
    | _ => pure r

/-- Does a part of an expression end here? -/
def endsHere (d : Dialect) (depth : Nat) : List Char → Bool
  | [] => true
  | '|' :: _ => d.extended
  | ')' :: _ => d.extended && (depth > 0 || d.balanced)
  | '\\' :: c :: _ => !d.extended && (c == '|' || c == ')')
  | _ => false

/-- Escapes that mean the same in both notations. -/
def commonEscape? (c : Char) : Option Regex :=
  match c with
  | 'w' => some (wordSet false)
  | 'W' => some (wordSet true)
  | 's' => some (spaceSet false)
  | 'S' => some (spaceSet true)
  | 'b' => some (.wordEdge true)
  | 'B' => some (.wordEdge false)
  | '<' => some .wordStart
  | '>' => some .wordEnd
  | '\x60' => some .start
  | '\x27' => some .finish
  | 'n' => some (literal '\n')
  | 't' => some (literal '\t')
  | _ => none

/-- One part of an expression, without its repetitions; `alternatives` reads what is in a group, `first`
tells whether the part is the first one, and `anchored` whether it stands behind an anchor. -/
def part (d : Dialect) (alternatives : Reader Regex) (first anchored : Bool) : Reader Regex := do
  let extended := d.extended
  let s ← get
  let take (rest : List Char) (r : Regex) : Reader Regex := do
    set { s with rest := rest }
    pure r
  let group (rest : List Char) : Reader Regex := do
    let number := s.groups + 1
    set { s with rest := rest, groups := number, depth := s.depth + 1 }
    let body ← alternatives
    let inner ← get
    let after := match inner.rest with
      | ')' :: rest => if extended then some rest else none
      | '\\' :: ')' :: rest => if extended then none else some rest
      | _ => none
    match after with
    | some rest =>
      set { inner with rest := rest, depth := s.depth, closed := number :: inner.closed }
      pure (.group number body)
    | none => throw "Unmatched ( or \\("
  match s.rest with
  | [] => pure .empty
  | '.' :: rest => take rest (.one { negated := true, ranges := [(Char.ofNat 0, Char.ofNat 0)] })
  | '[' :: rest =>
    set { s with rest := rest }
    bracket
  | '^' :: rest => if extended || first then take rest .start else take rest (literal '^')
  | '$' :: rest =>
    if extended || endsHere d s.depth rest then take rest .finish else take rest (literal '$')
  | '\\' :: [] => throw "Trailing backslash"
  | '\\' :: c :: rest =>
    match commonEscape? c with
    | some r => take rest r
    | none =>
      if c.isDigit && c != '0' then
        let n := c.toNat - 48
        if s.closed.contains n then take rest (.back n) else throw "Invalid back reference"
      else if !extended && c == '(' then group rest
      else if !extended && c == ')' then throw "Unmatched ) or \\)"
      else if !extended && !d.editor && c == '\x7b' && (d.single || !(first || anchored)) then
        throw nothingBefore
      else take rest (literal c)
  | '(' :: rest => if extended then group rest else take rest (literal '(')
  | c :: rest =>
    let repeats := c == '*' || c == '+' || c == '?'
    if extended && (first || anchored) && d.strict && (repeats || c == '\x7b') then throw nothingBefore
    else if extended && (first || anchored) && repeats then take rest .empty
    else if extended && (first || anchored) && c == '\x7b' then
      match bounds? true rest with
      | some (_, _, rest) => take rest .empty
      | none => take rest (literal c)
    else take rest (literal c)

/-- A row of parts; each takes a character, so `limit` may be their number. -/
def parts (d : Dialect) (alternatives : Reader Regex) : (limit : Nat) → (first anchored : Bool) →
    Reader Regex
  | 0, _, _ => pure .empty
  | limit + 1, first, anchored => do
    let s ← get
    if endsHere d s.depth s.rest && !(s.rest.take 2 == ['\\', ')'] && s.depth == 0) then
      pure .empty
    else
      let size := s.rest.length
      let isStar := !d.extended && (first || anchored) && s.rest.head? == some '*'
      let a ← part d alternatives first anchored
      let anchored := match a with
        | .start => d.strict || !d.extended
        | .finish | .wordStart | .wordEnd | .wordEdge _ => d.strict && d.extended
        | _ => false
      let next ← get
      -- a star behind an anchor stands for itself
      let a ← if anchored || (isStar && next.rest.head? != some '*') then pure a
        else repetitions d size a
      let b ← parts d alternatives limit false anchored
      pure (match b with
        | .empty => a
        | b => .cat a b)

/-- Alternatives; `limit` bounds how deep groups are nested and how many alternatives there are. -/
def alternatives (d : Dialect) : (limit : Nat) → Reader Regex
  | 0 => pure .empty
  | limit + 1 => do
    let s ← get
    let a ← parts d (alternatives d limit) (s.rest.length + 1) true false
    let s ← get
    match s.rest with
    | '|' :: rest =>
      if d.extended then
        set { s with rest := rest }
        let b ← alternatives d limit
        pure (.alt a b)
      else pure a
    | '\\' :: '|' :: rest =>
      if d.extended then pure a
      else
        set { s with rest := rest }
        let b ← alternatives d limit
        pure (.alt a b)
    | _ => pure a

/-- Reads an expression. -/
def ofText (d : Dialect) (text : String) : Except String Regex := do
  let (r, s) ← (alternatives d (text.length + 1)).run { rest := text.toList }
  if s.rest.isEmpty then pure r else throw "Unmatched ) or \\)"

/-- The expression for a text that stands for itself. -/
def ofLiteral (text : String) : Regex :=
  text.toList.foldr (fun c r => match r with
    | .empty => literal c
    | r => .cat (literal c) r) .empty

/-- Groups of an expression. -/
def groupCount : Regex → Nat
  | .group n a => max n (groupCount a)
  | .cat a b | .alt a b => max (groupCount a) (groupCount b)
  | .times a _ _ | .lazily a _ _ | .look _ _ a | .once a | .folded _ a => groupCount a
  | _ => 0

end Regex
end HardenAudit.Program
