import HardenAudit.Program.Regex

/-!
# A richer notation for regular expressions

Beside what the extended notation has, there are repetitions that prefer few rounds or do not go
back, conditions on what stands before or behind a place, named groups, and escapes for sets.  Of
several matches from one place the preferred one counts, not the longest.
-/

namespace HardenAudit.Program.RichRegex

open Regex (literal)

/-- What marks inside of an expression switch on and off. -/
structure Flags where
  /-- Are small and capital letters the same?  None if nothing was said. -/
  fold : Option Bool := none
  /-- Does a dot match the end of a line? -/
  dotAll : Bool := false
  /-- Are blanks passed over? -/
  spaced : Bool := false
  deriving Repr, Inhabited

/-- A group that is referred to. -/
inductive Reference where
  | number (n : Nat)
  | name (text : String)
  deriving Repr, Inhabited

/-- Reading under way. -/
structure Source where
  rest : List Char
  groups : Nat := 0
  names : List (String × Nat) := []
  references : List Reference := []
  flags : Flags := {}
  deriving Inhabited

/-- Reading an expression, which may fail with a message. -/
abbrev Reader := StateT Source (Except String)

/-- All characters that pass a test, as a set. -/
def setWhere (test : Char → Bool) : CharSet :=
  { ranges := ((List.range 256).map Char.ofNat |>.filter test).map fun c => (c, c) }

/-- Is a character in a class with a name? -/
def inClass (name : String) (c : Char) : Bool := (Shell.Pattern.inClass? name c).getD false

/-- The test that an escape for a set stands for. -/
def escapedClass? (c : Char) : Option (Char → Bool) :=
  let isWord (x : Char) : Bool := x.isAlphanum || x == '_'
  let isBlank (x : Char) : Bool := x == ' ' || x == '\t' || x.toNat == 0xA0
  let isVertical (x : Char) : Bool := (0x0A ≤ x.toNat && x.toNat ≤ 0x0D) || x.toNat == 0x85
  match c with
  | 'd' => some Char.isDigit
  | 'D' => some (!Char.isDigit ·)
  | 'w' => some isWord
  | 'W' => some (!isWord ·)
  | 's' => some (inClass "space")
  | 'S' => some (!inClass "space" ·)
  | 'h' => some isBlank
  | 'H' => some (!isBlank ·)
  | 'v' => some isVertical
  | 'V' => some (!isVertical ·)
  | 'N' => some (· != '\n')
  | _ => none

/-- The test that a property with a name stands for. -/
def property? (name : String) : Option (Char → Bool) :=
  match name with
  | "L" => some Char.isAlpha
  | "Lu" => some Char.isUpper
  | "Ll" => some Char.isLower
  | "N" | "Nd" => some Char.isDigit
  | "P" => some fun c => inClass "punct" c && !"$+<=>^\x60|~".toList.contains c
  | "S" => some fun c => "$+<=>^\x60|~".toList.contains c
  | "Z" | "Zs" => some (· == ' ')
  | "Any" => some fun _ => true
  | _ => none

/-- A number of digits in a base, at most so many. -/
def digitsOf (base most : Nat) (cs : List Char) : List Char × List Char :=
  let value (c : Char) : Nat :=
    if c.isDigit then c.toNat - 48
    else if c.isAlpha then c.toLower.toNat - 87 else 99
  let ds := (cs.take most).takeWhile (value · < base)
  (ds, cs.drop ds.length)

/-- The value of digits in a base. -/
def valueOf (base : Nat) (ds : List Char) : Nat := (Shell.digits base ds 0 0).1

/-- The character with a code, if there is one. -/
def coded (n : Nat) : Except String Char :=
  if n < 256 then .ok (Char.ofNat n)
  else .error "character code point value in \\x\x7b\x7d or \\o\x7b\x7d is too large"

/-- The character that an escape stands for, from the letter behind the backslash on, and the rest;
none if the escape means something else. -/
def escapedChar (c : Char) (rest : List Char) : Except String (Option (Char × List Char)) :=
  let simple (x : Nat) : Except String (Option (Char × List Char)) := .ok (some (Char.ofNat x, rest))
  let braced (base : Nat) (cs : List Char) : Except String (Option (Char × List Char)) :=
    let ds := cs.takeWhile (· != '\x7d')
    (coded (valueOf base ds)).map fun x => some (x, cs.drop (ds.length + 1))
  match c with
  | 't' => simple 9
  | 'n' => simple 10
  | 'r' => simple 13
  | 'f' => simple 12
  | 'e' => simple 27
  | 'a' => simple 7
  | 'x' =>
    match rest with
    | '\x7b' :: cs => braced 16 cs
    | _ =>
      let (ds, rest) := digitsOf 16 2 rest
      .ok (some (Char.ofNat (valueOf 16 ds), rest))
  | 'o' =>
    match rest with
    | '\x7b' :: cs => braced 8 cs
    | _ => .error "missing opening brace after \\o"
  | '0' =>
    let (ds, rest) := digitsOf 8 2 rest
    .ok (some (Char.ofNat (valueOf 8 ds), rest))
  | 'c' =>
    match rest with
    | [] => .error "\\c at end of pattern"
    | x :: rest => .ok (some (Char.ofNat (x.toUpper.toNat ^^^ 64), rest))
  | c =>
    if c == 'u' || c == 'U' || c == 'l' || c == 'L' || c == 'F' then
      .error "PCRE2 does not support \\F, \\L, \\l, \\N\x7bname\x7d, \\U, or \\u"
    else if c.isAlphanum then .ok none
    else .ok (some (c, rest))

/-! ## Sets -/

/-- The message about a set without an end. -/
def unclosedSet : String := "missing terminating ] for character class"

/-- One member of a set: a character, or a test. -/
inductive Member where
  | char (c : Char)
  | class (test : Char → Bool)

/-- The name of a class in brackets and a colon, if there is one here, and the rest. -/
def posixClass? (cs : List Char) : Option (String × List Char) :=
  match cs with
  | '[' :: ':' :: more =>
    let name := more.takeWhile fun c => c.isAlpha || c == '^'
    match more.drop name.length with
    | ':' :: ']' :: rest => some (String.ofList name, rest)
    | _ => none
  | _ => none

/-- The first member of what is left of a set. -/
def member (cs : List Char) : Except String (Member × List Char) :=
  match posixClass? cs with
  | some (name, rest) =>
    let (negated, plain) := match name.toList with
      | '^' :: plain => (true, String.ofList plain)
      | _ => (false, name)
    if plain == "word" then
      .ok (.class fun c => (c.isAlphanum || c == '_') != negated, rest)
    else if (Shell.Pattern.inClass? plain 'a').isSome then
      .ok (.class fun c => inClass plain c != negated, rest)
    else .error "unknown POSIX class name"
  | none =>
    match cs with
    | [] => .error unclosedSet
    | ['\\'] => .error "\\ at end of pattern"
    | '\\' :: c :: rest =>
      match if c == 'N' then none else escapedClass? c with
      | some test => .ok (.class test, rest)
      | none =>
        if c == 'b' then .ok (.char (Char.ofNat 8), rest)
        else if c.isDigit && c.toNat < 56 then
          let (ds, rest) := digitsOf 8 3 (c :: rest)
          .ok (.char (Char.ofNat (valueOf 8 ds)), rest)
        else
          match escapedChar c rest with
          | .error e => .error e
          | .ok (some (x, rest)) => .ok (.char x, rest)
          | .ok none =>
            .error (if c == 'B' || c == 'R' || c == 'X' then
              "escape sequence is invalid in character class"
              else "unrecognized character follows \\")
    | c :: rest => .ok (.char c, rest)

/-- The members of a set up to its end; each takes a character, so `limit` may be their number. -/
def members : (limit : Nat) → (first : Bool) → CharSet → List Char → Except String (CharSet × List Char)
  | 0, _, _, _ => .error unclosedSet
  | limit + 1, first, s, cs =>
    match cs with
    | [] => .error unclosedSet
    | c :: rest =>
      if c == ']' && !first then .ok (s, rest)
      else do
        let (a, rest) ← member cs
        match rest with
        | '-' :: d :: more =>
          if d == ']' then
            match a with
            | .char x => members limit false { s with ranges := (x, x) :: s.ranges } rest
            | .class test => members limit false { s with ranges := (setWhere test).ranges ++ s.ranges } rest
          else
            match a with
            | .class _ => .error "invalid range in character class"
            | .char x =>
              let (b, more) ← member (d :: more)
              match b with
              | .class _ => .error "invalid range in character class"
              | .char y =>
                if y < x then .error "range out of order in character class"
                else members limit false { s with ranges := (x, y) :: s.ranges } more
        | _ =>
          match a with
          | .char x => members limit false { s with ranges := (x, x) :: s.ranges } rest
          | .class test => members limit false { s with ranges := (setWhere test).ranges ++ s.ranges } rest

/-- A set behind its bracket. -/
def bracket (cs : List Char) : Except String (Regex × List Char) := do
  let (negated, cs) := match cs with
    | '^' :: cs => (true, cs)
    | cs => (false, cs)
  let (set_, rest) ← members (cs.length + 1) true { negated := negated } cs
  .ok (.one set_, rest)

/-! ## Parts -/

/-- How many characters an expression takes, if that is always the same. -/
def width? : Regex → Option Nat
  | .one _ => some 1
  | .cat a b => (width? a).bind fun n => (width? b).map (n + ·)
  | .alt a b => if width? a == width? b then width? a else none
  | .times a least most | .lazily a least most =>
    if most == some least then (width? a).map (· * least) else none
  | .group _ a | .once a | .folded _ a => width? a
  | .back _ => none
  | _ => some 0

/-- Has each of the alternatives a width of its own? -/
def hasWidths : Regex → Bool
  | .alt a b => hasWidths a && hasWidths b
  | a => (width? a).isSome

/-- The bounds of a repetition behind its brace. -/
def bounds? (cs : List Char) : Option (Nat × Option Nat × List Char) :=
  match cs with
  | c :: _ => if c.isDigit then Regex.bounds? true cs else none
  | [] => none

/-- The bounds of a repetition, if one stands here. -/
def quantifier? : List Char → Except String (Option (Nat × Option Nat × List Char))
  | '*' :: rest => .ok (some (0, none, rest))
  | '+' :: rest => .ok (some (1, none, rest))
  | '?' :: rest => .ok (some (0, some 1, rest))
  | '\x7b' :: rest =>
    match bounds? rest with
    | some (least, most, rest) =>
      if least > 65535 || most.any (· > 65535) then .error "number too big in \x7b\x7d quantifier"
      else if most.any (· < least) then .error "numbers out of order in \x7b\x7d quantifier"
      else .ok (some (least, most, rest))
    | none => .ok none
  | _ => .ok none

/-- The message about a repetition of nothing. -/
def notRepeatable : String := "quantifier does not follow a repeatable item"

/-- A part with the repetition behind it. -/
def quantified (repeatable : Bool) (r : Regex) : Reader Regex := do
  let s ← get
  match ← (quantifier? s.rest : Except String _) with
  | none => pure r
  | some (least, most, rest) =>
    if !repeatable then throw notRepeatable
    let (r, rest) := match rest with
      | '?' :: rest => (Regex.lazily r least most, rest)
      | '+' :: rest => (Regex.once (.times r least most), rest)
      | rest => (Regex.times r least most, rest)
    set { s with rest := rest }
    match ← (quantifier? rest : Except String _) with
    | some _ => throw notRepeatable
    | none => pure r

/-- An expression under the flags that hold here. -/
def flagged (r : Regex) : Reader Regex := do
  match (← get).flags.fold with
  | some on => pure (.folded on r)
  | none => pure r

/-- A group that is referred to. -/
def referTo (r : Reference) : Reader Unit := modify fun s => { s with references := r :: s.references }

/-- A back reference. -/
def back (r : Reference) : Reader Regex := do
  referTo r
  match r with
  | .number n => flagged (.back n)
  | .name text => flagged (.back (((← get).names.lookup text).getD 0))

/-- A name up to its end. -/
def nameUpTo (stop : Char) : Reader String := do
  let s ← get
  let name := s.rest.takeWhile Shell.isNameChar
  if name.head?.any Char.isDigit then throw "subpattern name must start with a non-digit"
  if name.isEmpty then throw "subpattern name expected"
  match s.rest.drop name.length with
  | c :: rest =>
    if c != stop then throw "syntax error in subpattern name (missing terminator?)"
    set { s with rest := rest }
    pure (String.ofList name)
  | [] => throw "syntax error in subpattern name (missing terminator?)"

/-- A reference behind the letter `g`. -/
def groupReference : Reader Regex := do
  let s ← get
  let (inner, rest) := match s.rest with
    | '\x7b' :: cs =>
      let inner := cs.takeWhile (· != '\x7d')
      (inner, cs.drop (inner.length + 1))
    | cs =>
      let inner := cs.takeWhile fun c => c.isDigit || c == '-'
      (inner, cs.drop inner.length)
  set { s with rest := rest }
  match inner with
  | '-' :: ds => back (.number (s.groups + 1 - valueOf 10 ds))
  | c :: _ =>
    if c.isDigit then back (.number (valueOf 10 inner)) else back (.name (String.ofList inner))
  | [] => throw "a numbered reference must not be zero"

/-- What stands behind a backslash; also says whether it can be repeated. -/
def escape (c : Char) (rest : List Char) : Reader (Regex × Bool) := do
  let s ← get
  let go (r : Regex) (repeatable : Bool) : Reader (Regex × Bool) := do
    set { s with rest := rest }
    pure (r, repeatable)
  match c with
  | 'b' => go (.wordEdge true) false
  | 'B' => go (.wordEdge false) false
  | 'A' | 'G' => go .start false
  | 'Z' | 'z' => go .finish false
  | 'K' => go .keep false
  | 'R' =>
    go (.once (.alt (.cat (literal '\r') (literal '\n'))
      (.one (setWhere ((escapedClass? 'v').getD fun _ => false))))) true
  | 'X' | 'C' => go (.one (setWhere fun _ => true)) true
  | 'Q' =>
    let body := (String.ofList rest).splitOn "\\E"
    let text := body.head?.getD ""
    set { s with rest := rest.drop (text.length + (if body.length > 1 then 2 else 0)) }
    let r ← flagged (Regex.ofLiteral text)
    pure (r, true)
  | 'E' => go .empty false
  | 'k' =>
    match rest with
    | d :: more =>
      set { s with rest := more }
      let stop := if d == '<' then '>' else if d == '\x7b' then '\x7d' else d
      let name ← nameUpTo stop
      let r ← back (.name name)
      pure (r, true)
    | [] => throw "\\k is not followed by a braced, angle-bracketed, or quoted name"
  | 'g' =>
    set { s with rest := rest }
    let r ← groupReference
    pure (r, true)
  | 'p' | 'P' =>
    let (name, after) := match rest with
      | '\x7b' :: cs =>
        let name := cs.takeWhile (· != '\x7d')
        (name, cs.drop (name.length + 1))
      | cs => (cs.take 1, cs.drop 1)
    let (negated, name) := match name with
      | '^' :: name => (true, name)
      | name => (false, name)
    match property? (String.ofList name) with
    | some test =>
      set { s with rest := after }
      pure (.one (setWhere fun x => test x != (negated != (c == 'P'))), true)
    | none =>
      throw (if name.isEmpty then "malformed \\P or \\p sequence" else "unknown property after \\P or \\p")
  | _ =>
    match escapedClass? c with
    | some test => go (.one (setWhere test)) true
    | none =>
      if c.isDigit && c != '0' then
        let ds := (c :: rest).takeWhile Char.isDigit
        let n := valueOf 10 ds
        if n < 10 || n ≤ s.groups then
          set { s with rest := (c :: rest).drop ds.length }
          let r ← back (.number n)
          pure (r, true)
        else
          let (ds, rest) := digitsOf 8 3 (c :: rest)
          set { s with rest := rest }
          let r ← flagged (literal (Char.ofNat (valueOf 8 ds)))
          pure (r, true)
      else
        match ← (escapedChar c rest : Except String _) with
        | some (x, rest) =>
          set { s with rest := rest }
          let r ← flagged (literal x)
          pure (r, true)
        | none => throw "unrecognized character follows \\"

/-- The flags that letters switch on, or off behind a dash. -/
def flagLetters : (on : Bool) → List Char → Flags → Except String (Flags × List Char)
  | _, [], _ => .error "missing closing parenthesis"
  | on, c :: rest, f =>
    match c with
    | '-' => flagLetters false rest f
    | '^' => flagLetters true rest { f with fold := some false, dotAll := false, spaced := false }
    | 'i' => flagLetters on rest { f with fold := some on }
    | 's' => flagLetters on rest { f with dotAll := on }
    | 'x' => flagLetters on rest { f with spaced := on }
    | 'm' | 'n' | 'J' | 'U' => flagLetters on rest f
    | ')' | ':' => .ok (f, c :: rest)
    | _ => .error "unrecognized character after (? or (?-"

/-- What is in a group up to its end. -/
def inGroup (alternatives : Reader Regex) : Reader Regex := do
  let outer := (← get).flags
  let body ← alternatives
  let s ← get
  match s.rest with
  | ')' :: rest =>
    set { s with rest := rest, flags := outer }
    pure body
  | _ => throw "missing closing parenthesis"

/-- A group with a number. -/
def numbered (alternatives : Reader Regex) (name : Option String) : Reader Regex := do
  let s ← get
  let number := s.groups + 1
  if let some text := name then
    if (s.names.lookup text).isSome then
      throw "two named subpatterns have the same name (PCRE2_DUPNAMES not set)"
  set { s with
    groups := number
    names := match name with
      | some text => (text, number) :: s.names
      | none => s.names }
  let body ← inGroup alternatives
  pure (.group number body)

/-- A condition on what stands before a place. -/
def behind (alternatives : Reader Regex) (wanted : Bool) : Reader Regex := do
  let body ← inGroup alternatives
  if !hasWidths body then throw "lookbehind assertion is not fixed length"
  pure (.look false wanted body)

/-- What stands behind an opening parenthesis. -/
def group (alternatives : Reader Regex) (rest : List Char) : Reader Regex := do
  let s ← get
  let into (rest : List Char) : Reader Unit := set { s with rest := rest }
  match rest with
  | '*' :: more =>
    into (more.dropWhile (· != ')') |>.drop 1)
    pure .empty
  | '?' :: ':' :: more =>
    into more
    inGroup alternatives
  | '?' :: '|' :: more =>
    into more
    inGroup alternatives
  | '?' :: '=' :: more =>
    into more
    let body ← inGroup alternatives
    pure (.look true true body)
  | '?' :: '!' :: more =>
    into more
    let body ← inGroup alternatives
    pure (.look true false body)
  | '?' :: '<' :: '=' :: more =>
    into more
    behind alternatives true
  | '?' :: '<' :: '!' :: more =>
    into more
    behind alternatives false
  | '?' :: '>' :: more =>
    into more
    let body ← inGroup alternatives
    pure (.once body)
  | '?' :: '#' :: more =>
    let after := more.dropWhile (· != ')')
    if after.isEmpty then throw "missing ) after (?# comment"
    into (after.drop 1)
    pure .empty
  | '?' :: 'P' :: '=' :: more =>
    into more
    let name ← nameUpTo ')'
    back (.name name)
  | '?' :: 'P' :: '<' :: more | '?' :: '<' :: more =>
    into more
    let name ← nameUpTo '>'
    numbered alternatives (some name)
  | '?' :: '\x27' :: more =>
    into more
    let name ← nameUpTo '\x27'
    numbered alternatives (some name)
  | '?' :: more =>
    let (flags, after) ← (flagLetters true more s.flags : Except String _)
    match after with
    | ':' :: after =>
      set { s with rest := after, flags := flags }
      let body ← inGroup alternatives
      modify fun t => { t with flags := s.flags }
      pure body
    | _ =>
      set { s with rest := after.drop 1, flags := flags }
      pure .empty
  | rest =>
    into rest
    numbered alternatives none

/-- One part of an expression with its repetition. -/
def part (alternatives : Reader Regex) : Reader Regex := do
  let s ← get
  let take (rest : List Char) (r : Regex) (repeatable : Bool) : Reader Regex := do
    set { s with rest := rest }
    quantified repeatable r
  match s.rest with
  | [] => pure .empty
  | '.' :: rest =>
    take rest (.one (setWhere fun c => s.flags.dotAll || c != '\n')) true
  | '^' :: rest => take rest .start false
  | '$' :: rest => take rest .finish false
  | '[' :: rest =>
    if let some (_, after) := posixClass? s.rest then
      if after.length < rest.length then
        throw "POSIX named classes are supported only within a class"
    let (r, rest) ← (bracket rest : Except String _)
    let r ← flagged r
    take rest r true
  | ['\\'] => throw "\\ at end of pattern"
  | '\\' :: c :: rest =>
    let (r, repeatable) ← escape c rest
    quantified repeatable r
  | '(' :: rest =>
    let r ← group alternatives rest
    match r with
    | .empty => pure r
    | r => quantified true r
  | c :: rest =>
    if c == '*' || c == '+' || c == '?' then throw notRepeatable
    else if s.flags.spaced && (c == ' ' || c == '\t' || c == '\n') then
      set { s with rest := rest }
      pure .empty
    else if s.flags.spaced && c == '#' then
      set { s with rest := (rest.dropWhile (· != '\n')).drop 1 }
      pure .empty
    else
      if c == '\x7b' && (bounds? rest).isSome then throw notRepeatable
      let r ← flagged (literal c)
      take rest r true

/-- A row of parts; each takes a character, so `limit` may be their number. -/
def parts (alternatives : Reader Regex) : (limit : Nat) → Reader Regex
  | 0 => pure .empty
  | limit + 1 => do
    let s ← get
    match s.rest with
    | [] | '|' :: _ | ')' :: _ => pure .empty
    | _ =>
      let a ← part alternatives
      let b ← parts alternatives limit
      pure (match a, b with
        | .empty, b => b
        | a, .empty => a
        | a, b => .cat a b)

/-- Alternatives; `limit` bounds how deep groups are nested and how many alternatives there are. -/
def alternatives : (limit : Nat) → Reader Regex
  | 0 => pure .empty
  | limit + 1 => do
    let s ← get
    let a ← parts (alternatives limit) (s.rest.length + 1)
    let s ← get
    match s.rest with
    | '|' :: rest =>
      set { s with rest := rest }
      let b ← alternatives limit
      pure (.alt a b)
    | _ => pure a

/-- Reads an expression. -/
def ofText (text : String) : Except String Regex := do
  let (r, s) ← (alternatives (text.length + 1)).run { rest := text.toList }
  let missing := s.references.any fun (r : Reference) => match r with
    | .number n => n == 0 || n > s.groups
    | .name text => (s.names.lookup text).isNone
  if !s.rest.isEmpty then .error "unmatched closing parenthesis"
  else if missing then .error "reference to non-existent subpattern"
  else .ok r

end HardenAudit.Program.RichRegex
