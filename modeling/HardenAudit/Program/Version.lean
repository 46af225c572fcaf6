/-!
# The order of versions

Texts with numbers in them are compared piece by piece: what stands between numbers character by
character, with a tilde before everything, the end next, then letters and then all others; and
numbers by their values.  Endings of file names are looked at only if all else is equal.
-/

namespace HardenAudit.Program

/-- The rank of the character that comes next, outside of a number. -/
def versionRank : List Char → Int
  | [] => -1
  | c :: _ =>
    if c.isDigit then 0
    else if c.isAlpha then c.toNat
    else if c == '~' then -2
    else c.toNat + 256

/-- Compares what stands before the next number, and gives what is behind it if that is the same. -/
def compareUpToDigits : (limit : Nat) → List Char → List Char → Ordering × List Char × List Char
  | 0, a, b => (.eq, a, b)
  | limit + 1, a, b =>
    let pending (s : List Char) : Bool := match s with
      | c :: _ => !c.isDigit
      | [] => false
    if pending a || pending b then
      let order := compare (versionRank a) (versionRank b)
      if order != .eq then (order, a, b) else compareUpToDigits limit (a.drop 1) (b.drop 1)
    else (.eq, a, b)

/-- Compares two texts with numbers in them; each round takes a character at least, so `limit` may be
the sum of their lengths. -/
def compareRuns : (limit : Nat) → List Char → List Char → Ordering
  | 0, _, _ => .eq
  | limit + 1, a, b =>
    if a.isEmpty && b.isEmpty then .eq
    else
      let (order, a, b) := compareUpToDigits (max a.length b.length) a b
      if order != .eq then order
      else
        let digits (s : List Char) : List Char := (s.takeWhile Char.isDigit).dropWhile (· == '0')
        let x := digits a
        let y := digits b
        let order := (compare x.length y.length).then (compare (String.ofList x) (String.ofList y))
        if order != .eq then order
        else compareRuns limit (a.dropWhile Char.isDigit) (b.dropWhile Char.isDigit)

/-- The part of a name before endings such as `.tar.gz`; `kept` is the number of characters that are
surely no part of them. -/
def endingStart : (limit : Nat) → (kept i : Nat) → List Char → Nat
  | 0, kept, _, _ => kept
  | _, kept, _, [] => kept
  | limit + 1, _, i, _ :: rest =>
    let (j, rest) := skip (rest.length + 1) (i + 1) rest
    endingStart limit (i + 1) j rest
where
  skip : Nat → Nat → List Char → Nat × List Char
    | limit + 1, i, '.' :: c :: rest =>
      if c.isAlpha || c == '~' then
        let more := rest.takeWhile fun c => c.isAlphanum || c == '~'
        skip limit (i + 2 + more.length) (rest.drop more.length)
      else (i, '.' :: c :: rest)
    | _, i, rest => (i, rest)

/-- Compares two names as versions. -/
def compareVersions (a b : String) : Ordering :=
  let x := a.toList
  let y := b.toList
  let rank (s : List Char) : Nat := match s with
    | [] => 0
    | ['.'] => 1
    | ['.', '.'] => 2
    | '.' :: _ => 3
    | _ => 4
  if rank x != rank y then compare (rank x) (rank y)
  else if rank x < 3 then .eq
  else
    let limit := x.length + y.length + 1
    let short (s : List Char) : List Char := s.take (endingStart s.length 0 0 s)
    (compareRuns limit (short x) (short y)).then (compareRuns limit x y)

end HardenAudit.Program
