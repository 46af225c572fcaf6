/-!
# Blanks and patterns in texts

## Blank characters

The characters with the Unicode property White_Space, and trimming by them.
-/

namespace HardenAudit.Text

/-- The Unicode property White_Space. -/
def isBlank (c : Char) : Bool :=
  let n := c.toNat
  (9 ≤ n && n ≤ 13) || n == 0x20 || n == 0x85 || n == 0xA0 || n == 0x1680
    || (0x2000 ≤ n && n ≤ 0x200A) || n == 0x2028 || n == 0x2029 || n == 0x202F || n == 0x205F
    || n == 0x3000

/-- The text without the blanks at its two ends. -/
def trimBlanks (text : String) : String :=
  String.ofList ((text.toList.dropWhile isBlank).reverse.dropWhile isBlank).reverse

/-- The text with an underscore in place of each blank. -/
def underscored (text : String) : String :=
  String.ofList (text.toList.map fun c => if isBlank c then '_' else c)

end HardenAudit.Text

/-!
## Occurrences of a pattern in a list

A pattern can be counted in two ways: `scanCount` walks from left to right and goes on behind each
match, so that matches never overlap; `startCount` counts every position at which the pattern
starts.  The two differ in general (`aa` in `aaa`) and agree for a pattern that has no border.
-/

namespace HardenAudit.Text

variable {α : Type} [BEq α]

/-- Matches met by a scan from left to right; the next `skip` items belong to the match before. -/
def scanFrom (pattern : List α) : (skip : Nat) → List α → Nat
  | _, [] => 0
  | skip + 1, _ :: rest => scanFrom pattern skip rest
  | 0, x :: rest =>
    if pattern.isPrefixOf (x :: rest) then scanFrom pattern (pattern.length - 1) rest + 1
    else scanFrom pattern 0 rest

/-- Number of matches of the leftmost non-overlapping scan. -/
def scanCount (pattern text : List α) : Nat := scanFrom pattern 0 text

/-- Number of positions at which the pattern starts, overlapping or not. -/
def startCount (pattern : List α) : List α → Nat
  | [] => 0
  | x :: rest => (if pattern.isPrefixOf (x :: rest) then 1 else 0) + startCount pattern rest

end HardenAudit.Text
