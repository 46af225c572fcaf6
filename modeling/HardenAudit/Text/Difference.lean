import Std.Data.HashMap

/-!
# How two texts differ, line by line

The lines of two texts are compared by their keys: lines that belong to the other text nowhere are
set aside, the rest is split again and again at a point that a shortest row of changes passes, found
by searching from both ends at once, and last the groups of changed lines are moved to where they
meet each other.
-/

namespace HardenAudit.Text.Difference

/-! ## Marks -/

/-- Is a line marked?  Lines beyond the ends are not. -/
def marked (marks : Array Bool) (i : Nat) : Bool := marks.getD i false

/-- The first line from a place on that is not marked; `limit` may be the number of lines. -/
def pastMarked (marks : Array Bool) : (limit : Nat) → Nat → Nat
  | 0, i => i
  | limit + 1, i => if marked marks i then pastMarked marks limit (i + 1) else i

/-- The start of the marked lines right before a place. -/
def beforeMarked (marks : Array Bool) : Nat → Nat
  | 0 => 0
  | i + 1 => if marked marks i then beforeMarked marks i else i + 1

/-- Which lines of two texts have no partner in the other one. -/
structure Marks where
  left : Array Bool
  right : Array Bool
  deriving Repr, Inhabited

/-! ## Lines to set aside -/

/-- What is known of a line before the comparison. -/
inductive Standing where
  | kept
  /-- It is nowhere in the other text. -/
  | alone
  /-- It is in the other text very often. -/
  | common
  deriving DecidableEq, Repr, Inhabited

/-- How often a number can be divided by four before nothing is left of it, less one. -/
def quarterings : (limit : Nat) → Nat → Nat
  | 0, _ => 0
  | limit + 1, n => if n / 4 > 0 then quarterings limit (n / 4) + 1 else 0

/-- Keeps the common lines at the start of a row, up to three lone lines on end or to a lone line
behind eight others. -/
def keepFirst : (place lone : Nat) → List Standing → List Standing
  | _, _, [] => []
  | place, lone, s :: rest =>
    if place ≥ 8 && s = .alone then s :: rest
    else
      let lone := if s = .alone then lone + 1 else 0
      let s := if s = .common then .kept else s
      if lone = 3 then s :: rest else s :: keepFirst (place + 1) lone rest

/-- Splits off the common lines at the start of a row. -/
def spanCommon (row : List Standing) : List Standing × List Standing :=
  (row.takeWhile (· = .common), row.dropWhile (· = .common))

/-- Keeps common lines that follow each other in a row, if there are `most` of them or more. -/
def keepRuns (most : Nat) : (limit : Nat) → List Standing → List Standing
  | 0, row => row
  | _, [] => []
  | limit + 1, s :: rest =>
    if s = .common then
      let (run, after) := spanCommon (s :: rest)
      (if run.length ≥ most then run.map fun _ => .kept else run) ++ keepRuns most limit after
    else s :: keepRuns most limit rest

/-- Decides on the common lines of a row that starts and ends with lone lines. -/
def settleRow (row : List Standing) : List Standing :=
  let size := row.length
  if (row.countP (· = .common)) * 4 > size then
    row.map fun s => if s = .common then .kept else s
  else
    let most := Nat.pow 2 (quarterings size (size / 4)) + 1
    let row := keepFirst 0 0 (keepRuns most size row)
    (keepFirst 0 0 row.reverse).reverse

/-- Decides on a row of lines that are not kept so far: common lines at its ends are. -/
def settleEnds (row : List Standing) : List Standing :=
  let (first, rest) := spanCommon row
  let (last, middle) := spanCommon rest.reverse
  first.map (fun _ => .kept) ++ settleRow middle.reverse ++ last.map fun _ => .kept

/-- Decides on all lines, given the row before them, which is in reverse. -/
def settle : List Standing → (row : List Standing) → List Standing
  | [], row => settleEnds row.reverse
  | .kept :: rest, row => settleEnds row.reverse ++ .kept :: settle rest []
  | s :: rest, row => settle rest (s :: row)

/-- How often each key occurs. -/
def tally (keys : Array String) : Std.HashMap String Nat :=
  keys.foldl (fun m k => m.insert k (m.getD k 0 + 1)) {}

/-- Which lines of a text are set aside, given how often each key is in the other one. -/
def setAside (keys : Array String) (others : Std.HashMap String Nat) : Array Bool :=
  let many := 5 * Nat.pow 2 (quarterings keys.size (keys.size / 64))
  let standing (k : String) : Standing :=
    let n := others.getD k 0
    if n = 0 then .alone else if n > many then .common else .kept
  ((settle (keys.toList.map standing) []).map (· != .kept)).toArray

/-! ## The shortest row of changes -/

/-- The keys of two texts. -/
structure Keys where
  left : Array String
  right : Array String
  deriving Inhabited

/-- A part of both texts: the lines from `x` up to `xEnd` and those from `y` up to `yEnd`. -/
structure Box where
  x : Nat
  xEnd : Nat
  y : Nat
  yEnd : Nat
  deriving Repr, Inhabited

namespace Keys

/-- How many lines are equal from a place on, up to a number. -/
def ahead (k : Keys) : (limit : Nat) → Nat → Nat → Nat
  | 0, _, _ => 0
  | limit + 1, x, y =>
    if k.left[x]? == k.right[y]? then k.ahead limit (x + 1) (y + 1) + 1 else 0

/-- How many lines are equal before a place, up to a number. -/
def behind (k : Keys) : (limit : Nat) → Nat → Nat → Nat
  | 0, _, _ => 0
  | limit + 1, x, y =>
    if k.left[x - 1]? == k.right[y - 1]? then k.behind limit (x - 1) (y - 1) + 1 else 0

end Keys

/-- How far a search has come on each diagonal, and the diagonals that it has reached.  The diagonal of
a place is the number of its left line less that of its right one. -/
structure Front where
  reached : Array Int
  /-- Where the diagonal zero stands in `reached`. -/
  shift : Int
  lowest : Int
  highest : Int
  deriving Inhabited

namespace Front

/-- How far the search has come on a diagonal. -/
def at_ (f : Front) (d : Int) : Int := f.reached.getD (d + f.shift).toNat 0

/-- Notes how far the search has come on a diagonal. -/
def note (f : Front) (d x : Int) : Front :=
  { f with reached := f.reached.setIfInBounds (d + f.shift).toNat x }

/-- A search that has not left its first place. -/
def start (k : Keys) (d x : Int) : Front :=
  { reached := Array.replicate (k.left.size + k.right.size + 3) 0
    shift := (k.right.size + 1 : Nat), lowest := d, highest := d : Front }.note d x

/-- Takes in the next diagonal on both sides, or leaves one out where there is none; nothing was
reached beyond them. -/
def widen (f : Front) (least most beyond : Int) : Front :=
  let f :=
    if f.lowest > least then { f.note (f.lowest - 2) beyond with lowest := f.lowest - 1 }
    else { f with lowest := f.lowest + 1 }
  if f.highest < most then { f.note (f.highest + 2) beyond with highest := f.highest + 1 }
  else { f with highest := f.highest - 1 }

/-- Every second diagonal from the highest one down. -/
def diagonals (f : Front) : List Int :=
  (List.range ((f.highest - f.lowest) / 2 + 1).toNat).map fun (i : Nat) => f.highest - 2 * (i : Int)

/-- Is a diagonal among those reached? -/
def covers (f : Front) (d : Int) : Bool := f.lowest ≤ d && d ≤ f.highest

end Front

/-- Goes on by one change from the start on each diagonal; gives the place where that meets the search
from the end. -/
def forward (k : Keys) (b : Box) (back : Option Front) : List Int → Front → Front × Option (Int × Int)
  | [], f => (f, none)
  | d :: rest, f =>
    let below := f.at_ (d - 1)
    let above := f.at_ (d + 1)
    let x := if below < above then above else below + 1
    let y := x - d
    let size := k.ahead (min (b.xEnd - x) (b.yEnd - y)).toNat x.toNat y.toNat
    let x := x + size
    let f := f.note d x
    if back.any fun g => g.covers d && g.at_ d ≤ x then (f, some (x, x - d))
    else forward k b back rest f

/-- Goes back by one change from the end on each diagonal; gives the place where that meets the search
from the start. -/
def backward (k : Keys) (b : Box) (front : Option Front) : List Int → Front →
    Front × Option (Int × Int)
  | [], f => (f, none)
  | d :: rest, f =>
    let below := f.at_ (d - 1)
    let above := f.at_ (d + 1)
    let x := if below < above then below else above - 1
    let y := x - d
    let size := k.behind (min (x - b.x) (y - b.y)).toNat x.toNat y.toNat
    let x := x - size
    let f := f.note d x
    if front.any fun g => g.covers d && x ≤ g.at_ d then (f, some (x, x - d))
    else backward k b front rest f

/-- A place in a box that a shortest row of changes passes; each round adds a change at both ends, so
`limit` may be the number of lines. -/
def middle (k : Keys) (b : Box) : (limit : Nat) → Front → Front → Int × Int
  | 0, _, _ => (b.x, b.y)
  | limit + 1, front, back =>
    let least : Int := (b.x : Int) - b.yEnd
    let most : Int := (b.xEnd : Int) - b.y
    /- The two searches can meet in the first half of a round only if the corners of the box are an odd
    number of diagonals apart. -/
    let odd := Int.fmod (((b.x : Int) - b.y) - ((b.xEnd : Int) - b.yEnd)) 2 == 1
    let front := front.widen least most (-1)
    match forward k b (if odd then some back else none) front.diagonals front with
    | (_, some place) => place
    | (front, none) =>
      let back := back.widen least most (k.left.size + k.right.size + 1 : Nat)
      match backward k b (if odd then none else some front) back.diagonals back with
      | (_, some place) => place
      | (back, none) => middle k b limit front back

/-- The lines in a box that have no partner, as numbers of the left lines and of the right ones; each
round takes a line at least, so `limit` may be their number. -/
def unmatched (k : Keys) : (limit : Nat) → Box → List Nat × List Nat
  | 0, _ => ([], [])
  | limit + 1, b =>
    let size := k.ahead (min (b.xEnd - b.x) (b.yEnd - b.y)) b.x b.y
    let b := { b with x := b.x + size, y := b.y + size }
    let size := k.behind (min (b.xEnd - b.x) (b.yEnd - b.y)) b.xEnd b.yEnd
    let b := { b with xEnd := b.xEnd - size, yEnd := b.yEnd - size }
    let width := b.xEnd - b.x
    let height := b.yEnd - b.y
    if width = 0 || height = 0 then
      ((List.range width).map (· + b.x), (List.range height).map (· + b.y))
    else
      let (x, y) := middle k b (width + height)
        (Front.start k ((b.x : Int) - b.y) b.x) (Front.start k ((b.xEnd : Int) - b.yEnd) b.xEnd)
      let first := unmatched k limit { b with xEnd := x.toNat, yEnd := y.toNat }
      let second := unmatched k limit { b with x := x.toNat, y := y.toNat }
      (first.1 ++ second.1, first.2 ++ second.2)

/-- Marks the lines that have no partner. -/
def unpaired (k : Keys) (minimal : Bool) : Marks :=
  let aside (keys others : Array String) : Array Bool :=
    if minimal then keys.map fun _ => false else setAside keys (tally others)
  let left := aside k.left k.right
  let right := aside k.right k.left
  let places (marks : Array Bool) : Array Nat :=
    ((List.range marks.size).filter fun i => !marked marks i).toArray
  let xs := places left
  let ys := places right
  let rest : Keys :=
    { left := xs.map fun i => k.left.getD i "", right := ys.map fun i => k.right.getD i "" }
  let (removed, added) := unmatched rest (xs.size + ys.size + 1) ⟨0, xs.size, 0, ys.size⟩
  let mark (marks : Array Bool) (places : Array Nat) (lines : List Nat) : Array Bool :=
    lines.foldl (fun m i => m.setIfInBounds (places.getD i 0) true) marks
  { left := mark left xs removed, right := mark right ys added }

/-! ## Moving groups of changed lines -/

/-- A group of marked lines that is moved, and the place in the other text that goes with its end. -/
structure Group where
  marks : Array Bool
  start : Nat
  stop : Nat
  other : Nat
  /-- The last end of the group at which there are marked lines in the other text as well. -/
  meeting : Option Nat := none
  deriving Inhabited

namespace Group

/-- Moves a group back by a line. -/
def back (others : Array Bool) (g : Group) : Group :=
  { g with
    marks := (g.marks.setIfInBounds (g.start - 1) true).setIfInBounds (g.stop - 1) false
    start := g.start - 1, stop := g.stop - 1, other := beforeMarked others g.other - 1 }

/-- Moves a group back as long as the line before it is the same as its last one; groups in between are
joined to it. -/
def slideBack (keys : Array String) (others : Array Bool) : (limit : Nat) → Group → Group
  | 0, g => g
  | limit + 1, g =>
    if g.start > 0 && keys[g.start - 1]? == keys[g.stop - 1]? then
      let g := g.back others
      slideBack keys others limit { g with start := beforeMarked g.marks g.start }
    else g

/-- Moves a group on as long as the line behind it is the same as its first one; groups in between are
joined to it. -/
def slideOn (keys : Array String) (others : Array Bool) : (limit : Nat) → Group → Group
  | 0, g => g
  | limit + 1, g =>
    if g.stop < keys.size && keys[g.start]? == keys[g.stop]? then
      let marks := (g.marks.setIfInBounds g.start false).setIfInBounds g.stop true
      let stop := pastMarked marks keys.size (g.stop + 1)
      let other := pastMarked others others.size (g.other + 1)
      slideOn keys others limit
        { g with
          marks := marks, start := g.start + 1, stop := stop, other := other
          meeting := if other > g.other + 1 then some stop else g.meeting }
    else g

/-- Moves a group back and on until it joins no other one. -/
def gather (keys : Array String) (others : Array Bool) : (limit : Nat) → Group → Group
  | 0, g => g
  | limit + 1, g =>
    let size := g.stop - g.start
    let g := slideBack keys others keys.size g
    let g := slideOn keys others keys.size
      { g with meeting := if g.other > 0 && marked others (g.other - 1) then some g.stop else none }
    if g.stop - g.start = size then g else gather keys others limit g

/-- Moves a group back to where it meets a group of the other text. -/
def meet (others : Array Bool) : (limit : Nat) → Group → Group
  | 0, g => g
  | limit + 1, g =>
    if g.meeting.any (· < g.stop) then meet others limit (g.back others) else g

end Group

/-- Goes over unmarked lines; gives the place in the other text as well. -/
def overUnmarked (marks others : Array Bool) : (limit : Nat) → Nat → Nat → Nat × Nat
  | 0, i, j => (i, j)
  | limit + 1, i, j =>
    if i < marks.size && !marked marks i then
      overUnmarked marks others limit (i + 1) (pastMarked others others.size j + 1)
    else (i, j)

/-- Moves all groups from a place on, each as far on as it goes or to where it meets a group of the
other text; `limit` may be the number of lines. -/
def moveGroups (keys : Array String) (others : Array Bool) : (limit : Nat) → Array Bool → Nat → Nat →
    Array Bool
  | 0, marks, _, _ => marks
  | limit + 1, marks, i, j =>
    let (i, j) := overUnmarked marks others marks.size i j
    if i ≥ marks.size then marks
    else
      let g : Group :=
        { marks := marks, start := i, stop := pastMarked marks marks.size i
          other := pastMarked others others.size j }
      let g := (g.gather keys others (keys.size + 1)).meet others keys.size
      moveGroups keys others limit g.marks g.stop g.other

/-- Which lines have no partner, with the groups of them moved. -/
def marksOf (k : Keys) (minimal : Bool) : Marks :=
  let m := unpaired k minimal
  let left := moveGroups k.left m.right (k.left.size + 1) m.left 0 0
  { left := left, right := moveGroups k.right left (k.right.size + 1) m.right 0 0 }

/-! ## Changes -/

/-- Lines of one text that stand for lines of the other: where each part begins and how long it is. -/
structure Change where
  left : Nat
  removed : Nat
  right : Nat
  added : Nat
  deriving DecidableEq, Repr, Inhabited

/-- The changes from a pair of places on; each round takes a line, so `limit` may be their number. -/
def changesFrom (m : Marks) : (limit : Nat) → Nat → Nat → List Change
  | 0, _, _ => []
  | limit + 1, i, j =>
    if i ≥ m.left.size && j ≥ m.right.size then []
    else
      let x := pastMarked m.left m.left.size i
      let y := pastMarked m.right m.right.size j
      let rest := changesFrom m limit (x + 1) (y + 1)
      if x > i || y > j then ⟨i, x - i, j, y - j⟩ :: rest else rest

/-- The number of equal elements at the start of two lists. -/
def commonStart : List String → List String → Nat
  | a :: as, b :: bs => if a == b then commonStart as bs + 1 else 0
  | _, _ => 0

/-- The changes from one text to another, given by their lines.  Equal lines at both ends are no part of
the comparison, but for `horizon` of them at each end; all others are compared by their keys. -/
def changes (key : String → String) (horizon : Nat) (minimal : Bool) (as bs : List String) :
    List Change :=
  let first := commonStart as bs - horizon
  let as := as.drop first
  let bs := bs.drop first
  let last := commonStart as.reverse bs.reverse - horizon
  let as := as.take (as.length - last)
  let bs := bs.take (bs.length - last)
  let k : Keys := { left := (as.map key).toArray, right := (bs.map key).toArray }
  let m := marksOf k minimal
  (changesFrom m (m.left.size + m.right.size + 1) 0 0).map fun c =>
    { c with left := c.left + first, right := c.right + first }

end HardenAudit.Text.Difference
