import HardenAudit.Program.Regex
import HardenAudit.Program.Stream

/-!
# Replacing and dropping characters: `tr`
-/

namespace HardenAudit.Program.Translate

/-- A part of a set of characters. -/
inductive Piece where
  | chars (cs : List Char)
  | class_ (name : String)
  /-- A character so many times; none stands for as often as it takes. -/
  | repeated (c : Char) (count : Option Nat)
  deriving Inhabited

/-- All bytes. -/
def bytes : List Char := (List.range 256).map Char.ofNat

/-- The names of classes of characters. -/
def classNames : List String :=
  ["alnum", "alpha", "blank", "cntrl", "digit", "graph", "lower", "print", "punct", "space", "upper",
   "xdigit"]

/-- The characters of a class. -/
def classChars (name : String) : List Char :=
  let s : CharSet := { classes := [name] }
  bytes.filter s.contains

/-- A character that a backslash may stand before, whether one did, and the rest. -/
def unit (cs : List Char) : Option (Char × Bool × List Char) :=
  match cs with
  | '\\' :: c :: rest =>
    let ds := (c :: rest).take 3 |>.takeWhile fun d => (Shell.digitValue? 8 d).isSome
    if !ds.isEmpty then
      let value := (Shell.digits 8 ds 0 0).1
      -- three digits may be too many for a byte
      let used := if value > 255 then ds.take 2 else ds
      some (Char.ofNat (Shell.digits 8 used 0 0).1, true, (c :: rest).drop used.length)
    else
      let d := match c with
        | 'a' => Char.ofNat 7
        | 'b' => Char.ofNat 8
        | 'f' => Char.ofNat 12
        | 'n' => '\n'
        | 'r' => '\r'
        | 't' => '\t'
        | 'v' => Char.ofNat 11
        | c => c
      some (d, true, rest)
  | c :: rest => some (c, false, rest)
  | [] => none

/-- A part in brackets, if one stands here, and the rest. -/
def bracketed (cs : List Char) : Except String (Option (Piece × List Char)) :=
  match cs with
  | '[' :: ':' :: rest =>
    match Regex.namedPart ':' rest with
    | some (name, rest) =>
      if classNames.contains name then .ok (some (.class_ name, rest))
      else .error ("invalid character class " ++ quote name)
    | none => .ok none
  | '[' :: '=' :: c :: '=' :: ']' :: rest => .ok (some (.chars [c], rest))
  | '[' :: rest =>
    match unit rest with
    | some (c, _, '*' :: rest) =>
      let count := rest.takeWhile (· != ']')
      match rest.drop count.length with
      | ']' :: rest =>
        if count.isEmpty then .ok (some (.repeated c none, rest))
        else if count.all Char.isDigit then
          let n := (Shell.digits (if count.head? == some '0' then 8 else 10) count 0 0).1
          .ok (some (.repeated c (if n = 0 then none else some n), rest))
        else
          .error ("invalid repeat count " ++ quote (String.ofList count) ++ " in [c*n] construct")
      | _ => .ok none
    | _ => .ok none
  | _ => .ok none

/-- The parts of a set; each takes a character, so `limit` may be their number. -/
def pieces : (limit : Nat) → List Char → Except String (List Piece)
  | 0, _ => .ok []
  | limit + 1, cs => do
    match ← bracketed cs with
    | some (p, rest) => return p :: (← pieces limit rest)
    | none =>
      match unit cs with
      | none => return []
      | some (a, _, '-' :: rest) =>
        match unit rest with
        | some (b, _, rest) =>
          if b < a then
            throw ("range-endpoints of " ++ quote (String.ofList [a, '-', b])
              ++ " are in reverse collating sequence order")
          let range := bytes.filter fun c => a ≤ c && c ≤ b
          return .chars range :: (← pieces limit rest)
        | none => return [.chars [a, '-']]
      | some (a, _, rest) => return .chars [a] :: (← pieces limit rest)

/-- The characters of a set, with those that are repeated as often as it takes filled up to a size. -/
def expand (ps : List Piece) (size : Nat) : List Char :=
  let fixed (p : Piece) : List Char := match p with
    | .chars cs => cs
    | .class_ name => classChars name
    | .repeated c count => List.replicate (count.getD 0) c
  let known := ps.foldl (fun n p => n + (fixed p).length) 0
  ps.flatMap fun p => match p with
    | .repeated c none => List.replicate (size - known) c
    | p => fixed p

/-- The class of letters that starts at each place of a set, if one does. -/
def caseClasses : List Piece → Nat → List (Nat × String)
  | [], _ => []
  | .class_ name :: rest, i =>
    (if name = "lower" || name = "upper" then [(i, name)] else [])
      ++ caseClasses rest (i + (classChars name).length)
  | .chars cs :: rest, i => caseClasses rest (i + cs.length)
  | .repeated _ count :: rest, i => caseClasses rest (i + count.getD 0)

/-- What a translation does with the characters of the input. -/
structure Table where
  dropped : List Char := []
  /-- For each character that changes what it becomes. -/
  pairs : List (Char × Char) := []
  /-- Characters of which only the first of several in a row stays. -/
  squeezed : List Char := []

/-- Applies a table to a piece of the input; `last` is the last character that stayed. -/
def Table.apply (t : Table) (last : Option Char) (cs : List Char) : Option Char × List Char :=
  let (last, out) := cs.foldl (fun (acc : Option Char × List Char) c =>
    if t.dropped.contains c then acc
    else
      let c := (t.pairs.lookup c).getD c
      if acc.1 == some c && t.squeezed.contains c then acc
      else (some c, c :: acc.2)) (last, [])
  (last, out.reverse)

/-- The table of a translation between two sets. -/
def translation (complement truncate : Bool) (from_ into : List Piece) : Except String Table := do
  let a := expand from_ 0
  let a := if complement then bytes.filter (!a.contains ·) else a
  let hasClass := into.any fun p => match p with
    | .class_ name => name != "lower" && name != "upper"
    | _ => false
  if hasClass then
    throw ("when translating, the only character classes that may appear in\n"
      ++ "string2 are 'upper' and 'lower'")
  let startsA := caseClasses from_ 0
  let startsB := caseClasses into 0
  if startsB.any fun (i, _) => complement || !startsA.any (·.1 == i) then
    throw "misaligned [:upper:] and/or [:lower:] construct"
  let b := expand into a.length
  if b.isEmpty && !truncate && !a.isEmpty then
    throw "when not truncating set1, string2 must be non-empty"
  let a := if truncate then a.take b.length else a
  let filler := b.getLast?.getD ' '
  let b := b ++ List.replicate (a.length - b.length) filler
  -- the last pair for a character counts
  pure { pairs := (a.zip b).reverse }

end HardenAudit.Program.Translate

namespace HardenAudit.Program

open Kernel (Work)
open Translate (Table)

/-- The table of a call, and what is wrong with the number of its arguments. -/
def trTable (c : Call) : Except String Table := do
  let complement := c.has 'c'
  let set (text : String) : Except String (List Translate.Piece) :=
    Translate.pieces (text.length + 1) text.toList
  let members (ps : List Translate.Piece) : List Char :=
    let cs := Translate.expand ps 0
    if complement then Translate.bytes.filter (!cs.contains ·) else cs
  match c.rest with
  | [one] =>
    let ps ← set one
    if c.has 'd' then pure { dropped := members ps } else pure { squeezed := members ps }
  | one :: two :: _ =>
    let a ← set one
    let b ← set two
    if c.has 'd' then pure { dropped := members a, squeezed := Translate.expand b 0 }
    else
      let t ← Translate.translation complement (c.has 't') a b
      pure (if c.has 's' then { t with squeezed := Translate.expand b (Translate.expand a 0).length }
        else t)
  | [] => pure {}

/-- Replaces or drops characters of the input. -/
def tr : Program := fun argv _ => do
  let o := Options.make "cCdst"
    [("complement", 'c'), ("delete", 'd'), ("squeeze-repeats", 's'), ("truncate-set1", 't')]
  let c ← call { o with strict := true } 1 argv
  let c := { c with options := c.options.map fun p => if p.1 == 'C' then ('c', p.2) else p }
  let least := if c.has 'd' == c.has 's' then 2 else 1
  let most := if c.has 'd' && !c.has 's' then 1 else 2
  let tooMany (message : String) (reason : String) : Work Unit := do
    report c.name message
    if reason != "" then printError (reason ++ "\n")
    hint c.name 1
  if c.rest.length < least then
    match c.rest.getLast? with
    | none => misuse c.name 1 "missing operand"
    | some a =>
      tooMany ("missing operand after " ++ quote a)
        (if c.has 'd' then "Two strings must be given when both deleting and squeezing repeats."
          else "Two strings must be given when translating.")
  if let some extra := c.rest[most]? then
    tooMany ("extra operand " ++ quote extra)
      (if c.rest.length = 2 then
        "Only one string may be given when deleting without squeezing repeats." else "")
  match trTable c with
  | .error message => giveUp c.name 1 message
  | .ok table =>
    Work.iterate (fun (last : Option Char) => do
      match ← Work.ask (.read 0 chunkSize) with
      | .ok [] => pure (.inr 0)
      | .ok bytes =>
        let (last, out) := table.apply last (Text.Raw.ofBytes bytes).toList
        put c.name (String.ofList out)
        pure (.inl last)
      | .error e => giveUp c.name 1 ("read error: " ++ e.text)) Kernel.endless none

end HardenAudit.Program
