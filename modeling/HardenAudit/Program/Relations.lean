import HardenAudit.Program.Display

/-!
# Numbers and their factors, things and their order: `factor`, `tsort`
-/

namespace HardenAudit.Program

open Kernel (Work)

/-- The words of a text. -/
def wordsOf (text : String) : List String :=
  let blanked := String.ofList (text.toList.map fun c => if isGap c then ' ' else c)
  (blanked.splitOn " ").filter (· != "")

/-! ## Factors -/

/-- The prime factors of a number from a divisor on; each round grows the divisor or shrinks the
number. -/
def factorsFrom : (limit : Nat) → (divisor n : Nat) → List Nat
  | 0, _, n => if n > 1 then [n] else []
  | limit + 1, d, n =>
    if n < 2 then []
    else if d * d > n then [n]
    else if n % d = 0 then d :: factorsFrom limit d (n / d)
    else factorsFrom limit (if d = 2 then 3 else d + 2) n

/-- More rounds than the factors of any number that can be handled take. -/
def factorLimit : Nat := 10000000000

/-- A number with its factors. -/
def factorLine? (word : String) : Option String :=
  let cs := word.toList.dropWhile (· == ' ')
  let cs := match cs with
    | '+' :: rest => rest
    | cs => cs
  if cs.isEmpty || !cs.all Char.isDigit then none
  else
    let n := (Shell.digits 10 cs 0 0).1
    some (ended (toString n ++ ":"
      ++ String.join ((factorsFrom factorLimit 2 n).map fun f => " " ++ toString f)))

/-- Shows the prime factors of numbers. -/
def factor : Program := fun argv _ => do
  let c ← call (.make "h" [("exponents", 'h')]) 1 argv
  let words ← if !c.rest.isEmpty then pure c.rest else do
    match ← slurp 0 with
    | .ok text => pure (wordsOf text)
    | .error e => giveUp c.name 1 ("error reading input: " ++ e.text)
  eachOf words fun word => do
    match factorLine? word with
    | some line =>
      put c.name line
      pure 0
    | none =>
      report c.name (quote word ++ " is not a valid positive integer")
      pure 1

/-! ## Order -/

/-- Something with the number of things that must come before it, and those that come behind it. -/
structure Item where
  name : String
  before : Nat := 0
  behind : List String := []
  done : Bool := false
  /-- The next one on a way back through a circle. -/
  link : Option String := none
  deriving Inhabited

/-- Things in the order of their names. -/
abbrev Items.Relations := List Item

namespace Items.Relations

def find? (r : Relations) (name : String) : Option Item := List.find? (fun i => i.name == name) r

def update (r : Relations) (name : String) (f : Item → Item) : Relations :=
  List.map (fun i => if i.name == name then f i else i) r

/-- Adds a name. -/
def insert (r : Relations) (name : String) : Relations :=
  if (r.find? name).isSome then r
  else
    List.filter (fun i => i.name < name) r ++ { name := name } :: List.filter (fun i => name < i.name) r

/-- Notes that one thing comes before another. -/
def relate (r : Relations) (a b : String) : Relations :=
  let r := (r.insert a).insert b
  if a == b then r
  else
    (r.update b fun i => { i with before := i.before + 1 }).update a
      fun i => { i with behind := b :: i.behind }

/-- The relations between pairs of words; none if one word is left over. -/
def ofWords? : List String → Relations → Option Relations
  | [], r => some r
  | [_], _ => none
  | a :: b :: rest, r => ofWords? rest (r.relate a b)

/-- Takes things from a queue, and puts those at its end that nothing comes before any more. -/
def serve : (limit : Nat) → (queue shown : List String) → Relations → List String × Relations
  | limit + 1, name :: queue, shown, r =>
    let behind := ((r.find? name).map (·.behind)).getD []
    let r := r.update name fun i => { i with done := true }
    let (ready, r) := behind.foldl (fun (acc : List String × Relations) b =>
      let r := acc.2.update b fun i => { i with before := i.before - 1 }
      if ((r.find? b).map (·.before)) == some 0 then (b :: acc.1, r) else (acc.1, r)) ([], r)
    serve limit (queue ++ ready.reverse) (name :: shown) r
  | _, _, shown, r => (shown, r)

/-- The names on the way back from a thing up to another one. -/
def wayBack (r : Relations) (last : String) : (limit : Nat) → String → List String
  | 0, name => [name]
  | limit + 1, name =>
    if name == last then [name]
    else
      match (r.find? name).bind (·.link) with
      | some next => name :: r.wayBack last limit next
      | none => [name]

/-- Goes through the things once, on a way back from the place where it stands; gives a circle if one
was closed, with the relation that closes it taken away. -/
def retrace : List String → (at_ : Option String) → Relations →
    Option String × Relations × Option (List String)
  | [], at_, r => (at_, r, none)
  | name :: rest, at_, r =>
    match r.find? name with
    | none => retrace rest at_ r
    | some i =>
      if i.before = 0 then retrace rest at_ r
      else
        match at_ with
        | none => retrace rest (some name) r
        | some here =>
          if !i.behind.contains here then retrace rest at_ r
          else if i.link.isSome then
            let circle := r.wayBack name (List.length r) here
            let r := r.update here fun i => { i with before := i.before - 1 }
            let r := r.update name fun i => { i with behind := i.behind.erase here }
            (none, List.map (fun i => { i with link := none }) r, some circle)
          else retrace rest (some name) (r.update name fun i => { i with link := some here })

/-- Finds a circle and breaks it. -/
def breakCircle : (limit : Nat) → (at_ : Option String) → Relations → List String × Relations
  | 0, _, r => ([], r)
  | limit + 1, at_, r =>
    match retrace (List.map (·.name) r) at_ r with
    | (_, r, some circle) => (circle, r)
    | (at_, r, none) => breakCircle limit at_ r

end Items.Relations

/-- Shows things in an order that keeps all relations; says which circles it had to break. -/
def tsort : Program := fun argv _ => do
  let c ← call (.make "" []) 1 argv
  if let _ :: extra :: _ := c.rest then misuse c.name 1 ("extra operand " ++ quote extra)
  let path := c.rest.head?.getD "-"
  match ← contentOf path with
  | .error e => giveUp c.name 1 (shellQuoteIfNeeded path ++ ": " ++ e.text)
  | .ok text =>
    match Items.Relations.ofWords? (wordsOf text) [] with
    | none => giveUp c.name 1 (shellQuoteIfNeeded path ++ ": input contains an odd number of tokens")
    | some r =>
      let count := r.length
      let rec go : (limit : Nat) → (status : Nat) → Items.Relations → Work Nat
        | 0, status, _ => pure status
        | limit + 1, status, r => do
          let ready := (r.filter fun i => i.before == 0 && !i.done).map (·.name)
          let (shown, r) := Items.Relations.serve (count + 1) ready [] r
          put c.name (String.join (shown.reverse.map ended))
          if r.all (·.done) then pure status
          else
            report c.name (shellQuoteIfNeeded path ++ ": input contains a loop:")
            let (circle, r) := Items.Relations.breakCircle (count * count + 2) none r
            for name in circle do report c.name name
            go limit 1 r
      go ((wordsOf text).length + 1) 0 r

end HardenAudit.Program
