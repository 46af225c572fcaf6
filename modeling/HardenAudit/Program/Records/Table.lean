import Std.Data.HashMap
import HardenAudit.Program.Records.Value

/-!
# Tables of values

An array of a script is a table whose keys are texts.  The order in which a loop goes through the keys
can be seen, and follows from how the keys are kept: in rows, by a code of their texts, with the key
that was asked for last in front of its row.  Keys that have only been used as numbers are kept in
rows of their own, and join the others when the first key is used as a text.
-/

namespace HardenAudit.Program.Records

/-- A key: a text, or an integer that stands for its digits. -/
inductive Key where
  | text (s : String)
  | number (n : Int)
  deriving Repr, Inhabited

namespace Key

/-- The text of a key. -/
def toText : Key → String
  | text s => s
  | number n => toString n

end Key

/-- The code of a text, which tells its row. -/
def codeOf (s : String) : Nat :=
  (s.toList.foldl (fun (h : UInt32) c => (h ^^^ c.val) * 16777619) 2166136261).toNat

/-- Rows at first. -/
def firstRows : Nat := 64

/-- Keys in a row on the average, beyond which the rows are doubled. -/
def rowLimit : Nat := 12

/-- A table. -/
structure Table where
  values : Std.HashMap String Value := {}
  /-- Rows of keys by their texts, and of keys that were used as numbers. -/
  texts : Array (List String) := Array.replicate firstRows []
  numbers : Array (List Int) := Array.replicate firstRows []
  /-- Are all keys among those by their texts? -/
  joined : Bool := false
  /-- Are the keys simply the numbers from one on?  Then there are no rows yet. -/
  counted : Bool := false
  deriving Inhabited

namespace Table

/-- The table without keys. -/
def empty : Table := {}

/-- How many keys there are. -/
def size (t : Table) : Nat := t.values.size

/-- The value of a key. -/
def get? (t : Table) (k : Key) : Option Value := t.values[k.toText]?

/-- The row of a number. -/
def rowOf (rows : Nat) (n : Int) : Nat := (n % (rows : Int)).toNat

/-- A table of values with the keys from one on. -/
def ofList (vs : List Value) : Table :=
  { values := (vs.zipIdx.map fun (v, i) => (toString (i + 1), v)).foldl
      (fun m e => m.insert e.1 e.2) {}
    counted := true }

/-- Rows for so many keys, from a number of rows on; each round doubles them, so `limit` may be any
number of rounds that is enough. -/
def rowsFor (size : Nat) : (limit : Nat) → Nat → Nat
  | 0, rows => rows
  | limit + 1, rows => if size > rows * rowLimit then rowsFor size limit (2 * rows) else rows

/-- The table with rows. -/
def withRows (t : Table) : Table :=
  if !t.counted then t
  else
    let rows := rowsFor t.size 64 firstRows
    let numbers := (List.range t.size).foldl (fun (a : Array (List Int)) i =>
      a.modify ((i + 1) % rows) (((i + 1 : Nat) : Int) :: ·)) (Array.replicate rows [])
    { t with texts := Array.replicate rows [], numbers := numbers, joined := false, counted := false }

/-- The table with all keys among those by their texts. -/
def join (t : Table) : Table :=
  let t := t.withRows
  if t.joined then t
  else
    let rows := t.texts.size
    let known := t.texts.foldl (fun (m : Std.HashMap String Unit) row =>
      row.foldl (fun m k => m.insert k ()) m) {}
    let texts := t.numbers.foldl (fun (a : Array (List String)) row =>
      row.foldl (fun a n =>
        let k := toString n
        if known.contains k then a else a.modify (codeOf k % rows) (k :: ·)) a) t.texts
    { t with texts := texts, joined := true }

/-- Doubles the rows, if there are too many keys. -/
def grow (t : Table) : Table :=
  let old := t.texts.size
  if t.size ≤ old * rowLimit then t
  else
    let rows := 2 * old
    let texts := t.texts.foldl (fun (a : Array (List String)) row =>
      row.reverse.foldl (fun a k => a.modify (codeOf k % rows) (k :: ·)) a) (Array.replicate rows [])
    let numbers := t.numbers.foldl (fun (a : Array (List Int)) row =>
      row.reverse.foldl (fun a n => a.modify (rowOf rows n) (n :: ·)) a) (Array.replicate rows [])
    { t with texts := texts, numbers := numbers }

/-- Puts a key in front of its row of texts. -/
def bringText (t : Table) (k : String) : Table :=
  let t := t.join
  { t with texts := t.texts.modify (codeOf k % t.texts.size) fun row =>
      if row.head? == some k then row else k :: row.filter (· != k) }

/-- Notes that a key was asked for; it is there, or is about to be. -/
def bring (t : Table) (k : Key) : Table :=
  match k with
  | .text s => t.bringText s
  | .number n =>
    if t.counted && 1 ≤ n && n ≤ t.size then t
    else
      let t := t.withRows
      let row := rowOf t.numbers.size n
      let known := (t.numbers[row]?.getD []).contains n
      let t := if !known && t.joined then t.bringText (toString n) else t
      { t with numbers := t.numbers.modify row fun r =>
          if r.head? == some n then r else n :: r.filter (· != n) }

/-- The table after a key was looked for, which may not be there. -/
def touch (t : Table) (k : Key) : Table :=
  if (t.get? k).isSome then t.bring k
  else
    match k with
    | .text _ => t.join
    | .number n => if t.counted && 1 ≤ n && n ≤ t.size then t else t

/-- The table with a value for a key. -/
def insert (t : Table) (k : Key) (v : Value) : Table :=
  let text := k.toText
  if t.values.contains text then
    let t := t.bring k
    { t with values := t.values.insert text v }
  else
    let t := (t.withRows).bring k
    ({ t with values := t.values.insert text v } : Table).grow

/-- The value of a key, which is there afterwards. -/
def demand (t : Table) (k : Key) : Value × Table :=
  match t.get? k with
  | some v => (v, t.bring k)
  | none => (.nothing, t.insert k .nothing)

/-- The table without a key. -/
def erase (t : Table) (k : Key) : Table :=
  let text := k.toText
  if !t.values.contains text then t.touch k
  else if t.size ≤ 1 then empty
  else
    let t := t.withRows
    let t := match k with
      | .text _ => t.join
      | .number _ => t
    let number := text.toInt?.filter fun n => toString n == text
    { t with
      values := t.values.erase text
      texts := t.texts.modify (codeOf text % t.texts.size) (·.filter (· != text))
      numbers := match number with
        | some n => t.numbers.modify (rowOf t.numbers.size n) (·.filter (· != n))
        | none => t.numbers }

/-- The keys, in the order in which a loop goes through them, and the table afterwards. -/
def keys (t : Table) : List String × Table :=
  let t := t.join
  (t.texts.toList.flatten, t)

end Table
end HardenAudit.Program.Records
