/-!
# Arrays

Lists with gaps, by number, and tables by text.  The entries of a table stand in the order of their
places among 1024; of several at one place the newest is first.
-/

namespace HardenAudit.ExtendedShell

/-- Elements with ascending numbers. -/
structure Sparse where
  entries : Array (Nat × String) := #[]
  deriving Repr, Inhabited

namespace Sparse

/-- Where a number stands or would stand, between two places; each round halves the distance, so `limit`
may be the number of binary digits of the size. -/
def placeFrom (entries : Array (Nat × String)) (n : Nat) : (limit low high : Nat) → Nat
  | 0, low, _ => low
  | limit + 1, low, high =>
    if low ≥ high then low
    else
      let middle := (low + high) / 2
      match entries[middle]? with
      | some (k, _) => if k < n then placeFrom entries n limit (middle + 1) high
        else placeFrom entries n limit low middle
      | none => low

/-- Where a number stands or would stand. -/
def place (s : Sparse) (n : Nat) : Nat := placeFrom s.entries n 64 0 s.entries.size

/-- The element with a number. -/
def get? (s : Sparse) (n : Nat) : Option String :=
  match s.entries[s.place n]? with
  | some (k, v) => if k = n then some v else none
  | none => none

/-- The elements with one of them changed or added. -/
def insert (s : Sparse) (n : Nat) (v : String) : Sparse :=
  let i := s.place n
  match s.entries[i]? with
  | none => ⟨s.entries.push (n, v)⟩
  | some (k, _) =>
    if k = n then ⟨s.entries.setIfInBounds i (n, v)⟩
    else ⟨s.entries.extract 0 i ++ #[(n, v)] ++ s.entries.extract i s.entries.size⟩

/-- The elements without one of them. -/
def erase (s : Sparse) (n : Nat) : Sparse := ⟨s.entries.filter (·.1 != n)⟩

/-- The number after the last one. -/
def next (s : Sparse) : Nat := (s.entries.back?.map (·.1 + 1)).getD 0

/-- Elements that are numbered from zero on. -/
def ofList (vs : List String) : Sparse := ⟨(vs.zipIdx.map fun e => (e.2, e.1)).toArray⟩

/-- The values in order. -/
def values (s : Sparse) : List String := (s.entries.map (·.2)).toList

/-- The numbers in order. -/
def keys (s : Sparse) : List Nat := (s.entries.map (·.1)).toList

end Sparse

/-- An entry of a table, with its place. -/
structure Entry where
  place : Nat
  key : String
  value : String
  deriving Repr, Inhabited

/-- Entries by text. -/
structure Keyed where
  entries : List Entry := []
  deriving Repr, Inhabited

namespace Keyed

/-- The place of a text. -/
def placeOf (key : String) : Nat :=
  let step (n : Nat) (c : Char) : Nat :=
    let code := c.toNat % 256
    let code := if code < 128 then code else code + 0xFFFFFF00
    Nat.xor ((n * 16777619) % 0x100000000) code
  (key.toList.foldl step 2166136261) % 1024

/-- The value for a text. -/
def get? (t : Keyed) (key : String) : Option String := (t.entries.find? (·.key == key)).map (·.value)

/-- The table with an entry changed or added. -/
def insert (t : Keyed) (key value : String) : Keyed :=
  if t.entries.any (·.key == key) then
    ⟨t.entries.map fun e => if e.key == key then { e with value := value } else e⟩
  else
    let place := placeOf key
    let before := t.entries.takeWhile (·.place < place)
    ⟨before ++ ⟨place, key, value⟩ :: t.entries.drop before.length⟩

/-- The table without an entry. -/
def erase (t : Keyed) (key : String) : Keyed := ⟨t.entries.filter (·.key != key)⟩

/-- The keys in order. -/
def keys (t : Keyed) : List String := t.entries.map (·.key)

/-- The values in order. -/
def values (t : Keyed) : List String := t.entries.map (·.value)

end Keyed
end HardenAudit.ExtendedShell
