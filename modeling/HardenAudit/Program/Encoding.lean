import HardenAudit.Program.Display

/-!
# Bytes as letters: `base64`, `base32`

Each letter stands for a few bits.  Letters come in groups that stand for whole bytes; the last
group is filled up with equals signs.
-/

namespace HardenAudit.Program

open Kernel (Work)
open Text (Bytes)

/-- A way to write bytes with letters. -/
structure Alphabet where
  letters : String
  /-- The bits that a letter stands for. -/
  bits : Nat
  /-- The letters of a group. -/
  group : Nat

namespace Alphabet

def sixtyFour : Alphabet :=
  ⟨"ABCDEFGHIJKLMNOPQRSTUVWXYZabcdefghijklmnopqrstuvwxyz0123456789+/", 6, 4⟩

def thirtyTwo : Alphabet := ⟨"ABCDEFGHIJKLMNOPQRSTUVWXYZ234567", 5, 8⟩

/-- The bytes of a group. -/
def bytes (a : Alphabet) : Nat := a.group * a.bits / 8

/-- The letter of a value. -/
def letter (a : Alphabet) (n : Nat) : Char := (a.letters.toList[n]?).getD '='

/-- The value of a letter. -/
def value? (a : Alphabet) (c : Char) : Option Nat := a.letters.toList.findIdx? (· == c)

/-- The letters of the bytes of a group. -/
def encodeGroup (a : Alphabet) (bytes : Bytes) : List Char :=
  let n := bytes.foldl (fun n b => n * 256 + b.toNat) 0 * Nat.pow 256 (a.bytes - bytes.length)
  let used := (bytes.length * 8 + a.bits - 1) / a.bits
  (List.range a.group).map fun i =>
    if i < used then
      a.letter (n / Nat.pow 2 (a.bits * (a.group - 1 - i)) % Nat.pow 2 a.bits)
    else '='

/-- The letters of some bytes. -/
def encode (a : Alphabet) (bytes : Bytes) : List Char :=
  (rowsOf a.bytes bytes.length bytes).flatMap a.encodeGroup

/-- The bytes of a group of letters, as many as can be told, and whether the group is right. -/
def decodeGroup (a : Alphabet) (cs : List Char) : Bytes × Bool :=
  let values := (cs.map a.value?).takeWhile Option.isSome |>.filterMap id
  let known := values.length
  let count := known * a.bits / 8
  let n := values.foldl (fun n v => n * Nat.pow 2 a.bits + v) 0
  let spare := known * a.bits - count * 8
  let bytes := (List.range count).map fun i =>
    (n / Nat.pow 2 (spare + 8 * (count - 1 - i)) % 256).toUInt8
  let isFilled := cs.length == a.group && (cs.drop known).all (· == '=')
  (bytes, known == a.group || (isFilled && count > 0 && spare < a.bits))

/-- The bytes of some letters up to the first group that is not right, and whether there is none. -/
def decodeGroups (a : Alphabet) : List (List Char) → List Bytes → Bytes × Bool
  | [], done => (done.reverse.flatten, true)
  | g :: rest, done =>
    let (bytes, right) := a.decodeGroup g
    if right then a.decodeGroups rest (bytes :: done) else ((bytes :: done).reverse.flatten, false)

/-- The bytes of some letters in lines; others may be left out. -/
def decode (a : Alphabet) (lenient : Bool) (cs : List Char) : Bytes × Bool :=
  let cs := cs.filter fun c => c != '\n' && (!lenient || c == '=' || (a.value? c).isSome)
  a.decodeGroups (rowsOf a.group cs.length cs) []

end Alphabet

/-- Writes a file with letters, or reads it back. -/
def encodingProgram (a : Alphabet) : Program := fun argv _ => do
  let c ← call (.make "diw:" [("decode", 'd'), ("ignore-garbage", 'i'), ("wrap", 'w')]) 1 argv
  let width ← match c.value? 'w' with
    | none => pure 76
    | some text =>
      match Shell.plainNumber? text with
      | some n => pure n
      | none => giveUp c.name 1 ("invalid wrap size: " ++ quote text)
  if let _ :: extra :: _ := c.rest then misuse c.name 1 ("extra operand " ++ quote extra)
  let path := c.rest.head?.getD "-"
  match ← contentOf path with
  | .error e =>
    giveUp c.name 1 ((if e == .file .isDirectory then "read error" else shellQuoteIfNeeded path)
      ++ ": " ++ e.text)
  | .ok text =>
    if c.has 'd' then
      let (bytes, right) := a.decode (c.has 'i') text.toList
      put c.name (Text.Raw.ofBytes bytes)
      if !right then giveUp c.name 1 "invalid input"
      pure 0
    else
      let letters := a.encode (Text.Raw.toBytes text)
      if width = 0 then put c.name (String.ofList letters)
      else
        put c.name (String.join ((rowsOf width letters.length letters).map
          fun row => ended (String.ofList row)))
      pure 0

end HardenAudit.Program
