import HardenAudit.Program.Basic

/-!
# Modes as texts

A mode is given as an octal number, or as clauses that say who gets which rights: `u=rw,go+x`.  It is
shown as nine letters.
-/

namespace HardenAudit.Program.Mode

/-- All bits of a mode. -/
def allBits : Nat := 0o7777

/-- The bits of a mode that are not among some others. -/
def without (bits others : Nat) : Nat := bits &&& (allBits ^^^ (others &&& allBits))

/-- What the letters of a change stand for. -/
inductive Source where
  | given
  /-- Executing, for directories and for files that somebody may execute. -/
  | executable
  /-- The rights that a class of users has already. -/
  | existing
  deriving DecidableEq, Repr, Inhabited

/-- One change of a mode. -/
structure Change where
  op : Char
  source : Source := .given
  /-- The bits of those who are meant; none if nobody was named. -/
  affected : Nat
  value : Nat
  /-- The bits that were spelled out. -/
  mentioned : Nat
  deriving Repr, Inhabited

/-- The bits that belong to a class of users. -/
def classBits? : Char → Option Nat
  | 'u' => some 0o4700
  | 'g' => some 0o2070
  | 'o' => some 0o1007
  | 'a' => some allBits
  | _ => none

/-- The bits of the letter of a right. -/
def letterBits? : Char → Option Nat
  | 'r' => some 0o444
  | 'w' => some 0o222
  | 'x' => some 0o111
  | 's' => some 0o6000
  | 't' => some 0o1000
  | 'X' => some 0
  | _ => none

/-- Is the character an operator between classes and rights? -/
def isOperator (c : Char) : Bool := c == '=' || c == '+' || c == '-'

/-- An octal number. -/
def octal? (cs : List Char) : Option Nat :=
  if !cs.isEmpty && cs.all (fun c => '0' ≤ c && c ≤ '7') then
    let n := cs.foldl (fun n c => min (n * 8 + (c.toNat - 48)) 0o10000) 0
    if n > allBits then none else some n
  else none

/-- The changes behind the classes of one clause; each takes an operator, so `limit` may be the number
of characters. -/
def clauseChanges (affected : Nat) : (limit : Nat) → List Char → Option (List Change)
  | _, [] => some []
  | 0, _ => none
  | limit + 1, op :: rest =>
    if !isOperator op then none
    else
      let isOctal (c : Char) : Bool := '0' ≤ c && c ≤ '7'
      let digits := rest.takeWhile isOctal
      let (change, rest) : Option Change × List Char :=
        if !digits.isEmpty then
          (if affected != 0 then none
            else (octal? digits).map fun n => ⟨op, .given, allBits, n, allBits⟩, rest.drop digits.length)
        else
          match rest with
          | 'u' :: rest => (some ⟨op, .existing, affected, 0o700, 0⟩, rest)
          | 'g' :: rest => (some ⟨op, .existing, affected, 0o070, 0⟩, rest)
          | 'o' :: rest => (some ⟨op, .existing, affected, 0o007, 0⟩, rest)
          | _ =>
            let letters := rest.takeWhile fun c => (letterBits? c).isSome
            let value := letters.foldl (fun n c => n ||| (letterBits? c).getD 0) 0
            let source := if letters.contains 'X' then Source.executable else .given
            (some ⟨op, source, affected, value, if affected = 0 then value else affected &&& value⟩,
              rest.drop letters.length)
      match change, clauseChanges affected limit rest with
      | some c, some more => some (c :: more)
      | _, _ => none

/-- The changes of one clause. -/
def clause? (text : String) : Option (List Change) :=
  let cs := text.toList
  let who := cs.takeWhile fun c => (classBits? c).isSome
  let affected := who.foldl (fun n c => n ||| (classBits? c).getD 0) 0
  let rest := cs.drop who.length
  if rest.isEmpty then none else clauseChanges affected rest.length rest

/-- The changes that a text asks for. -/
def parse? (text : String) : Option (List Change) :=
  match text.toList with
  | c :: cs =>
    if '0' ≤ c && c ≤ '7' then
      (octal? (c :: cs)).map fun n =>
        [⟨'=', .given, allBits, n, if cs.length < 4 then n ||| 0o1777 else allBits⟩]
    else
      ((text.splitOn ",").mapM clause?).map List.flatten
  | [] => none

/-- The rights of one class, given to all three. -/
def spread (value : Nat) : Nat :=
  let some_ (bits : Nat) : Nat := if value &&& bits != 0 then bits else 0
  value ||| some_ 0o444 ||| some_ 0o222 ||| some_ 0o111

/-- A mode after one change; nobody was named means everybody, as far as the mask allows. -/
def Change.apply (directory : Bool) (mask : Nat) (mode : Nat) (c : Change) : Nat :=
  let omitted := without (if directory then 0o6000 else 0) c.mentioned
  let value := match c.source with
    | .given => c.value
    | .existing => spread (c.value &&& mode)
    | .executable => if directory || mode &&& 0o111 != 0 then c.value ||| 0o111 else c.value
  let allowed := if c.affected = 0 then without allBits mask else c.affected
  let value := without (value &&& allowed) omitted
  match c.op with
  | '=' =>
    let kept := (if c.affected = 0 then 0 else without allBits c.affected) ||| omitted
    (mode &&& kept) ||| value
  | '+' => mode ||| value
  | _ => without mode value

/-- A mode after changes. -/
def adjust (directory : Bool) (mask : Nat) (mode : Nat) (changes : List Change) : Nat :=
  changes.foldl (Change.apply directory mask) (mode &&& allBits)

/-- The letters of one class. -/
def classText (digit : Nat) (special : Bool) (letter : Char) : List Char :=
  [if digit / 4 % 2 = 1 then 'r' else '-', if digit / 2 % 2 = 1 then 'w' else '-',
   if special then (if digit % 2 = 1 then letter else letter.toUpper)
   else if digit % 2 = 1 then 'x' else '-']

/-- A mode as nine letters. -/
def letters (mode : Nat) : String :=
  String.ofList
    (classText (mode / 64 % 8) (mode / 0o4000 % 2 == 1) 's'
      ++ classText (mode / 8 % 8) (mode / 0o2000 % 2 == 1) 's'
      ++ classText (mode % 8) (mode / 0o1000 % 2 == 1) 't')

/-- A mode as an octal number of four digits. -/
def octalText (mode : Nat) : String :=
  let ds := Nat.toDigits 8 mode
  String.ofList (List.replicate (4 - ds.length) '0' ++ ds)

/-- The letter of a kind of file before its mode. -/
def kindLetter : Kernel.Kind → Char
  | .file => '-'
  | .directory => 'd'
  | .device => 'c'
  | .pipe => 'p'
  | .link => 'l'

end HardenAudit.Program.Mode
