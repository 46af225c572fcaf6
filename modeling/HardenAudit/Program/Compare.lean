import HardenAudit.Program.Display

/-!
# Comparing files byte by byte: `cmp`
-/

namespace HardenAudit.Program

open Kernel (Refusal Status Work)

/-- The first place where two texts differ: its number and that of its line; none if one text starts
with the other. -/
def difference? : (byte line : Nat) → List Char → List Char → Option (Nat × Nat)
  | byte, line, a :: as, b :: bs =>
    if a == b then difference? (byte + 1) (if a == '\n' then line + 1 else line) as bs
    else some (byte, line)
  | _, _, _, _ => none

/-- Three octal digits, with blanks for zeros. -/
def octalColumn (c : Char) : String := rightAligned 3 (Shell.inBase 8 c.toNat)

/-- A byte as it is shown beside its number. -/
def shownByte (c : Char) : String := String.ofList (CatStyle.char { tabs := true, unprintable := true } c)

/-- What `cmp` tells of two files. -/
inductive Told where
  | first
  | all
  | nothing
  deriving DecidableEq, Repr, Inhabited

/-- How `cmp` compares two files: what it tells, whether it shows bytes, how many bytes it leaves out at
the start of each file, and how many it compares. -/
structure ByteCompare where
  telling : Told := .first
  bytes : Bool := false
  skips : Nat × Nat := (0, 0)
  limit : Option Nat := none
  deriving Inhabited

namespace ByteCompare

/-- A number of bytes to leave out, from the start of a text on, and the rest. -/
def skip? (divided : Bool) (text : String) : Option (Nat × List Char) :=
  let cs := text.toList
  let word := if divided then cs.takeWhile (· != ':') else cs
  (count? word).map fun n => (n, cs.drop word.length)

/-- The comparison with one more option, or what is wrong with that. -/
def withOption (b : ByteCompare) (c : Char) (value : Option String) : Except String ByteCompare :=
  let text := value.getD ""
  let told (t : Told) : Except String ByteCompare :=
    if b.telling != .first && b.telling != t then .error "options -l and -s are incompatible"
    else .ok { b with telling := t }
  let invalid (text : String) : Except String ByteCompare :=
    .error ("invalid --ignore-initial value '" ++ text ++ "'")
  match c with
  | 'b' | 'c' => .ok { b with bytes := true }
  | 'l' => told .all
  | 's' => told .nothing
  | 'i' =>
    match skip? true text with
    | some (n, ':' :: rest) =>
      match skip? false (String.ofList rest) with
      | some (k, _) => .ok { b with skips := (max b.skips.1 n, max b.skips.2 k) }
      | none => invalid (String.ofList rest)
    | some (n, _) =>
      let first := max b.skips.1 n
      .ok { b with skips := (first, max b.skips.2 first) }
    | none => invalid text
  | 'n' =>
    match count? text.toList with
    | some n => .ok { b with limit := some (min n (b.limit.getD n)) }
    | none => .error ("invalid --bytes value '" ++ text ++ "'")
  | _ => .ok b

end ByteCompare

/-- Compares two files byte by byte. -/
def cmp : Program := fun argv _ => do
  let name := argv.head?.getD ""
  let o := Options.make "bci:ln:s"
    [("print-bytes", 'b'), ("verbose", 'l'), ("quiet", 's'), ("silent", 's'), ("bytes", 'n'),
     ("ignore-initial", 'i')]
  let wrong {α : Type} (message : String) : Work α := do
    report name message
    report name ("Try '" ++ name ++ " --help' for more information.")
    Work.exit 2
  let args := argv.drop 1
  let (c, mistake) := gatherArguments o args.length args
  let how ← match c.options.foldlM (fun (b : ByteCompare) o => b.withOption o.1 o.2) {} with
    | .ok b => pure b
    | .error message => wrong message
  if let some message := mistake then wrong message
  let (a, b, skips) ← match c.rest with
    | [] => wrong ("missing operand after '" ++ argv.getLast?.getD name ++ "'")
    | [a] => pure (a, "-", [])
    | a :: b :: skips => pure (a, b, skips)
  let skipOf (text : Option String) (old : Nat) : Work Nat :=
    match text with
    | none => pure old
    | some t =>
      match count? t.toList with
      | some n => pure (max n old)
      | none => wrong ("invalid --ignore-initial value '" ++ t ++ "'")
  let first ← skipOf skips.head? how.skips.1
  let second ← skipOf (skips.drop 1).head? how.skips.2
  if let extra :: _ := skips.drop 2 then wrong ("extra operand '" ++ extra ++ "'")
  let failed {α : Type} (path : String) (e : Refusal) (opening : Bool) : Work α := do
    if !(opening && how.telling == .nothing) then report name (path ++ ": " ++ e.text)
    Work.exit 2
  let opened (path : String) : Work Nat := do
    if path = "-" then pure 0
    else
      match ← Work.ask (.openFile path .input) with
      | .ok fd => pure fd
      | .error e => failed path e true
  let (x, y) ← if b = "-" && a != "-" then do
      let y ← opened b
      pure (← opened a, y)
    else do
      let x ← opened a
      if a == b && first = second then Work.exit 0
      pure (x, ← opened b)
  let status (fd : Nat) : Work (Option Status) := do
    match ← Work.ask (.statusOf fd) with
    | .ok s => pure (some s)
    | .error _ => pure none
  let s ← status x
  let t ← status y
  if first = second && (s.bind fun s => t.map s.same).getD false then Work.exit 0
  let content (path : String) (fd skip : Nat) : Work (List Char) := do
    match ← slurp fd with
    | .ok text => pure (match how.limit with
      | some n => (text.toList.drop skip).take n
      | none => text.toList.drop skip)
    | .error e => failed path e false
  let x ← content a x first
  let y ← content b y second
  if x == y then pure 0
  else if how.telling == .nothing then pure 1
  else
    let shorter := if y.length < x.length then (b, y) else (a, x)
    let ended (withLine : Bool) : Work Unit := do
      let size := shorter.2.length
      let lines := (shorter.2.filter (· == '\n')).length
      let place := if shorter.2.getLast? == some '\n' then ", line " ++ toString lines
        else ", in line " ++ toString (lines + 1)
      report "cmp" ("EOF on " ++ shorter.1 ++ (if size = 0 then " which is empty"
        else " after byte " ++ toString size ++ (if withLine then place else "")))
    if how.telling == .all then
      /- The numbers of bytes are as wide as the size of the shorter file. -/
      let sizeOf (s : Option Status) (skip : Nat) : Option Nat :=
        (s.filter (·.kind == .file)).map fun s => s.size - skip
      let known := how.limit.toList ++ (sizeOf s first).toList ++ (sizeOf t second).toList
      let width := match known with
        | n :: more => (toString (more.foldl min n)).length
        | [] => 19
      let all := (List.range (min x.length y.length)).zip (x.zip y)
      put name (String.join ((all.filter fun p => p.2.1 != p.2.2).map fun (i, p, q) =>
        rightAligned width (toString (i + 1)) ++ " " ++ octalColumn p ++ " "
          ++ (if how.bytes then
              let shown := shownByte p
              shown ++ String.ofList (List.replicate (4 - shown.length) ' ') ++ " "
            else "")
          ++ octalColumn q ++ (if how.bytes then " " ++ shownByte q else "") ++ "\n"))
      if x.length != y.length then ended false
      pure 1
    else
      match difference? 1 1 x y with
      | some (byte, line) =>
        let bytes := match x[byte - 1]?, y[byte - 1]? with
          | some p, some q => " is " ++ octalColumn p ++ " " ++ shownByte p ++ " " ++ octalColumn q
            ++ " " ++ shownByte q
          | _, _ => ""
        put name (a ++ " " ++ b ++ " differ: " ++ (if how.bytes then "byte " else "char ")
          ++ toString byte ++ ", line " ++ toString line ++ (if how.bytes then bytes else "") ++ "\n")
        pure 1
      | none =>
        ended true
        pure 1

end HardenAudit.Program
