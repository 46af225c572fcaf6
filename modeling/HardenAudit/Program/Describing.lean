import HardenAudit.Program.Files
import HardenAudit.Program.Mode

/-!
# What is known of files: `stat`
-/

namespace HardenAudit.Program

open Kernel (Environment Kind Refusal Status Work)

namespace Describing

/-- A file that is described: the name it was given by, what is known of it, and what it links to. -/
structure Subject where
  name : String
  status : Status
  target : Option String := none
  deriving Inhabited

/-- The kind of a file in words. -/
def kindText (s : Status) : String :=
  match s.kind with
  | .file => if s.size = 0 then "regular empty file" else "regular file"
  | .directory => "directory"
  | .device => "character special file"
  | .pipe => "fifo"
  | .link => "symbolic link"

/-- The bits that stand for a kind of file in its mode. -/
def kindBits : Kind → Nat
  | .file => 0o100000
  | .directory => 0o040000
  | .device => 0o020000
  | .pipe => 0o010000
  | .link => 0o120000

/-- Blocks of 512 bytes that a file takes up. -/
def blocks (s : Status) : Nat :=
  match s.kind with
  | .file => (s.size + 4095) / 4096 * 8
  | .directory => 8
  | _ => 0

/-- What a letter of a format stands for, and whether it is a number. -/
def part? (f : Subject) (c : Char) : Option (String × Bool) :=
  let s := f.status
  let number (n : Nat) : Option (String × Bool) := some (toString n, true)
  match c with
  | 'n' => some (f.name, false)
  | 'N' =>
    some (shellQuote f.name ++ (match f.target with
      | some t => " -> " ++ shellQuote t
      | none => ""), false)
  | 's' => number s.size
  | 'a' => some (String.ofList (Nat.toDigits 8 s.mode), true)
  | 'A' => some (String.ofList [Mode.kindLetter s.kind] ++ Mode.letters s.mode, false)
  | 'F' => some (kindText s, false)
  | 'f' => some (String.ofList (Nat.toDigits 16 (kindBits s.kind + s.mode)), true)
  | 'h' => number s.links
  | 'u' | 'g' => number (if s.own then 1000 else 0)
  | 'U' | 'G' => some (if s.own then "user" else "root", false)
  | 'b' => number (blocks s)
  | 'B' => number 512
  | 'o' => number 4096
  | 't' | 'T' => number 0
  | 'X' | 'Y' | 'Z' => number (s.changed / 1000000)
  | 'W' => number 0
  | 'w' => some ("-", false)
  | 'm' => some ("/", false)
  | 'C' => some ("?", false)
  | _ => none

/-- A text with blanks or zeros up to a width. -/
def fitted (flags : List Char) (width : Nat) (text : String) (isNumber : Bool) : String :=
  let fill := width - text.length
  if flags.contains '-' then text ++ String.ofList (List.replicate fill ' ')
  else if flags.contains '0' && isNumber then String.ofList (List.replicate fill '0') ++ text
  else String.ofList (List.replicate fill ' ') ++ text

/-- The text of an escape in a format, from the character behind the backslash on, and the rest. -/
def escape (c : Char) (rest : List Char) : String × List Char :=
  let simple (n : Nat) : String × List Char := ((Char.ofNat n).toString, rest)
  match c with
  | 'a' => simple 7
  | 'b' => simple 8
  | 'e' => simple 27
  | 'f' => simple 12
  | 'n' => simple 10
  | 'r' => simple 13
  | 't' => simple 9
  | 'v' => simple 11
  | 'x' =>
    let ds := (rest.take 2).takeWhile fun d => d.isDigit || ('a' ≤ d.toLower && d.toLower ≤ 'f')
    let value := ds.foldl (fun n d =>
      n * 16 + (if d.isDigit then d.toNat - 48 else d.toLower.toNat - 87)) 0
    ((Char.ofNat value).toString, rest.drop ds.length)
  | c =>
    if '0' ≤ c && c ≤ '7' then
      let ds := ((c :: rest).take 3).takeWhile fun d => '0' ≤ d && d ≤ '7'
      let value := ds.foldl (fun n d => n * 8 + (d.toNat - 48)) 0
      ((Char.ofNat (value % 256)).toString, (c :: rest).drop ds.length)
    else (c.toString, rest)

/-- The escapes of a text that mean nothing; each round takes a character, so `limit` may be their
number. -/
def unknownEscapes : (limit : Nat) → List Char → List Char
  | 0, _ => []
  | limit + 1, '\\' :: d :: rest =>
    (if "abefnrtvx\"\\01234567".toList.contains d then [] else [d]) ++ unknownEscapes limit rest
  | limit + 1, _ :: rest => unknownEscapes limit rest
  | _, [] => []

/-- The text of a format, or the directive in it that is none; each round takes a character, so `limit`
may be the length. -/
def formatted (escapes : Bool) (f : Subject) : (limit : Nat) → List Char → Except String String
  | 0, _ => .ok ""
  | _, [] => .ok ""
  | limit + 1, c :: cs =>
    if c == '\\' && escapes then
      match cs with
      | [] => .ok "\\"
      | d :: rest => do
        let (text, rest) := escape d rest
        let more ← formatted escapes f limit rest
        .ok (text ++ more)
    else if c == '%' then
      let flags := cs.takeWhile fun d => "'-+ #0I".toList.contains d
      let rest := cs.drop flags.length
      let width := rest.takeWhile Char.isDigit
      let rest := rest.drop width.length
      let digits := match rest with
        | '.' :: more => '.' :: more.takeWhile Char.isDigit
        | _ => []
      let rest := rest.drop digits.length
      let size := ((String.ofList width).toNat?).getD 0
      match rest with
      | [] => if cs.isEmpty then .ok "%" else .error (String.ofList (c :: cs))
      | '%' :: rest =>
        if !(flags ++ width ++ digits).isEmpty then .error (String.ofList (c :: (cs.take (cs.length - rest.length))))
        else do
          let more ← formatted escapes f limit rest
          .ok ("%" ++ more)
      | d :: rest => do
        let more ← formatted escapes f limit rest
        match part? f d with
        | some (text, isNumber) =>
          let text := match digits with
            | _ :: n => if isNumber then text else
                String.ofList (text.toList.take (((String.ofList n).toNat?).getD 0))
            | [] => text
          .ok (fitted flags size text isNumber ++ more)
        | none => .ok ("?" ++ more)
    else do
      let more ← formatted escapes f limit cs
      .ok (c.toString ++ more)

/-- The description of a file if no format is given. -/
def standardFormat (link : Bool) : String :=
  "  File: " ++ (if link then "%N" else "%n")
    ++ "\n  Size: %-10s\tBlocks: %-10b IO Block: %-6o %F\nDevice: 0,1\tInode: 1           Links: %h\n"
    ++ "Access: (%04a/%10.10A)  Uid: (%5u/%8U)   Gid: (%5g/%8G)\n"

end Describing

/-- The options of `stat`. -/
def statOptions : Options :=
  let o : Options := .make "c:fLt" [("dereference", 'L'), ("file-system", 'f'), ("terse", 't')]
  { o with names := o.names ++ [("format", 'c', .value), ("printf", 'p', .value)] }

open Describing in
/-- Describes files. -/
def stat : Program := fun argv _ => do
  let c ← call statOptions 1 argv
  if c.rest.isEmpty then misuse c.name 1 "missing operand"
  let (format, escapes, last) := match (c.options.filter fun o => o.1 == 'c' || o.1 == 'p').getLast? with
    | some ('p', some text) => (some text, true, "")
    | some (_, some text) => (some text, false, "\n")
    | _ => (none, false, "")
  let rec go : List String → Nat → Work Nat
    | [], status => pure status
    | path :: rest, status => do
      let found ← if path = "-" then Work.ask (.statusOf 0)
        else if c.has 'L' then inspect path else inspectLink path
      match found with
      | .error e =>
        report c.name ("cannot statx " ++ shellQuote path ++ ": " ++ e.text)
        go rest 1
      | .ok s =>
        let target ← if s.kind == .link then do
            pure ((← Work.ask (.readLink path)).toOption)
          else pure none
        let text := format.getD (standardFormat (s.kind == .link))
        match formatted escapes ⟨path, s, target⟩ (text.length + 1) text.toList with
        | .ok shown =>
          if escapes then
            for d in unknownEscapes text.length text.toList do
              report c.name ("warning: unrecognized escape '\\" ++ d.toString ++ "'")
          put c.name (shown ++ last)
          go rest status
        | .error directive => giveUp c.name 1 (quote directive ++ ": invalid directive")
  go c.rest 0

end HardenAudit.Program
