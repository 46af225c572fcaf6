import HardenAudit.Program.Digest
import HardenAudit.Program.Display

/-!
# Digests of files, and lists of them: `md5sum`, `sha256sum`, `cksum`, `sum`
-/

namespace HardenAudit.Program

open Kernel (Work)
open Text (Bytes)

/-- A kind of digest. -/
structure DigestKind where
  /-- The name in lines that tell it. -/
  title : String
  /-- The number of digits. -/
  digits : Nat
  digest : Bytes → String

namespace DigestKind

def md5 : DigestKind := ⟨"MD5", 32, Digest.md5⟩

def sha1 : DigestKind := ⟨"SHA1", 40, Digest.sha1⟩

def sha224 : DigestKind := ⟨"SHA224", 56, Digest.sha224⟩

def sha256 : DigestKind := ⟨"SHA256", 64, Digest.sha256⟩

def sha384 : DigestKind := ⟨"SHA384", 96, Digest.sha384⟩

def sha512 : DigestKind := ⟨"SHA512", 128, Digest.sha512⟩

/-- The digest of the content of a file. -/
def ofText (k : DigestKind) (text : String) : String := k.digest (Text.Raw.toBytes text)

end DigestKind

/-! ## Lines -/

/-- Must a name be written with escapes, because it would break its line? -/
def breaksLine (name : String) : Bool := name.toList.any fun c => c == '\\' || c == '\n' || c == '\r'

/-- A name with escapes. -/
def escapedName (name : String) : String :=
  String.ofList (name.toList.flatMap fun c => match c with
    | '\\' => ['\\', '\\']
    | '\n' => ['\\', 'n']
    | '\r' => ['\\', 'r']
    | c => [c])

/-- A name without escapes, if they are right. -/
def unescapedName? : List Char → Option (List Char)
  | [] => some []
  | '\\' :: '\\' :: rest => (unescapedName? rest).map ('\\' :: ·)
  | '\\' :: 'n' :: rest => (unescapedName? rest).map ('\n' :: ·)
  | '\\' :: 'r' :: rest => (unescapedName? rest).map ('\r' :: ·)
  | '\\' :: _ => none
  | c :: rest => (unescapedName? rest).map (c :: ·)

/-- The line of a file in a list of digests. -/
def DigestKind.line (k : DigestKind) (titled binary zero : Bool) (name digest : String) : String :=
  let breaks := !zero && breaksLine name
  let shown := if breaks then escapedName name else name
  (if breaks then "\\" else "")
    ++ (if titled then k.title ++ " (" ++ shown ++ ") = " ++ digest
      else digest ++ (if binary then " *" else "  ") ++ shown)
    ++ (if zero then "\x00" else "\n")

/-- The digest, in small letters, and the name in a line of a list. -/
def DigestKind.read? (k : DigestKind) (line : String) : Option (String × String) := do
  let cs := line.toList.dropWhile fun c => c == ' ' || c == '\t'
  let (hasEscapes, cs) := match cs with
    | '\\' :: rest => (true, rest)
    | cs => (false, cs)
  let isDigest (ds : List Char) : Bool :=
    ds.length == k.digits && ds.all fun c => (Shell.digitValue? 16 c).isSome
  let named (name : List Char) : Option String :=
    if hasEscapes then (unescapedName? name).map String.ofList else some (String.ofList name)
  let low (ds : List Char) : String := String.ofList (ds.map Char.toLower)
  let start := (k.title ++ " (").toList
  if start.isPrefixOf cs then
    let rest := cs.drop start.length
    let digest := rest.drop (rest.length - k.digits)
    let before := rest.take (rest.length - k.digits)
    let close := ") = ".toList
    if isDigest digest && close.isSuffixOf before then
      let name ← named (before.take (before.length - close.length))
      some (low digest, name)
    else none
  else
    let digest := cs.take k.digits
    match cs.drop k.digits with
    | ' ' :: mark :: name =>
      if isDigest digest && (mark == ' ' || mark == '*') && !name.isEmpty then
        let name ← named name
        some (low digest, name)
      else none
    | _ => none

/-! ## Checking -/

/-- What came of checking a list. -/
structure Checks where
  right : Nat := 0
  wrong : Nat := 0
  unread : Nat := 0
  misformed : Nat := 0
  missing : Nat := 0
  deriving Inhabited

/-- Checks a line of a list. -/
def checkLine (k : DigestKind) (c : Call) (listName : String) (number : Nat) (line : String)
    (n : Checks) : Work Checks := do
  let line := if line.endsWith "\r" then String.ofList line.toList.dropLast else line
  if line = "" || line.startsWith "#" then pure n
  else
    match k.read? line with
    | none =>
      if c.has 'w' then
        report c.name (shellQuoteIfNeeded listName ++ ": " ++ toString number
          ++ ": improperly formatted " ++ k.title ++ " checksum line")
      pure { n with misformed := n.misformed + 1 }
    | some (digest, name) =>
      let shown := (if breaksLine name then "\\" ++ escapedName name else name)
      let told (silent : Bool) (text : String) : Work Unit := do
        if !c.has 's' && !silent then put c.name (shown ++ ": " ++ text ++ "\n")
      match ← contentOf name with
      | .error e =>
        if c.has 'i' && e == .notFound then pure { n with missing := n.missing + 1 }
        else
          report c.name (shellQuoteIfNeeded name ++ ": " ++ e.text)
          told false "FAILED open or read"
          pure { n with unread := n.unread + 1 }
      | .ok text =>
        if k.ofText text == digest then
          told (c.has 'q') "OK"
          pure { n with right := n.right + 1 }
        else
          told false "FAILED"
          pure { n with wrong := n.wrong + 1 }

/-- Checks the files that a list names. -/
def checkList (k : DigestKind) (c : Call) (path : String) : Work Nat := do
  let listName := if path = "-" then "standard input" else path
  match ← contentOf path with
  | .error e =>
    report c.name (shellQuoteIfNeeded path ++ ": " ++ e.text)
    pure 1
  | .ok text =>
    let rec go : (number : Nat) → List String → Checks → Work Checks
      | _, [], n => pure n
      | number, line :: rest, n => do
        go (number + 1) rest (← checkLine k c listName number line n)
    let n ← go 1 (linesOf text).1 {}
    let found := n.right + n.wrong + n.unread + n.missing
    if found = 0 then
      report c.name (shellQuoteIfNeeded listName ++ ": no properly formatted checksum lines found")
      pure 1
    else
      let warn (count : Nat) (one several : String) : Work Unit := do
        if count > 0 && !c.has 's' then
          report c.name ("WARNING: " ++ toString count ++ (if count = 1 then one else several))
      warn n.misformed " line is improperly formatted" " lines are improperly formatted"
      warn n.unread " listed file could not be read" " listed files could not be read"
      warn n.wrong " computed checksum did NOT match" " computed checksums did NOT match"
      if c.has 'i' && n.right + n.wrong = 0 then
        if !c.has 's' then report c.name (shellQuoteIfNeeded listName ++ ": no file was verified")
        pure 1
      else if n.wrong + n.unread > 0 || (c.has 'S' && n.misformed > 0) then pure 1
      else pure 0

/-! ## Programs -/

/-- Shows the digests of files. -/
def showDigests (k : DigestKind) (c : Call) (titled : Bool) : Work Nat :=
  eachOf (if c.rest.isEmpty then ["-"] else c.rest) fun path => do
    match ← contentOf path with
    | .error e =>
      report c.name (shellQuoteIfNeeded path ++ ": " ++ e.text)
      pure 1
    | .ok text =>
      put c.name (k.line titled (c.last? ['b', 't'] == some 'b') (c.has 'z') path (k.ofText text))
      pure 0

/-- Shows or checks digests of one kind. -/
def digestProgram (k : DigestKind) : Program := fun argv _ => do
  let o := Options.make "bctwz"
    [("binary", 'b'), ("check", 'c'), ("text", 't'), ("warn", 'w'), ("zero", 'z')]
  let o := { o with names := o.names ++
    [("tag", 'T', .nothing), ("quiet", 'q', .nothing), ("status", 's', .nothing),
     ("strict", 'S', .nothing), ("ignore-missing", 'i', .nothing)] }
  let c ← call o 1 argv
  let wrong (message : String) : Work Unit := misuse c.name 1 message
  if c.has 'T' && c.last? ['b', 't'] == some 't' then wrong "--tag does not support --text mode"
  if c.has 'c' then
    if c.has 'z' then wrong "the --zero option is not supported when verifying checksums"
    if c.has 'T' then wrong "the --tag option is meaningless when verifying checksums"
    if c.has 'b' || c.has 't' then
      wrong "the --binary and --text options are meaningless when verifying checksums"
    eachOf (if c.rest.isEmpty then ["-"] else c.rest) (checkList k c)
  else
    for (letter, name) in [('i', "ignore-missing"), ('s', "status"), ('w', "warn"), ('q', "quiet"),
        ('S', "strict")] do
      if c.has letter then
        wrong ("the --" ++ name ++ " option is meaningful only when verifying checksums")
    showDigests k c (c.has 'T')

/-- Shows a sum for each file, with its size in some unit. -/
def showSums (c : Call) (line : Bytes → String) : Work Nat :=
  eachOf (if c.rest.isEmpty then ["-"] else c.rest) fun path => do
    match ← contentOf path with
    | .error e =>
      report c.name (shellQuoteIfNeeded path ++ ": " ++ e.text)
      pure 1
    | .ok text =>
      put c.name (line (Text.Raw.toBytes text) ++ (if c.rest.isEmpty then "" else " " ++ path) ++ "\n")
      pure 0

/-- A remainder with the number of bytes. -/
def crcLine (bytes : Bytes) : String := toString (Digest.crc bytes) ++ " " ++ toString bytes.length

/-- A turned sum with the number of blocks. -/
def turnedLine (bytes : Bytes) : String :=
  let digits := toString (Digest.turnedSum bytes)
  String.ofList (List.replicate (5 - digits.length) '0') ++ digits ++ " "
    ++ rightAligned 5 (toString ((bytes.length + 1023) / 1024))

/-- A folded sum with the number of blocks. -/
def foldedLine (bytes : Bytes) : String :=
  toString (Digest.foldedSum bytes) ++ " " ++ toString ((bytes.length + 511) / 512)

/-- Shows remainders, or digests of a chosen kind. -/
def cksum : Program := fun argv _ => do
  let o := Options.make "a:" [("algorithm", 'a')]
  let o := { o with names := o.names ++ [("untagged", 'U', .nothing), ("tag", 'T', .nothing)] }
  let c ← call o 1 argv
  let digests (k : DigestKind) : Work Nat := showDigests k c (!c.has 'U')
  let chosen ← choose c.name "--algorithm" ((c.value? 'a').getD "crc")
    (["bsd", "sysv", "crc", "md5", "sha1", "sha224", "sha256", "sha384", "sha512", "blake2b",
      "sm3"].map ([·]))
  match chosen with
  | "bsd" => showSums c turnedLine
  | "sysv" => showSums c foldedLine
  | "md5" => digests .md5
  | "sha1" => digests .sha1
  | "sha224" => digests .sha224
  | "sha256" => digests .sha256
  | "sha384" => digests .sha384
  | "sha512" => digests .sha512
  | _ => showSums c crcLine

/-- Shows sums. -/
def blockSum : Program := fun argv _ => do
  let c ← call (.make "rs" [("sysv", 's')]) 1 argv
  showSums c (if c.last? ['r', 's'] == some 's' then foldedLine else turnedLine)

end HardenAudit.Program
