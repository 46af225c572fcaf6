import HardenAudit.Program.Display

/-!
# Parts of files: `head`, `tail`, `tac`
-/

namespace HardenAudit.Program

open Kernel (Refusal Work)

namespace Parts

/-- Whether a part is measured in lines or bytes. -/
inductive Measure where
  | lines
  | bytes
  deriving DecidableEq, Repr, Inhabited

/-- The name of a measure. -/
def Measure.text : Measure → String
  | .lines => "lines"
  | .bytes => "bytes"

/-- Which part of files is shown. -/
structure Portion where
  measure : Measure := .lines
  count : Nat := 10
  /-- Is everything but the last lines or bytes shown, or everything from a place on? -/
  rest : Bool := false
  /-- Is there a heading above each file?  Without an answer there is if there are several files. -/
  headed : Option Bool := none
  /-- What stands at the end of a line. -/
  lineEnd : Char := '\n'
  follow : Bool := false
  deriving Inhabited

/-- The largest count there is. -/
def countLimit : Nat := 0xFFFFFFFFFFFFFFFF

/-- Reads a count, or gives up. -/
def countOf (name : String) (m : Measure) (text : String) : Work Nat := do
  let cs := text.toList.dropWhile isGap
  let wrong {α : Type} (more : String) : Work α :=
    giveUp name 1 ("invalid number of " ++ m.text ++ ": " ++ quote text ++ more)
  match count? (if cs.head? == some '+' then cs.drop 1 else cs) with
  | none => wrong ""
  | some n => if n > countLimit then wrong ": Value too large for defined data type" else pure n

/-- The options that `head` and `tail` share. -/
def options : Options :=
  Options.make "c:n:qvz0123456789" [("bytes", 'c'), ("lines", 'n'), ("quiet", 'q'), ("silent", 'q'),
    ("verbose", 'v'), ("zero-terminated", 'z')]

/-- The portion with one more option of those that `head` and `tail` share; `sign` makes a count one of
the rest. -/
def Portion.withOption (name : String) (sign : Char) (p : Portion) (c : Char) (value : Option String) :
    Work Portion := do
  let counted (m : Measure) : Work Portion := do
    let text := value.getD ""
    let signed := text.toList.head? == some sign
    let bare := if text.toList.head? == some '-' then String.ofList (text.toList.drop 1) else text
    let n ← countOf name m bare
    pure { p with measure := m, count := n, rest := if sign == '+' then p.rest || signed else signed }
  match c with
  | 'c' => counted .bytes
  | 'n' => counted .lines
  | 'q' => pure { p with headed := some false }
  | 'v' => pure { p with headed := some true }
  | 'z' => pure { p with lineEnd := '\x00' }
  | 'f' | 'F' => pure { p with follow := true }
  | _ => pure p

/-- The portion with all options of a call; those behind a wrong one do not count. -/
def withOptions (step : Portion → Char → Option String → Work Portion) (o : Options) (p : Portion)
    (argv : List String) : Work (Portion × Call) := do
  let name := argv.head?.getD ""
  let args := argv.drop 1
  let (c, wrong) := gatherArguments o args.length args
  let p ← c.options.foldlM (fun p (letter, value) => step p letter value) p
  match wrong with
  | some message => misuse name 1 message
  | none => pure (p, { c with name := name })

/-- Goes through files, with a heading above each if there are several. -/
def eachFile (p : Portion) (c : Call) (show_ : (path : String) → (fd : Nat) → Work Nat) : Work Nat := do
  let paths := if c.rest.isEmpty then ["-"] else c.rest
  let headed := p.headed.getD (paths.length > 1)
  let rec go : List String → (first : Bool) → (status : Nat) → Work Nat
    | [], _, status => pure status
    | path :: rest, first, status => do
      let source ← if path = "-" then pure (.ok 0) else Work.ask (.openFile path .input)
      match source with
      | .error e =>
        report c.name ("cannot open " ++ shellQuote path ++ " for reading: " ++ e.text)
        go rest first 1
      | .ok fd =>
        if headed then put c.name ((if first then "" else "\n") ++ "==> "
          ++ (if path = "-" then "standard input" else path) ++ " <==\n")
        let one ← show_ path fd
        if path != "-" then close fd
        go rest false (max status one)
  go paths true 0

/-- Reports that a file cannot be read. -/
def unreadable (name path : String) (e : Refusal) : Work Nat := do
  report name ("error reading " ++ shellQuote (if path = "-" then "standard input" else path) ++ ": "
    ++ e.text)
  pure 1

/-- The first bytes of a descriptor. -/
def firstBytes (name : String) (fd count : Nat) : Work (Except Refusal Unit) :=
  Work.iterate (fun (left : Nat) => do
    if left = 0 then pure (.inr (.ok ()))
    else
      match ← Work.ask (.read fd (min left chunkSize)) with
      | .ok [] => pure (.inr (.ok ()))
      | .ok bytes =>
        put name (Text.Raw.ofBytes bytes)
        pure (.inl (left - bytes.length))
      | .error e => pure (.inr (.error e))) Kernel.endless count

/-- The first lines of a descriptor. -/
def firstLines (name : String) (lineEnd : Char) (fd count : Nat) : Work (Except Refusal Unit) := do
  if count = 0 then pure (.ok ())
  else
    let end_ := lineEnd.toString
    let r ← streamLines name fd count (fun left line isEnded =>
      { state := left - 1, out := if isEnded then line ++ end_ else line, stop := left ≤ 1 }) end_
    pure (r.map fun _ => ())

/-- The lines of a text with their ends. -/
def endedBy (lineEnd : Char) (text : String) : List String :=
  let parts := text.splitOn lineEnd.toString
  parts.dropLast.map (· ++ lineEnd.toString) ++ (parts.getLast?.filter (· != "")).toList

/-- All but the last bytes or lines. -/
def Portion.withoutLast (p : Portion) (text : String) : String :=
  match p.measure with
  | .lines =>
    let all := endedBy p.lineEnd text
    String.join (all.take (all.length - p.count))
  | .bytes => String.ofList (text.toList.take (text.length - p.count))

/-- The last bytes or lines, or all from one on, which are counted from one. -/
def Portion.lastPart (p : Portion) (text : String) : String :=
  match p.measure with
  | .lines =>
    let all := endedBy p.lineEnd text
    String.join (all.drop (if p.rest then p.count - 1 else all.length - p.count))
  | .bytes =>
    String.ofList (text.toList.drop (if p.rest then p.count - 1 else text.length - p.count))

/-- An old count in front of all options of `head`: digits, and letters behind them. -/
def oldHead (name : String) (cs : List Char) : Work Portion := do
  let ds := cs.takeWhile Char.isDigit
  let step (s : Portion × List Char) (letter : Char) : Work (Portion × List Char) := do
    let (p, factor) := s
    match letter with
    | 'c' => pure ({ p with measure := .bytes }, [])
    | 'b' | 'k' | 'm' => pure ({ p with measure := .bytes }, [letter])
    | 'l' => pure ({ p with measure := .lines }, factor)
    | 'q' => pure ({ p with headed := some false }, factor)
    | 'v' => pure ({ p with headed := some true }, factor)
    | 'z' => pure ({ p with lineEnd := '\x00' }, factor)
    | d => misuse name 1 ("invalid trailing option -- " ++ d.toString)
  let (p, factor) ← (cs.drop ds.length).foldlM step ({}, [])
  let n ← countOf name p.measure (String.ofList (ds ++ factor))
  pure { p with count := n }

/-- An old count as the only option of `tail`: a sign, digits, and letters behind them. -/
def oldTail? (argv : List String) : Option (Except String Portion) :=
  let only := match argv with
    | [_, _] => true
    | [_, _, file] => !(file.startsWith "-") || file = "-" || file = "--"
    | [_, _, "--", _] => true
    | _ => false
  if !only then none
  else
    let arg := (argv.drop 1).head?.getD ""
    let read (fromStart : Bool) (cs : List Char) : Option (Except String Portion) :=
      let ds := cs.takeWhile Char.isDigit
      let rest := cs.drop ds.length
      let (p, rest) : Portion × List Char := match rest with
        | 'b' :: rest => ({ measure := .bytes, count := 5120 }, rest)
        | 'c' :: rest => ({ measure := .bytes }, rest)
        | 'l' :: rest => ({}, rest)
        | rest => ({}, rest)
      let (follow, rest) := if rest.head? == some 'f' then (true, rest.drop 1) else (false, rest)
      let factor := if p.count = 10 then 1 else 512
      let n := (Shell.digits 10 ds 0 0).1 * factor
      if !rest.isEmpty then none
      else if n > countLimit then
        some (.error ("invalid number: " ++ quote arg ++ ": Numerical result out of range"))
      else some (.ok { p with
        count := if ds.isEmpty then p.count else n, rest := fromStart, follow := follow })
    match arg.toList with
    | '+' :: cs => read true cs
    | ['-', 'c'] => none
    | '-' :: c :: cs => read false (c :: cs)
    | _ => none

end Parts

open Parts in
/-- Shows the first part of files. -/
def head : Program := fun argv _ => do
  let name := argv.head?.getD ""
  let (p, args) : Portion × List String ← match argv.drop 1 with
    | arg :: rest =>
      match arg.toList with
      | '-' :: c :: cs =>
        if c.isDigit then do
          let p ← oldHead name (c :: cs)
          pure (p, rest)
        else pure ({}, arg :: rest)
      | _ => pure ({}, arg :: rest)
    | [] => pure ({}, [])
  let step (p : Portion) (c : Char) (value : Option String) : Work Portion :=
    if c.isDigit then misuse name 1 ("invalid trailing option -- " ++ c.toString)
    else p.withOption name '-' c value
  let (p, c) ← withOptions step options p (name :: args)
  eachFile p c fun path fd => do
    let r ←
      if p.rest then do
        match ← slurp fd with
        | .error e => pure (.error e)
        | .ok text =>
          put c.name (p.withoutLast text)
          pure (.ok ())
      else
        match p.measure with
        | .lines => firstLines c.name p.lineEnd fd p.count
        | .bytes => firstBytes c.name fd p.count
    match r with
    | .ok _ => pure 0
    | .error e => unreadable c.name path e

open Parts in
/-- Shows the last part of files. -/
def tail : Program := fun argv _ => do
  let name := argv.head?.getD ""
  let o : Options := Options.make "c:n:qvz0123456789fFs:" [("bytes", 'c'), ("lines", 'n'),
    ("quiet", 'q'), ("silent", 'q'), ("verbose", 'v'), ("zero-terminated", 'z'), ("follow", 'f'),
    ("retry", 'F'), ("sleep-interval", 's')]
  let o := { o with names := o.names.map fun n => if n.1 = "follow" then (n.1, 'f', .optional) else n }
  let (p, args) : Portion × List String ← match oldTail? argv with
    | some (.ok p) => pure (p, argv.drop 2)
    | some (.error message) => giveUp name 1 message
    | none => pure ({}, argv.drop 1)
  let step (p : Portion) (c : Char) (value : Option String) : Work Portion :=
    if c.isDigit then giveUp name 1 ("option used in invalid context -- " ++ c.toString)
    else p.withOption name '+' c value
  let (p, c) ← withOptions step o p (name :: args)
  if p.count = 0 && !p.rest && !p.follow then Work.exit 0
  let status ← eachFile p c fun path fd => do
    match ← slurp fd with
    | .error e => unreadable c.name path e
    | .ok text =>
      put c.name (p.lastPart text)
      pure 0
  if p.follow then
    Work.ask .rest
  pure status

/-- Shows the lines of files from the last to the first; another text than an end of line may divide
them. -/
def tac : Program := fun argv _ => do
  let c ← call (.make "brs:" [("before", 'b'), ("regex", 'r'), ("separator", 's')]) 1 argv
  if c.has 'r' && c.value? 's' == some "" then giveUp c.name 1 "separator cannot be empty"
  let divider := match c.value? 's' with
    | some "" => "\x00"
    | some s => s
    | none => "\n"
  eachOf (if c.rest.isEmpty then ["-"] else c.rest) fun path => do
    match ← contentOf path with
    | .error e =>
      let shown := if path = "-" then "standard input" else path
      if e == .file .isDirectory then
        report c.name (shellQuoteIfNeeded shown ++ ": read error: Invalid argument")
      else report c.name ("failed to open " ++ shellQuote path ++ " for reading: " ++ e.text)
      pure 1
    | .ok text =>
      /- The text is divided from its end on. -/
      let backwards (s : String) : String := String.ofList s.toList.reverse
      let parts := ((backwards text).splitOn (backwards divider)).map backwards
      match parts with
      | [] => pure 0
      | last :: before =>
        if c.has 'b' then
          let divided := (last :: before.dropLast).map (divider ++ ·)
          put c.name (if before.isEmpty then last
            else String.join divided ++ (before.getLast?.getD ""))
        else put c.name (last ++ String.join (before.map (· ++ divider)))
        pure 0

end HardenAudit.Program
