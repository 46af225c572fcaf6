import HardenAudit.Program.Mode

/-!
# Programs that make and remove files
-/

namespace HardenAudit.Program

open Kernel (Change Opening Refusal Status Work)

/-! ## Paths -/

/-- What a path leads to. -/
def inspect (path : String) : Work (Except Refusal Status) := Work.ask (.inspect path)

/-- What a path names, which may be a link. -/
def inspectLink (path : String) : Work (Except Refusal Status) := Work.ask (.inspectLink path)

/-- Does the path lead to a directory? -/
def isDirectory (path : String) : Work Bool := do
  match ← inspect path with
  | .ok s => pure (s.kind == .directory)
  | .error _ => pure false

/-- Carries out a change among the files. -/
def change (c : Change) : Work (Except Refusal Unit) := Work.ask (.change c)

/-- A path without slashes at its end. -/
def trimmed (path : String) : String :=
  let cs := (path.toList.reverse.dropWhile (· == '/')).reverse
  if cs.isEmpty && path != "" then "/" else String.ofList cs

/-- The last component of a path. -/
def lastName (path : String) : String :=
  let cs := (trimmed path).toList
  if cs = ['/'] then "/" else String.ofList (cs.reverse.takeWhile (· != '/')).reverse

/-- A name in a directory. -/
def inside (dir name : String) : String :=
  if dir.endsWith "/" then dir ++ name else dir ++ "/" ++ name

/-- Goes through some things; gives the worst status. -/
def eachOf {α : Type} (all : List α) (act : α → Work Nat) : Work Nat :=
  match all with
  | [] => pure 0
  | a :: rest => do
    let first ← act a
    let others ← eachOf rest act
    pure (max first others)

/-! ## Making and removing -/

/-- The directories on the way to a path, the path itself the last. -/
def waysTo (path : String) : List String :=
  let cs := (trimmed path).toList
  let cuts := (List.range cs.length).filter fun i =>
    i > 0 && cs[i]? == some '/' && cs[i - 1]? != some '/'
  cuts.map (fun i => String.ofList (cs.take i)) ++ [path]

/-- The mode that an option asks for, from a mode that all clauses start with. -/
def modeOption (c : Call) (start : Nat) (directory : Bool) : Work (Option Nat) := do
  match c.value? 'm' with
  | none => pure none
  | some text =>
    match Mode.parse? text with
    | none => giveUp c.name 1 ("invalid mode " ++ quote text)
    | some changes =>
      let mask ← Work.ask (.mask none)
      pure (some (Mode.adjust directory mask (Mode.without start mask) changes))

/-- Makes directories. -/
def mkdir : Program := fun argv _ => do
  let c ← call (.make "pvm:Z" [("parents", 'p'), ("verbose", 'v'), ("mode", 'm')]) 1 argv
  if c.rest.isEmpty then misuse c.name 1 "missing operand"
  let mode ← modeOption c 0o777 true
  let made (path : String) : Work Unit := do
    if c.has 'v' then put c.name (c.name ++ ": created directory " ++ shellQuote path ++ "\n")
  let refused (path : String) (e : Refusal) : Work Nat := do
    report c.name ("cannot create directory " ++ shellQuote path ++ ": " ++ e.text)
    pure 1
  let furnish (path : String) : Work Unit := do
    if let some m := mode then
      let _ ← change (.setMode path m)
    made path
  let rec walk : List String → Work Nat
    | [] => pure 0
    | path :: rest => do
      match ← change (.makeDirectory path 0o777) with
      | .ok _ =>
        if rest.isEmpty then furnish path else made path
        walk rest
      | .error e =>
        if ← isDirectory path then walk rest
        else if e == .file .alreadyExists && !rest.isEmpty then refused path (.file .notDirectory)
        else refused path e
  eachOf c.rest fun path => do
    if c.has 'p' then walk (waysTo path)
    else
      match ← change (.makeDirectory path 0o777) with
      | .ok _ =>
        furnish path
        pure 0
      | .error e => refused path e

/-- Makes pipes with names. -/
def mkfifo : Program := fun argv _ => do
  let c ← call (.make "m:Z" [("mode", 'm')]) 1 argv
  if c.rest.isEmpty then misuse c.name 1 "missing operand"
  let mode ← modeOption c 0o666 false
  eachOf c.rest fun path => do
    match ← change (.makeFifo path 0o666) with
    | .ok _ =>
      if let some m := mode then
        let _ ← change (.setMode path m)
      pure 0
    | .error e =>
      report c.name ("cannot create fifo " ++ shellQuote path ++ ": " ++ e.text)
      pure 1

/-- Removes empty directories. -/
def rmdir : Program := fun argv _ => do
  let c ← call (.make "pvi" [("parents", 'p'), ("verbose", 'v'), ("ignore-fail-on-non-empty", 'i')])
    1 argv
  if c.rest.isEmpty then misuse c.name 1 "missing operand"
  let remove (path : String) : Work (Option Nat) := do
    if c.has 'v' then put c.name (c.name ++ ": removing directory, " ++ shellQuote path ++ "\n")
    match ← change (.removeDirectory path) with
    | .ok _ => pure none
    | .error e =>
      if c.has 'i' && e == .notEmpty then pure (some 0)
      else
        report c.name ("failed to remove " ++ shellQuote path ++ ": " ++ e.text)
        pure (some 1)
  let rec climb : List String → Work Nat
    | [] => pure 0
    | path :: rest => do
      match ← remove path with
      | none => climb rest
      | some status => pure status
  eachOf c.rest fun path => climb (if c.has 'p' then (waysTo path).reverse else [path])

/-- Makes files, or notes that they were changed. -/
def touch : Program := fun argv _ => do
  let c ← call (.make "acd:fhmr:t:" [("no-create", 'c'), ("date", 'd'), ("reference", 'r')]) 1 argv
  if c.rest.isEmpty then misuse c.name 1 "missing file operand"
  let time ← match c.value? 'r' with
    | none => pure none
    | some path => do
      match ← inspect path with
      | .ok s => pure (some s.changed)
      | .error e =>
        giveUp c.name 1 ("failed to get attributes of " ++ shellQuote path ++ ": " ++ e.text)
  let time := if c.has 'd' || c.has 't' then some 0 else time
  eachOf c.rest fun path => do
    let failed (what : String) (e : Refusal) : Work Nat := do
      report c.name (what ++ " " ++ shellQuote path ++ ": " ++ e.text)
      pure 1
    match ← change (.touch path time) with
    | .ok _ => pure 0
    | .error e =>
      if e.isMissing && !c.has 'c' then
        match ← Work.ask (.openFile path { writable := true, create := true }) with
        | .ok fd =>
          close fd
          let _ ← change (.touch path time)
          pure 0
        | .error e =>
          if e == .file .isDirectory then failed "setting times of" .notFound
          else failed "cannot touch" e
      else if c.has 'c' && e.isMissing then pure 0
      else failed "cannot touch" e

/-- The names in a directory. -/
def namesIn (path : String) : Work (List String) := do
  match ← Work.ask (.entries path) with
  | .ok names => pure names
  | .error _ => pure []

/-- How much deeper than anything else directories can be nested. -/
def depthLimit : Nat := 100000

/-- What a file is called in a question. -/
def kindWording (s : Status) : String :=
  match s.kind with
  | .file => if s.size = 0 then "regular empty file" else "regular file"
  | .directory => "directory"
  | .device => "character special file"
  | .pipe => "fifo"
  | .link => "symbolic link"

/-- Asks a question and reads the answer; only one that starts with the letter for yes agrees. -/
def agreed (question : String) : Work Bool := do
  printError question
  let line ← Work.iterate (fun (got : List Char) => do
    match ← Work.ask (.read 0 1) with
    | .ok [b] => if b == 10 then pure (.inr got) else pure (.inl (got ++ [Char.ofNat b.toNat]))
    | _ => pure (.inr got)) Kernel.endless []
  pure (match line with
    | c :: _ => c == 'y' || c == 'Y'
    | [] => false)

/-- Removes what a path names and everything below it. -/
def removeTree (c : Call) : (limit : Nat) → String → Work Nat
  | 0, _ => pure 1
  | limit + 1, path => do
    let refused (e : Refusal) : Work Nat := do
      report c.name ("cannot remove " ++ shellQuote path ++ ": " ++ e.text)
      pure 1
    let removed (what : String) : Work Nat := do
      if c.has 'v' then put c.name ("removed " ++ what ++ shellQuote path ++ "\n")
      pure 0
    let asked (question : String) : Work Bool := do
      if c.last? ['i', 'f'] != some 'i' then pure true
      else agreed (c.name ++ ": " ++ question ++ " " ++ shellQuote path ++ "? ")
    match ← inspectLink path with
    | .error e => if c.has 'f' && e.isMissing then pure 0 else refused e
    | .ok status =>
      let guarded := if status.kind != .link && !status.grants .write then "write-protected " else ""
      if status.kind == .directory then
        if c.has 'r' then
          match ← Work.ask (.entries path) with
          | .error e =>
            match ← change (.removeDirectory path) with
            | .ok _ => removed "directory "
            | .error _ => refused e
          | .ok names =>
            let going ← if names.isEmpty then pure true else asked "descend into directory"
            if !going then pure 0
            else
              let worst ← eachOf names fun name => removeTree c limit (inside path name)
              let left ← namesIn path
              if worst > 0 && !left.isEmpty then pure worst
              else if !(← asked ("remove " ++ guarded ++ "directory")) then pure worst
              else
                match ← change (.removeDirectory path) with
                | .ok _ =>
                  let _ ← removed "directory "
                  pure worst
                | .error e => if worst > 0 then pure worst else refused e
        else if c.has 'd' then
          match ← change (.removeDirectory path) with
          | .ok _ => removed "directory "
          | .error e => refused e
        else refused (.file .isDirectory)
      else if !(← asked ("remove " ++ guarded ++ kindWording status)) then pure 0
      else
        match ← change (.unlink path) with
        | .ok _ => removed ""
        | .error e => refused e

/-- Removes files, and directories if asked to. -/
def rm : Program := fun argv _ => do
  let c ← call (.make "dfirRvI" [("recursive", 'r'), ("force", 'f'), ("verbose", 'v'), ("dir", 'd'),
    ("one-file-system", 'x'), ("preserve-root", 'x'), ("no-preserve-root", 'x')]) 1 argv
  let c := { c with options := c.options.map fun o => if o.1 == 'R' then ('r', o.2) else o }
  if c.rest.isEmpty && !c.has 'f' then misuse c.name 1 "missing operand"
  eachOf c.rest fun path => do
    let name := lastName path
    if c.has 'r' && (name = "." || name = "..") then
      report c.name ("refusing to remove '.' or '..' directory: skipping " ++ shellQuote path)
      pure 1
    else if c.has 'r' && name = "/" then
      report c.name "it is dangerous to operate recursively on '/'"
      report c.name "use --no-preserve-root to override this failsafe"
      pure 1
    else removeTree c depthLimit path

/-- Removes one name. -/
def unlink : Program := fun argv _ => do
  let c ← call (.make "" []) 1 argv
  match c.rest with
  | [] => misuse c.name 1 "missing operand"
  | [path] =>
    match ← change (.unlink path) with
    | .ok _ => pure 0
    | .error e => giveUp c.name 1 ("cannot unlink " ++ shellQuote path ++ ": " ++ e.text)
  | _ :: extra :: _ => misuse c.name 1 ("extra operand " ++ quote extra)

/-! ## Sizes -/

/-- A number with a unit behind it. -/
def sizeNumber? (cs : List Char) : Option Nat :=
  let ds := cs.takeWhile Char.isDigit
  let unit : Option Nat := match String.ofList (cs.drop ds.length) with
    | "" => some 1
    | "b" => some 512
    | "kB" | "KB" => some 1000
    | "k" | "K" | "KiB" => some 1024
    | "MB" => some 1000000
    | "M" | "m" | "MiB" => some 1048576
    | "GB" => some 1000000000
    | "G" | "GiB" => some 1073741824
    | _ => none
  if ds.isEmpty then none
  else unit.map fun u => ds.foldl (fun n c => n * 10 + (c.toNat - 48)) 0 * u

/-- A new size, from an old one and a text. -/
def newSize? (old : Nat) (text : String) : Option Nat :=
  match text.toList.dropWhile (· == ' ') with
  | '+' :: cs => (sizeNumber? cs).map (old + ·)
  | '-' :: cs => (sizeNumber? cs).map (old - ·)
  | '<' :: cs => (sizeNumber? cs).map (min old ·)
  | '>' :: cs => (sizeNumber? cs).map (max old ·)
  | '/' :: cs => (sizeNumber? cs).bind fun n => if n = 0 then none else some (old / n * n)
  | '%' :: cs => (sizeNumber? cs).bind fun n => if n = 0 then none else some ((old + n - 1) / n * n)
  | cs => sizeNumber? cs

/-- Sets the sizes of files. -/
def truncate : Program := fun argv _ => do
  let c ← call (.make "cor:s:" [("no-create", 'c'), ("io-blocks", 'o'), ("reference", 'r'),
    ("size", 's')]) 1 argv
  if !c.has 's' && !c.has 'r' then
    misuse c.name 1 "you must specify either '--size' or '--reference'"
  let text := (c.value? 's').getD "+0"
  if (newSize? 0 text).isNone then giveUp c.name 1 ("Invalid number: " ++ quote text)
  if c.rest.isEmpty then misuse c.name 1 "missing file operand"
  let base ← match c.value? 'r' with
    | none => pure none
    | some path => do
      match ← inspect path with
      | .ok s => pure (some s.size)
      | .error e => giveUp c.name 1 ("cannot stat " ++ shellQuote path ++ ": " ++ e.text)
  eachOf c.rest fun path => do
    let how : Opening := { writable := true, create := !c.has 'c' }
    match ← Work.ask (.openFile path how) with
    | .error e =>
      if c.has 'c' && e == .notFound then pure 0
      else
        report c.name ("cannot open " ++ shellQuote path ++ " for writing: " ++ e.text)
        pure 1
    | .ok fd =>
      close fd
      let old ← match ← inspect path with
        | .ok s => pure s.size
        | .error _ => pure 0
      match ← change (.resize path ((newSize? (base.getD old) text).getD 0)) with
      | .ok _ => pure 0
      | .error e =>
        report c.name ("failed to truncate " ++ shellQuote path ++ " at "
          ++ toString ((newSize? (base.getD old) text).getD 0) ++ " bytes: " ++ e.text)
        pure 1

/-! ## Modes -/

/-- Changes the mode of what a path leads to, and of everything below it if asked to. -/
def chmodTree (c : Call) (changes : List Mode.Change) (mask : Nat) (isOption : Bool) :
    (limit : Nat) → (top : Bool) → String → Work Nat
  | 0, _, _ => pure 1
  | limit + 1, top, path => do
    let quiet := c.has 'f'
    let named ← inspectLink path
    let status ← if top then inspect path else pure named
    match status with
    | .error e =>
      let dangling : Bool := match named with
        | .ok s => s.kind == .link && e == .notFound
        | .error _ => false
      if !quiet then
        if dangling then report c.name ("cannot operate on dangling symlink " ++ shellQuote path)
        else report c.name ("cannot access " ++ shellQuote path ++ ": " ++ e.text)
      pure 1
    | .ok s =>
      if s.kind == .link then
        if c.has 'v' then
          put c.name ("neither symbolic link " ++ shellQuote path ++ " nor referent has been changed\n")
        pure 0
      else
        let old := s.mode
        let new := Mode.adjust (s.kind == .directory) mask old changes
        let naive := Mode.adjust (s.kind == .directory) 0 old changes
        let text (mode : Nat) : String := Mode.octalText mode ++ " (" ++ Mode.letters mode ++ ")"
        let status ← match ← change (.setMode path new) with
          | .error e => do
            if !quiet then
              report c.name ("changing permissions of " ++ shellQuote path ++ ": " ++ e.text)
            if c.has 'v' then
              put c.name ("failed to change mode of " ++ shellQuote path ++ " from " ++ text old
                ++ " to " ++ text new ++ "\n")
            pure 1
          | .ok _ => do
            if old != new then
              if c.has 'v' || c.has 'c' then
                put c.name ("mode of " ++ shellQuote path ++ " changed from " ++ text old ++ " to "
                  ++ text new ++ "\n")
            else if c.last? ['v', 'c'] == some 'v' then
              put c.name ("mode of " ++ shellQuote path ++ " retained as " ++ text old ++ "\n")
            if isOption && Mode.without new naive != 0 then
              report c.name (shellQuoteIfNeeded path ++ ": new permissions are " ++ Mode.letters new
                ++ ", not " ++ Mode.letters naive)
              pure 1
            else pure 0
        if c.has 'R' && s.kind == .directory then
          match ← Work.ask (.entries path) with
          | .error e =>
            if !quiet then report c.name ("cannot read directory " ++ shellQuote path ++ ": " ++ e.text)
            pure 1
          | .ok names =>
            let worst ← eachOf names fun n =>
              chmodTree c changes mask isOption limit false (inside path n)
            pure (max status worst)
        else pure status

/-- Changes the modes of files. -/
def chmod : Program := fun argv _ => do
  let name := argv.head?.getD ""
  let args := argv.drop 1
  let isMode (a : String) : Bool :=
    match a.toList with
    | '-' :: c :: _ => "rwxXstugoa,+=01234567".toList.contains c
    | _ => false
  let before := args.takeWhile (· != "--")
  let modes := before.filter isMode
  let args := before.filter (!isMode ·) ++ args.drop before.length
  let o := Options.make "Rcfvz:" [("recursive", 'R'), ("changes", 'c'), ("silent", 'f'),
    ("quiet", 'f'), ("verbose", 'v'), ("reference", 'z')]
  let c ← call o 1 (name :: args)
  let mode := if c.has 'z' then none
    else if !modes.isEmpty then some (",".intercalate modes) else c.rest.head?
  let paths := if c.has 'z' || !modes.isEmpty then c.rest else c.rest.drop 1
  if paths.isEmpty then
    match mode with
    | some m =>
      if modes.isEmpty then misuse name 1 ("missing operand after " ++ quote m)
      else misuse name 1 "missing operand"
    | none => misuse name 1 "missing operand"
  let changes ← match c.value? 'z' with
    | some path => do
      match ← inspect path with
      | .ok s => pure [⟨'=', .given, Mode.allBits, s.mode, Mode.allBits⟩]
      | .error e =>
        giveUp name 1 ("failed to get attributes of " ++ shellQuote path ++ ": " ++ e.text)
    | none =>
      match Mode.parse? (mode.getD "") with
      | some changes => pure changes
      | none => misuse name 1 ("invalid mode: " ++ quote (mode.getD ""))
  let mask ← Work.ask (.mask none)
  eachOf paths fun path => chmodTree c changes mask (!modes.isEmpty) depthLimit true path

/-! ## Names that nothing has -/

/-- A template for a name, cut around its last row of at least three letters to be replaced. -/
def templateParts? (template : String) : Option (List Char × Nat × List Char) :=
  let back := template.toList.reverse
  let behind := back.takeWhile (· != 'X')
  let marks := (back.drop behind.length).takeWhile (· == 'X')
  let before := back.drop (behind.length + marks.length)
  if marks.length < 3 then none else some (before.reverse, marks.length, behind.reverse)

/-- Letters and digits that differ from one number to the next. -/
def variedLetters (seed : Nat) : (count : Nat) → List Char
  | 0 => []
  | count + 1 =>
    let letters := "abcdefghijklmnopqrstuvwxyzABCDEFGHIJKLMNOPQRSTUVWXYZ0123456789".toList
    (letters[seed % 62]?).getD 'a' :: variedLetters (seed / 62 + 7919 * (seed % 62) + 31) count

/-- Makes a file or a directory with a name that nothing else has. -/
def mktemp : Program := fun argv _ => do
  let c ← call (.make "dqutp:" [("directory", 'd'), ("quiet", 'q'), ("dry-run", 'u'), ("tmpdir", 'p')])
    1 argv
  let template := c.rest.head?.getD "tmp.XXXXXXXXXX"
  match templateParts? template with
  | none => giveUp c.name 1 ("too few X's in template " ++ quote template)
  | some (before, count, behind) =>
    let (pid, _) ← Work.ask .identity
    let now ← Work.ask .now
    let name := String.ofList (before ++ variedLetters (pid * 1000003 + now) count ++ behind)
    let path := match c.value? 'p' with
      | some dir => inside dir name
      | none => if c.rest.isEmpty || c.has 't' then inside "/tmp" name else name
    let made ←
      if c.has 'u' then pure (.ok ())
      else if c.has 'd' then change (.makeDirectory path 0o700)
      else do
        match ← Work.ask (.openFile path
          { writable := true, create := true, exclusive := true, mode := 0o600 }) with
        | .ok fd =>
          close fd
          pure (.ok ())
        | .error e => pure (.error e)
    match made with
    | .ok _ =>
      put c.name (path ++ "\n")
      pure 0
    | .error e =>
      report c.name ("failed to create " ++ (if c.has 'd' then "directory" else "file")
        ++ " via template " ++ quote template ++ ": " ++ e.text)
      pure 1

end HardenAudit.Program
