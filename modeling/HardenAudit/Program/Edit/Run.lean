import HardenAudit.Program.Edit.Script
import HardenAudit.Program.Files
import HardenAudit.Program.Stream

/-!
# The stream editor: `sed`

The editor reads a line, carries out the commands of its script that select it, writes what has become
of the line, and goes on with the next one.  Besides the line it holds a second text.
-/

namespace HardenAudit.Program.Edit

open Kernel (Work)

/-! ## The lines of several files

Lines come from files one after the other, or from the input.  The next line is read before it is
asked for, because an editor has to know which line is the last.
-/

/-- Lines that are still to come. -/
structure Lines where
  /-- Files that were not yet opened. -/
  paths : List String
  /-- The file that is being read. -/
  path : String := "-"
  /-- Its descriptor, up to its end. -/
  fd : Option Nat := none
  /-- Lines of it that were read. -/
  ready : List String := []
  /-- What was read behind these lines. -/
  left : String := ""
  /-- What stands at the end of a line. -/
  mark : String := "\n"
  /-- Was there a file that could not be opened? -/
  failed : Bool := false
  deriving Inhabited

namespace Lines

/-- Does the open file have another line?  Only asked after `fill`. -/
def hasLine (l : Lines) : Bool := !l.ready.isEmpty || l.left != ""

/-- Reads until a line of the open file is there, or its end; ends the program if reading fails. -/
def fill (name : String) (flush : Work Unit) (l : Lines) : Work Lines :=
  Work.iterate (fun (l : Lines) => do
    match l.fd with
    | none => pure (.inr l)
    | some fd =>
      if !l.ready.isEmpty then pure (.inr l)
      else
        match ← Work.ask (.read fd chunkSize) with
        | .error e =>
          flush
          giveUp name 4 ("read error on " ++ l.path ++ ": " ++ e.text)
        | .ok [] =>
          if fd != 0 then close fd
          pure (.inr { l with fd := none })
        | .ok bytes =>
          let parts := (l.left ++ Text.Raw.ofBytes bytes).splitOn l.mark
          pure (.inl { l with ready := parts.dropLast, left := parts.getLast?.getD "" }))
    Kernel.endless l

/-- Opens the next file; none if there is no other one. -/
def advance? (name : String) (l : Lines) : Work (Option Lines) := do
  match l.paths with
  | [] => pure none
  | path :: paths =>
    if path = "-" then pure (some { l with paths := paths, path := path, fd := some 0 })
    else
      match ← Work.ask (.openFile path .input) with
      | .ok fd => pure (some { l with paths := paths, path := path, fd := some fd })
      | .error e =>
        report name ("can't read " ++ path ++ ": " ++ e.text)
        pure (some { l with paths := paths, path := path, failed := true })

/-- Takes the next line of the open file, and tells whether its end was there. -/
def take? (l : Lines) : Option (String × Bool × Lines) :=
  match l.ready with
  | line :: rest => some (line, true, { l with ready := rest })
  | [] => if l.left = "" then none else some (l.left, false, { l with left := "" })

end Lines

/-! ## The editor -/

/-- How an editor was called. -/
structure Settings where
  name : String
  script : Edit.Program
  quiet : Bool := false
  /-- Are files edited one by one? -/
  separate : Bool := false
  /-- Are files replaced by what is written?  The text tells the name of a copy of the old one. -/
  inPlace : Option String := none
  mark : String := "\n"
  width : Nat := 70
  deriving Inhabited

/-- A file that is written to. -/
structure Sink where
  fd : Nat
  /-- Does the end of the last line still have to be written? -/
  owed : Bool := false
  deriving Inhabited

/-- What is added behind a line. -/
inductive Addition where
  | text (s : String)
  | file (path : String)
  deriving Inhabited

/-- The state of an editor. -/
structure Editing where
  lines : Lines
  /-- The number of the line. -/
  number : Nat := 0
  /-- The line, and whether its end was there. -/
  space : String := ""
  ended : Bool := true
  /-- The second text, and whether the line it came from had an end. -/
  hold : String := ""
  holdEnded : Bool := true
  /-- The places of commands whose ranges are open, with the numbers of their last lines. -/
  ranges : List (Nat × Option Nat) := []
  /-- Was something replaced since the line was read or since the last jump that asked? -/
  replaced : Bool := false
  additions : List Addition := []
  last : Option Regex := none
  /-- What was not yet written to the output, in reverse. -/
  output : List String := []
  /-- The text that will replace the file that is edited in place, in reverse. -/
  edited : List String := []
  owed : Bool := false
  /-- Was there something that cannot be edited? -/
  unedited : Bool := false
  sinks : List (String × Sink) := []
  /-- Lines left in files that are added line by line. -/
  supplies : List (String × List String) := []
  deriving Inhabited

/-- What an editor does. -/
abbrev Ed := StateT Editing Work

/-- Asks the kernel for something. -/
def work {α : Type} (w : Work α) : Ed α := StateT.lift w

/-- Ranges that are open before the first line. -/
def openRanges (p : Edit.Program) : List (Nat × Option Nat) :=
  (p.instructions.toList.zip (List.range p.instructions.size)).filterMap fun (i, place) =>
    match i.first, i.second with
    | some (.line 0), some _ => some (place, none)
    | _, _ => none

variable (settings : Settings)

/-! ## Writing -/

/-- Writes what is still to be written. -/
def flush : Ed Unit := do
  let e ← get
  set { e with output := [] }
  work (put settings.name (String.join e.output.reverse))

/-- Writes to the output of the editor. -/
def emitRaw (text : String) : Ed Unit := modify fun e =>
  if settings.inPlace.isSome then { e with edited := text :: e.edited }
  else { e with output := text :: e.output }

/-- Writes the end of the last line, if that is still to be done. -/
def settleDebt : Ed Unit := do
  if (← get).owed then
    emitRaw settings settings.mark
    modify fun e => { e with owed := false }

/-- Writes a text as it is. -/
def emitText (text : String) : Ed Unit := do
  settleDebt settings
  emitRaw settings text

/-- Writes a line; the end of one that had none is left open. -/
def emitLine (text : String) : Ed Unit := do
  settleDebt settings
  let ended := (← get).ended
  emitRaw settings (if ended then text ++ settings.mark else text)
  modify fun e => { e with owed := !ended }

/-- Writes a line to a file of the script. -/
def emitTo (path : String) (text : String) : Ed Unit := do
  let e ← get
  match e.sinks.lookup path with
  | none => pure ()
  | some sink =>
    let line := (if sink.owed then settings.mark else "") ++ text
      ++ (if e.ended then settings.mark else "")
    let sinks := e.sinks.map fun s => if s.1 == path then (s.1, { sink with owed := !e.ended }) else s
    set { e with sinks := sinks }
    if sink.fd = 1 then modify fun e => { e with output := line :: e.output }
    else
      let _ ← work (writeAll sink.fd line)
      pure ()

/-- Writes what is to stand behind the line. -/
def emitAdditions : Ed Unit := do
  let e ← get
  set { e with additions := [] }
  for a in e.additions do
    match a with
    | .text s => emitText settings s
    | .file path =>
      match ← work (contentOf (if path = "/dev/stdin" then "-" else path)) with
      | .ok text => if text != "" then emitText settings text
      | .error _ => pure ()

/-! ## Reading -/

/-- The name of the copy of a file. -/
def copyName (path suffix : String) : String :=
  if suffix.toList.contains '*' then
    let name := lastName path
    let new := String.ofList (suffix.toList.flatMap fun c => if c == '*' then name.toList else [c])
    if new.toList.contains '/' then new
    else String.ofList ((path.toList.reverse.dropWhile (· != '/')).reverse) ++ new
  else path ++ suffix

/-- Replaces the file that was edited. -/
def replaceFile : Ed Unit := do
  let e ← get
  if let some suffix := settings.inPlace then
    let path := e.lines.path
    let text := String.join e.edited.reverse
    set { e with edited := [], owed := false }
    let old ← work (contentOf path)
    if let .ok old := old then
      if suffix != "" then
        if let .ok fd ← work (Work.ask (.openFile (copyName path suffix) .output)) then
          let _ ← work (writeAll fd old)
          work (close fd)
      if let .ok fd ← work (Work.ask (.openFile path .output)) then
        let _ ← work (writeAll fd text)
        work (close fd)

/-- Opens the next file; tells whether there is one. -/
def openNext : Ed Bool := do
  let e ← get
  let first := e.number = 0 && e.lines.path = "-" && e.lines.fd.isNone
  if settings.inPlace.isSome then
    if !first && e.lines.path != "" then replaceFile settings
    if let path :: rest := e.lines.paths then
      if let .ok s ← work (inspect path) then
        if s.kind != .file then
          work (report settings.name ("couldn't edit " ++ path ++ ": not a regular file"))
          modify fun e => { e with
            unedited := true, lines := { e.lines with paths := rest, path := "" } }
          return true
  let e ← get
  match ← work (e.lines.advance? settings.name) with
  | none =>
    modify fun e => { e with lines := { e.lines with path := "" } }
    pure false
  | some l =>
    modify fun e => { e with lines := if l.failed && l.fd.isNone then { l with path := "" } else l }
    if settings.separate then
      modify fun e => { e with number := 0, hold := "", holdEnded := true, ranges := openRanges settings.script }
      settleDebt settings
    pure true

/-- Makes sure that the next line is there, in another file if need be; tells whether there is one. -/
def prepare (further : Bool) : Ed Bool := do
  let limit := (← get).lines.paths.length + 2
  let rec go : Nat → Ed Bool
    | 0 => pure false
    | limit + 1 => do
      let e ← get
      let flushing : Work Unit := put settings.name (String.join e.output.reverse)
      let l ← work (e.lines.fill settings.name flushing)
      modify fun e => { e with lines := l }
      if l.hasLine then pure true
      else if !further then pure false
      else if ← openNext settings then go limit
      else pure false
  go limit

/-- Is the line the last one? -/
def isLast : Ed Bool := do
  let more ← prepare settings (!settings.separate)
  pure !more

/-- The next line, if there is one. -/
def nextLine? : Ed (Option (String × Bool)) := do
  emitAdditions settings
  if ← prepare settings true then
    let e ← get
    match e.lines.take? with
    | none => pure none
    | some (line, ended, l) =>
      set { e with lines := l, number := e.number + 1, replaced := false }
      pure (some (line, ended))
  else pure none

/-- Is there another line, for commands that ask for one? -/
def hasNext : Ed Bool := prepare settings true

/-! ## Selecting -/

/-- Ends the editor with a message. -/
def abandon {α : Type} (status : Nat) (message : String) : Ed α := do
  flush settings
  work (giveUp settings.name status message)

/-- The expression to look for, which is the last one that was used if it has no text. -/
def regexOf (e : Expression) : Ed Regex := do
  match e.regex with
  | some r =>
    modify fun s => { s with last := some r }
    pure r
  | none =>
    match (← get).last with
    | some r => pure r
    | none => abandon settings 1 "-e expression #1, char 0: no previous regular expression"

/-- The line as a text to look in. -/
def subject (e : Expression) : Ed Regex.Subject := do
  pure
    { chars := (← get).space.toList.toArray, ignoreCase := e.ignoreCase, multiline := e.multiline }

/-- Does an address select the line? -/
def fits : Address → Ed Bool
  | .line n => do pure ((← get).number == n)
  | .step first width => do
    let n := (← get).number
    pure (if width = 0 then n == first else n ≥ first && (n - first) % width == 0)
  | .last => isLast settings
  | .expression e => do
    let r ← regexOf settings e
    let t ← subject e
    pure (r.search? t (fun _ _ => true) 0).isSome

/-- The number of the last line of a range that starts at a line. -/
def RangeEnd.number? (start : Nat) : RangeEnd → Option Nat
  | .at_ (.line n) => some n
  | .after count => some (start + count)
  | .multiple width => some (if width = 0 then start else start + width - start % width)
  | .at_ _ => none

/-- Closes the range of a command. -/
def closeRange (place : Nat) : Ed Unit := modify fun e =>
  { e with ranges := e.ranges.filter (·.1 != place) }

/-- Do the addresses of a command select the line? -/
def inRange (place : Nat) (first : Address) (second : RangeEnd) : Ed Bool := do
  let e ← get
  match e.ranges.lookup place with
  | some (some n) =>
    if e.number ≥ n then closeRange place
    pure (e.number ≤ n)
  | some none =>
    if let .at_ a := second then
      if ← fits settings a then closeRange place
    pure true
  | none =>
    if ← fits settings first then
      let finish := second.number? e.number
      let more : Bool := match finish with
        | some n => n > e.number
        | none => true
      if more then modify fun e => { e with ranges := (place, finish) :: e.ranges }
      pure true
    else pure false

/-- Is a command to be carried out? -/
def selects (place : Nat) (i : Instruction) : Ed Bool := do
  let hit ← match i.first, i.second with
    | none, _ => pure true
    | some a, none => fits settings a
    | some a, some b => inRange settings place a b
  pure (hit != i.negated)

/-! ## Commands -/

/-- What comes after a command. -/
inductive Onward where
  | next
  | jump (place : Nat)
  /-- The end of the round, with the line written or not. -/
  | done (print : Bool)
  /-- Another round without another line. -/
  | again
  | quit (status : Nat)
  deriving Inhabited

/-- A character as it is shown unambiguously. -/
def shownChar (c : Char) : List Char :=
  if c == '\\' then ['\\', '\\'] else if isPlain c then [c] else escaped c

/-- A text shown unambiguously, in lines of a width. -/
def shownLines (width : Nat) (text : String) : String :=
  let (out, _) := text.toList.foldl (fun (acc : List Char × Nat) c =>
    let shown := shownChar c
    if width > 0 && acc.2 + shown.length > width - 1 then
      (shown.reverse ++ '\n' :: '\\' :: acc.1, shown.length)
    else (shown.reverse ++ acc.1, acc.2 + shown.length)) ([], 0)
  String.ofList out.reverse ++ "$\n"

/-- The part of a text before the end of its first line, and the part behind it. -/
def cutLine (mark : String) (text : String) : String × Option String :=
  match text.splitOn mark with
  | [] => ("", none)
  | [one] => (one, none)
  | one :: more => (one, some (mark.intercalate more))

/-- Carries out a command of one letter. -/
def actSimple (letter : Char) : Ed Onward := do
  let e ← get
  let mark := settings.mark
  let setSpace (text : String) : Ed Onward := do
    set { e with space := text, ended := e.holdEnded }
    pure .next
  let setHold (text : String) : Ed Onward := do
    set { e with hold := text, holdEnded := e.ended }
    pure .next
  match letter with
  | '=' =>
    emitText settings (toString e.number ++ "\n")
    pure .next
  | 'd' => pure (.done false)
  | 'D' =>
    match cutLine mark e.space with
    | (_, none) => pure (.done false)
    | (_, some rest) =>
      set { e with space := rest }
      pure .again
  | 'F' =>
    emitText settings ((if e.lines.path = "" then "-" else e.lines.path) ++ "\n")
    pure .next
  | 'g' => setSpace e.hold
  | 'G' => setSpace (e.space ++ mark ++ e.hold)
  | 'h' => setHold e.space
  | 'H' => setHold (e.hold ++ mark ++ e.space)
  | 'x' =>
    set { e with space := e.hold, ended := e.holdEnded, hold := e.space, holdEnded := e.ended }
    pure .next
  | 'z' =>
    set { e with space := "" }
    pure .next
  | 'p' =>
    emitLine settings e.space
    pure .next
  | 'P' =>
    match cutLine mark e.space with
    | (line, some _) => emitText settings (line ++ mark)
    | (line, none) => emitLine settings line
    pure .next
  | 'n' =>
    if !settings.quiet then emitLine settings e.space
    if ← hasNext settings then
      match ← nextLine? settings with
      | some (line, ended) =>
        modify fun e => { e with space := line, ended := ended }
        pure .next
      | none => pure (.done false)
    else pure (.done false)
  | 'N' =>
    if ← hasNext settings then
      match ← nextLine? settings with
      | some (line, ended) =>
        modify fun e => { e with space := e.space ++ mark ++ line, ended := ended }
        pure .next
      | none => pure (.done true)
    else pure (.done true)
  | _ => pure .next

/-- Carries out a command that stands at a place. -/
def act (place : Nat) (i : Instruction) : Ed Onward := do
  match i.action with
  | .block _ | .blockEnd | .label => pure .next
  | .jump name onlyIf =>
    let e ← get
    let goes := match onlyIf with
      | none => true
      | some wanted => e.replaced == wanted
    if onlyIf.isSome then set { e with replaced := false }
    if goes then
      pure (.jump (if name = "" then settings.script.instructions.size
        else (settings.script.labels.lookup name).getD settings.script.instructions.size))
    else pure .next
  | .append text =>
    modify fun e => { e with additions := e.additions ++ [.text text] }
    pure .next
  | .insert text =>
    emitText settings text
    pure .next
  | .change text =>
    let isOpen := ((← get).ranges.lookup place).isSome
    if i.negated || !isOpen then emitText settings text
    pure (.done false)
  | .substitute s =>
    let r ← regexOf settings s.what
    let t ← subject s.what
    match s.apply? r t with
    | none => pure .next
    | some text =>
      modify fun e => { e with space := text, replaced := true }
      if s.print then emitLine settings text
      if let some path := s.file then emitTo settings path text
      pure .next
  | .translate table =>
    modify fun e => { e with
      space := String.ofList (e.space.toList.map fun c => (table.lookup c).getD c) }
    pure .next
  | .quit status quietly =>
    if !quietly then
      if !settings.quiet then emitLine settings (← get).space
      settleDebt settings
      emitAdditions settings
    pure (.quit status)
  | .readFile path oneLine =>
    if oneLine then
      let known := (← get).supplies.lookup path
      let lines ← match known with
        | some lines => pure lines
        | none => do
          match ← work (contentOf (if path = "/dev/stdin" then "-" else path)) with
          | .ok text => pure (linesOf text).1
          | .error _ => pure []
      modify fun e => { e with
        supplies := (path, lines.drop 1) :: e.supplies.filter (·.1 != path) }
      if let line :: _ := lines then
        modify fun e => { e with additions := e.additions ++ [.text (line ++ settings.mark)] }
    else modify fun e => { e with additions := e.additions ++ [.file path] }
    pure .next
  | .writeFile path firstOnly =>
    let text := (← get).space
    emitTo settings path (if firstOnly then (cutLine settings.mark text).1 else text)
    pure .next
  | .show_ width =>
    let text := (← get).space
    emitText settings (shownLines (width.getD settings.width) text)
    pure .next
  | .simple letter => actSimple settings letter

/-! ## Rounds -/

/-- Where an editor is. -/
inductive Stage where
  /-- Before a line. -/
  | reading
  /-- At a command. -/
  | command (place : Nat)
  deriving Inhabited

/-- The end of a round. -/
def endRound (print : Bool) : Ed (Stage ⊕ Nat) := do
  if print && !settings.quiet then emitLine settings (← get).space
  pure (.inl .reading)

/-- One step. -/
def step : Stage → Ed (Stage ⊕ Nat)
  | .reading => do
    if ((← get).output.foldl (fun n s => n + s.length) 0) ≥ 4096 then flush settings
    match ← nextLine? settings with
    | none =>
      let e ← get
      pure (.inr (if e.unedited then 4 else if e.lines.failed then 2 else 0))
    | some (line, ended) =>
      modify fun e => { e with space := line, ended := ended }
      pure (.inl (.command 0))
  | .command place => do
    match settings.script.instructions[place]? with
    | none => endRound settings true
    | some i =>
      if ← selects settings place i then
        match ← act settings place i with
        | .next => pure (.inl (.command (place + 1)))
        | .jump place => pure (.inl (.command place))
        | .done print => endRound settings print
        | .again =>
          emitAdditions settings
          pure (.inl (.command 0))
        | .quit status => pure (.inr status)
      else
        match i.action with
        | .block finish => pure (.inl (.command (finish + 1)))
        | _ => pure (.inl (.command (place + 1)))

/-- The files that a script writes to. -/
def Program.targets (p : Edit.Program) : List String :=
  (p.instructions.toList.filterMap fun i =>
    match i.action with
    | .writeFile path _ => some path
    | .substitute s => s.file
    | _ => none).eraseDups

/-- Opens a file that is written to. -/
def openSink (name path : String) : Work (String × Sink) := do
  if path = "/dev/stdout" then pure (path, { fd := 1 })
  else if path = "/dev/stderr" then pure (path, { fd := 2 })
  else
    match ← Work.ask (.openFile path .output) with
    | .ok fd => pure (path, { fd := fd })
    | .error e => giveUp name 4 ("couldn't open file " ++ path ++ ": " ++ e.text)

/-- Edits files. -/
def run (paths : List String) : Work Nat := do
  let sinks ← settings.script.targets.mapM (openSink settings.name)
  let start : Editing :=
    { lines := { paths := paths, mark := settings.mark }, sinks := sinks,
      ranges := openRanges settings.script }
  let (status, e) ← Work.iterate (fun (config : Stage × Editing) => do
    let (r, e) ← (step settings config.1).run config.2
    match r with
    | .inl stage => do
      -- time passes even if nothing is read or written
      Work.ask .tick
      pure (.inl (stage, e))
    | .inr status => pure (.inr (status, e))) Kernel.endless (Stage.reading, start)
  let ((), _) ← (do
    if settings.inPlace.isSome && (← get).lines.path != "" then replaceFile settings
    flush settings : Ed Unit).run e
  pure status

end HardenAudit.Program.Edit

namespace HardenAudit.Program

open Kernel (Work)

/-- Scripts as they are given: the name of a file, or none for a text, and what they say. -/
abbrev ScriptParts := List (Option String × String)

/-- Where a fault stands: in the words of the message. -/
def scriptPlace (parts : ScriptParts) (position : Nat) : String :=
  let rec go : ScriptParts → (number : Nat) → Nat → String
    | [], number, p => "-e expression #" ++ toString number ++ ", char " ++ toString p
    | (file, text) :: rest, number, p =>
      let number := if file.isNone then number + 1 else number
      if p ≤ text.length || rest.isEmpty then
        match file with
        | none => "-e expression #" ++ toString number ++ ", char " ++ toString p
        | some path =>
          let line := ((text.toList.take (p - 1)).filter (· == '\n')).length + 1
          "file " ++ path ++ " line " ++ toString line
      else go rest number (p - text.length - 1)
  go parts 0 position

/-- The options of `sed`. -/
def sedOptions : Options where
  letters :=
    [('n', .nothing), ('e', .value), ('f', .value), ('E', .nothing), ('r', .nothing), ('i', .optional),
     ('s', .nothing), ('z', .nothing), ('u', .nothing), ('l', .value), ('p', .nothing)]
  names :=
    [("quiet", 'n', .nothing), ("silent", 'n', .nothing), ("expression", 'e', .value),
     ("file", 'f', .value), ("regexp-extended", 'E', .nothing), ("in-place", 'i', .optional),
     ("separate", 's', .nothing), ("null-data", 'z', .nothing), ("unbuffered", 'u', .nothing),
     ("line-length", 'l', .value), ("posix", 'p', .nothing)]

/-- Ends with a hint at the usage of `sed`. -/
def sedUsage {α : Type} (name : String) : Work α := do
  printError ("Usage: " ++ name ++ " [OPTION]... \x7bscript-only-if-no-other-script\x7d [input-file]...\n")
  Work.exit 1

/-- Edits lines by a script. -/
def sed : Program := fun argv _ => do
  let name := argv.head?.getD ""
  let args := argv.drop 1
  let c ← match sortArguments sedOptions args.length args with
    | .ok c => pure { c with name := name }
    | .error message => do
      report name message
      sedUsage name
  let given := c.options.filter fun o => o.1 == 'e' || o.1 == 'f'
  let parts : ScriptParts ← given.mapM fun (letter, value) => do
    let value := value.getD ""
    if letter == 'e' then pure (none, value)
    else
      match ← contentOf value with
      | .ok text =>
        let text := if text.endsWith "\n" then String.ofList text.toList.dropLast else text
        pure (some value, text)
      | .error e => giveUp name 4 ("couldn't open file " ++ value ++ ": " ++ e.text)
  let (parts, files) ← match parts, c.rest with
    | [], [] => sedUsage name
    | [], script :: files => pure ([(none, script)], files)
    | parts, files => pure (parts, files)
  let extended := c.has 'E' || c.has 'r'
  match Edit.Program.ofText extended ("\n".intercalate (parts.map (·.2))) with
  | .error fault => giveUp name 1 (scriptPlace parts fault.position ++ ": " ++ fault.message)
  | .ok script =>
    if let some label := script.missingLabel? then
      giveUp name 4 ("can't find label for jump to \x60" ++ label ++ "'")
    let inPlace := if c.has 'i' then some ((c.value? 'i').getD "") else none
    let settings : Edit.Settings :=
      { name := name, script := script, quiet := c.has 'n' || script.quiet,
        separate := c.has 's' || inPlace.isSome, inPlace := inPlace,
        mark := if c.has 'z' then "\x00" else "\n",
        width := ((c.value? 'l').bind Shell.plainNumber?).getD 70 }
    Edit.run settings (if files.isEmpty then ["-"] else files)

end HardenAudit.Program
