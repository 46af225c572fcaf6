import HardenAudit.Program.Copying
import HardenAudit.Program.Launching
import HardenAudit.Program.Regex
import HardenAudit.Program.Version
import HardenAudit.Shell.Pattern

/-!
# Looking around among files: `ls`, `find`
-/

namespace HardenAudit.Program

open Kernel (Environment Kind Refusal Status Work)

/-! ## Directories -/

/-- A name with what is known of the file, and the target if it is a link. -/
structure Entry where
  name : String
  status : Status
  target : Option String := none
  deriving Inhabited

/-- How entries are shown. -/
structure Listing where
  call : Call
  deriving Inhabited

/-- Characters of a line that columns fill. -/
def listingWidth : Nat := 80

/-- A text with blanks before or behind it. -/
def padded (left : Bool) (width : Nat) (text : String) : String :=
  let gap := String.ofList (List.replicate (width - text.length) ' ')
  if left then text ++ gap else gap ++ text

/-- Texts in as many columns as fit in a line, column by column, or row by row if `across`. -/
def inColumns (across : Bool) (names : List String) : String :=
  let count := names.length
  let fits (columns : Nat) : Option (Nat × List Nat) :=
    let rows := (count + columns - 1) / columns
    let columnOf (i : Nat) : Nat := if across then i % columns else i / rows
    let widths := (List.range columns).map fun c =>
      ((names.zipIdx.filter fun e => columnOf e.2 == c).map (·.1.length)).foldl max 0
    let line := ((widths.dropLast.map (· + 2)).foldl (· + ·) 0) + widths.getLast?.getD 0
    if line < listingWidth then some (rows, widths) else none
  let most := min count (listingWidth / 3 + 1)
  match ((List.range most).reverse.map (· + 1)).findSome? fits with
  | none => String.join (names.map ended)
  | some (rows, widths) =>
    let columns := widths.length
    String.join ((List.range rows).map fun r =>
      let cells := (List.range columns).filterMap fun c =>
        (names[if across then r * columns + c else c * rows + r]?).map (·, widths.getD c 0)
      let last := cells.getLast?.map (·.1)
      String.join (cells.dropLast.map fun e => padded true (e.2 + 2) e.1) ++ last.getD "" ++ "\n")

namespace Listing

/-- The mark behind a name. -/
def mark (l : Listing) (s : Status) (linked : Bool) : String :=
  let c := l.call
  let all := c.has 'F'
  match s.kind with
  | .directory => if all || c.has 'p' || c.has 'y' then "/" else ""
  | .file => if all && s.mode &&& 0o111 != 0 then "*" else ""
  | .link => if (all || c.has 'y') && !linked then "@" else ""
  | .pipe => if all || c.has 'y' then "|" else ""
  | .device => ""

/-- A name as it is shown. -/
def nameText (l : Listing) (name : String) : String :=
  let c := l.call
  if c.has 'Q' then
    "\"" ++ String.ofList (name.toList.flatMap fun x =>
      if x == '"' || x == '\\' then ['\\', x] else if isPlain x then [x] else escaped x) ++ "\""
  else if c.has 'b' then
    String.ofList (name.toList.flatMap fun x =>
      if x == ' ' || x == '\\' then ['\\', x] else if isPlain x then [x] else escaped x)
  else if c.has 'q' then String.ofList (name.toList.map fun x => if isPlain x then x else '?')
  else name

/-- The ending of a name, from its last dot on. -/
def ending (name : String) : String :=
  if name.toList.contains '.' then
    "." ++ String.ofList ((name.toList.reverse.takeWhile (· != '.')).reverse)
  else ""

/-- Entries in the order in which they are shown. -/
def ordered (l : Listing) (entries : List Entry) : List Entry :=
  let c := l.call
  let byName := entries.mergeSort fun a b => a.name ≤ b.name
  let sorted := match c.last? ['S', 't', 'U', 'f', 'X', 'v'] with
    | some 'S' => byName.mergeSort fun a b => a.status.size ≥ b.status.size
    | some 't' => byName.mergeSort fun a b => a.status.changed ≥ b.status.changed
    | some 'X' => byName.mergeSort fun a b => ending a.name ≤ ending b.name
    | some 'v' => byName.mergeSort fun a b => compareVersions a.name b.name != .gt
    | _ => byName
  let sorted := if c.has 'r' && !c.has 'U' && !c.has 'f' then sorted.reverse else sorted
  if c.has 'k' then
    let leads (e : Entry) : Bool := e.status.kind == .directory
    sorted.filter leads ++ sorted.filter (!leads ·)
  else sorted

/-- Blocks of 1024 bytes that a file takes up. -/
def blocks (s : Status) : Nat :=
  match s.kind with
  | .file => (s.size + 4095) / 4096 * 4
  | .directory => 4
  | _ => 0

/-- The total of the blocks, before the entries of a directory. -/
def total (entries : List Entry) : String :=
  "total " ++ toString (entries.foldl (fun n e => n + blocks e.status) 0) ++ "\n"

/-- The name of the owner of a file. -/
def owner (l : Listing) (s : Status) : String :=
  if l.call.has 'n' then (if s.own then "1000" else "0") else if s.own then "user" else "root"

/-- Entries with all that is known of them. -/
def longText (l : Listing) (entries : List Entry) : String :=
  let c := l.call
  let column (left : Bool) (f : Entry → String) : Entry → String :=
    let width := entries.foldl (fun n e => max n (f e).length) 0
    fun e => padded left width (f e)
  let links := column false fun e => toString e.status.links
  let size := column false fun e => toString e.status.size
  let owner := column true fun e => l.owner e.status
  let used := column false fun e => toString (blocks e.status)
  String.join (entries.map fun e =>
    let parts := [String.ofList [Mode.kindLetter e.status.kind] ++ Mode.letters e.status.mode, links e]
      ++ (if c.has 'g' then [] else [owner e]) ++ (if c.has 'o' || c.has 'G' then [] else [owner e])
      ++ [size e, "Jan  1 00:00"]
    (if c.has 's' then used e ++ " " else "") ++ " ".intercalate parts ++ " " ++ l.nameText e.name
      ++ (match e.target with
        | some target => " -> " ++ l.nameText target
        | none => l.mark e.status false) ++ "\n")

/-- The text for some entries. -/
def text (l : Listing) (entries : List Entry) : String :=
  let c := l.call
  let sorted := l.ordered entries
  let used (e : Entry) : String := if c.has 's' then toString (blocks e.status) ++ " " else ""
  let names := sorted.map fun e => used e ++ l.nameText e.name ++ l.mark e.status false
  match c.last? ['1', 'm', 'x', 'C', 'l', 'g', 'o', 'n'] with
  | some 'm' => if names.isEmpty then "" else ", ".intercalate names ++ "\n"
  | some 'x' => if names.isEmpty then "" else inColumns true names
  | some 'C' => if names.isEmpty then "" else inColumns false names
  | some 'l' | some 'g' | some 'o' | some 'n' => l.longText sorted
  | _ => if c.has 'l' then l.longText sorted else String.join (names.map ended)

/-- What is known of a path.  Links that are `named` on the command line are followed to directories,
unless the listing is about the links themselves. -/
def look (l : Listing) (named : Bool) (path : String) : Work (Except Refusal Status) := do
  let c := l.call
  if c.has 'L' then inspect path
  else if named && c.has 'H' then
    match ← inspect path with
    | .ok s => pure (.ok s)
    | .error e => if e == .notFound then inspectLink path else pure (.error e)
  else if named && !c.has 'd' && !c.has 'F' && !c.has 'l' then
    match ← inspect path with
    | .ok s => if s.kind == .directory then pure (.ok s) else inspectLink path
    | .error e =>
      if e == .notFound || e == .file .tooManyLinks then inspectLink path else pure (.error e)
  else inspectLink path

/-- The entry for a path, and the name it is shown under. -/
def entryFor (path name : String) (s : Status) : Work Entry := do
  let target ← if s.kind == .link then do
      pure ((← Work.ask (.readLink path)).toOption)
    else pure none
  pure { name := name, status := s, target := target }

/-- The entries of a directory that are shown, and whether some could not be looked at. -/
def entriesOf (l : Listing) (path : String) (names : List String) : Work (List Entry × Bool) := do
  let c := l.call
  let all := c.last? ['a', 'A', 'f'] == some 'a' || c.has 'f'
  let ignored := (c.options.filter (·.1 == 'I')).map fun o => (o.2.getD "").toList.map (·, false)
  let shown := names.filter fun n =>
    (all || c.has 'A' || c.has 'a' || !n.startsWith ".") && !(c.has 'B' && n.endsWith "~")
      && !ignored.any fun p => Shell.Pattern.isMatch p n.toList
  let rec go : List String → Work (List Entry × Bool)
    | [] => pure ([], false)
    | n :: rest => do
      let place := inside path n
      match ← l.look false place with
      | .ok s =>
        let e ← entryFor place n s
        let (more, failed) ← go rest
        pure (e :: more, failed)
      | .error e =>
        report c.name ("cannot access " ++ shellQuote place ++ ": " ++ e.text)
        let (more, _) ← go rest
        pure (more, true)
  go (if all then [".", ".."] ++ shown else shown)

/-- Shows a directory, and those below it if asked to; `first` tells that nothing was shown before. -/
def directory (l : Listing) (headed : Bool) : (limit : Nat) → (named first : Bool) → String → Work Nat
  | 0, _, _, _ => pure 0
  | limit + 1, named, first, path => do
    let name := l.call.name
    match ← Work.ask (.entries path) with
    | .error e =>
      report name ("cannot open directory " ++ shellQuote path ++ ": " ++ e.text)
      pure (if named then 2 else 1)
    | .ok names =>
      let (entries, failed) ← l.entriesOf path names
      if headed then put name ((if first then "" else "\n") ++ path ++ ":\n")
      if ['l', 's', 'g', 'o', 'n'].any l.call.has then put name (total entries)
      put name (l.text entries)
      let status := if failed then 1 else 0
      if l.call.has 'R' then
        let below := (l.ordered entries).filter fun e =>
          e.status.kind == .directory && e.name != "." && e.name != ".."
        let worst ← eachOf below fun e => directory l headed limit false false (inside path e.name)
        pure (max status worst)
      else pure status

end Listing

/-- Lists files and the contents of directories. -/
def ls : Program := fun argv _ => do
  let o := Options.make "aAbBcCdfFghHiI:klLmnNopqQrRsStuUvw:xXZ1T:GDyj:"
    [("all", 'a'), ("almost-all", 'A'), ("escape", 'b'), ("directory", 'd'),
     ("ignore", 'I'), ("ignore-backups", 'B'), ("quote-name", 'Q'), ("reverse", 'r'),
     ("recursive", 'R'), ("hide-control-chars", 'q'), ("literal", 'N'), ("dereference", 'L'),
     ("file-type", 'y'), ("group-directories-first", 'k'), ("size", 's'), ("no-group", 'G'),
     ("numeric-uid-gid", 'n'), ("format", 'j'), ("sort", 'j'), ("time", 'j')]
  let o := { o with names := o.names ++ [("color", 'Z', Takes.optional),
    ("classify", 'F', Takes.optional)] }
  let c ← call o 2 argv
  let c := { c with options := c.options.map fun o => match o.1, o.2 with
    | 'j', some "long" => ('l', none)
    | 'j', some "single-column" => ('1', none)
    | 'j', some "commas" => ('m', none)
    | 'j', some "across" => ('x', none)
    | 'j', some "vertical" => ('C', none)
    | 'j', some "size" => ('S', none)
    | 'j', some "time" => ('t', none)
    | 'j', some "none" => ('U', none)
    | 'j', some "extension" => ('X', none)
    | 'j', some "version" => ('v', none)
    | _, _ => o }
  let long := ['l', 'g', 'o', 'n'].any c.has
  let l : Listing := { call := if long && !c.has 'l' then { c with options := ('l', none) :: c.options }
    else c }
  let paths := if c.rest.isEmpty then ["."] else c.rest
  let rec look : List String → Work (List Entry × Bool)
    | [] => pure ([], false)
    | path :: rest => do
      match ← l.look true path with
      | .ok s =>
        let e ← Listing.entryFor path path s
        let (found, failed) ← look rest
        pure (e :: found, failed)
      | .error e =>
        report c.name ("cannot access " ++ shellQuote path ++ ": " ++ e.text)
        let (found, _) ← look rest
        pure (found, true)
  let (found, failed) ← look paths
  let isOpened (e : Entry) : Bool := e.status.kind == .directory && !c.has 'd'
  let files := found.filter (!isOpened ·)
  let directories := l.ordered (found.filter isOpened)
  put c.name (l.text files)
  let headed := paths.length > 1 || c.has 'R'
  let rec go : List Entry → Bool → Work Nat
    | [], _ => pure 0
    | e :: rest, first => do
      let status ← l.directory headed depthLimit true first e.name
      let worst ← go rest (first && status == 2)
      pure (max status worst)
  let status ← go directories files.isEmpty
  pure (if failed then 2 else status)

/-! ## Searching -/

/-- What is asked of a file, or done with it. -/
inductive Inquiry where
  | always (b : Bool)
  | name (pattern : String) (ignoreCase : Bool)
  | path (pattern : String) (ignoreCase : Bool)
  | regex (r : Regex) (ignoreCase : Bool)
  | kind (letters : List Char) (through : Bool)
  | empty
  | linkTo (pattern : String) (ignoreCase : Bool)
  | same (s : Status)
  | links (order : Ordering) (count : Nat)
  /-- Compares rights: all of them, at least these, or any of these. -/
  | rights (how : Char) (mode : Nat)
  | may (r : Right)
  /-- Compares a size in units. -/
  | size (order : Ordering) (count unit : Nat)
  | newer (time : Nat)
  | print (mark : String)
  | printf (format : String)
  /-- Calls a program for each file, or once for all. -/
  | call (words : List String) (together : Bool)
  | delete
  | prune
  | quit
  | not (q : Inquiry)
  | both (a b : Inquiry)
  | either (a b : Inquiry)
  | sequence (a b : Inquiry)
  deriving Inhabited

namespace Inquiry

/-- Does an inquiry do something by itself? -/
def acts : Inquiry → Bool
  | print _ | printf _ | call .. | delete | quit => true
  | not q => q.acts
  | both a b | either a b | sequence a b => a.acts || b.acts
  | _ => false

end Inquiry

/-- A search: which files it goes to, and what it asks of them. -/
structure Search where
  name : String
  least : Nat := 0
  most : Option Nat := none
  /-- Are the contents of a directory visited before itself? -/
  inward : Bool := false
  /-- Are links followed: never, where the search starts, or always? -/
  follows : Char := 'P'
  /-- How expressions are written. -/
  dialect : Regex.Dialect := { extended := false, editor := true }
  deriving Inhabited

/-- Reading the arguments of a search. -/
abbrev SearchReader := StateT (Search × List String) Work

/-- The argument behind another one. -/
def searchArgument (option : String) : SearchReader String := do
  let (s, args) ← get
  match args with
  | a :: rest =>
    set (s, rest)
    pure a
  | [] =>
    StateT.lift (giveUp s.name 1 ("missing argument to \x60" ++ option ++ "'"))

/-- The words of a program to call, up to a semicolon or a plus behind braces. -/
def calledWords : List String → List String → Option (List String × Bool × List String)
  | [], _ => none
  | ";" :: rest, words => some (words.reverse, false, rest)
  | "+" :: rest, "\x7b\x7d" :: words => some (words.reverse, true, rest)
  | w :: rest, words => calledWords rest (w :: words)

/-- A number that may be compared: exact, or more, or less. -/
def comparison (text : List Char) : Ordering × List Char :=
  match text with
  | '+' :: ds => (.gt, ds)
  | '-' :: ds => (.lt, ds)
  | ds => (.eq, ds)

/-- The ways to write expressions by name. -/
def dialects : List (String × Regex.Dialect) :=
  let editor : Regex.Dialect := { extended := false, editor := true }
  let basic : Regex.Dialect := { extended := false }
  let extended : Regex.Dialect := { extended := true }
  [("findutils-default", editor), ("ed", basic), ("emacs", editor), ("gnu-awk", extended), ("grep", basic),
   ("posix-awk", extended), ("awk", extended), ("posix-basic", basic), ("posix-egrep", extended),
   ("egrep", extended), ("posix-extended", { extended with strict := true }), ("posix-minimal-basic", basic),
   ("sed", basic)]

/-- One inquiry behind its name. -/
def inquiry (option : String) : SearchReader Inquiry := do
  let fail {α : Type} (message : String) : SearchReader α := do
    StateT.lift (giveUp (← get).1.name 1 message)
  let depth : SearchReader Nat := do
    let text ← searchArgument option
    if text != "" && text.toList.all Char.isDigit then pure (Shell.digits 10 text.toList 0 0).1
    else
      fail ("Expected a positive decimal integer argument to " ++ option ++ ", but got "
        ++ quote text)
  match option with
  | "-name" => return .name (← searchArgument option) false
  | "-iname" => return .name (← searchArgument option) true
  | "-path" | "-wholename" => return .path (← searchArgument option) false
  | "-ipath" => return .path (← searchArgument option) true
  | "-regex" | "-iregex" =>
    let text ← searchArgument option
    match Regex.ofText (← get).1.dialect text with
    | .ok r => return .regex r (option = "-iregex")
    | .error message => fail ("failed to compile regular expression " ++ quote text ++ ": " ++ message)
  | "-regextype" =>
    let name ← searchArgument option
    match dialects.lookup name with
    | some d =>
      modify fun (s, args) => ({ s with dialect := d }, args)
      return .always true
    | none =>
      fail ("Unknown regular expression type " ++ quote name ++ "; valid types are "
        ++ ", ".intercalate (dialects.map fun d => quote d.1) ++ ".")
  | "-type" | "-xtype" =>
    let text ← searchArgument option
    let letters := (text.toList.filter (· != ','))
    match letters.find? fun c => !"fdlpscb".toList.contains c with
    | some c => fail ("Unknown argument to " ++ option ++ ": " ++ c.toString)
    | none => return .kind letters (option = "-xtype")
  | "-maxdepth" =>
    let n ← depth
    modify fun (s, args) => ({ s with most := some n }, args)
    return .always true
  | "-mindepth" =>
    let n ← depth
    modify fun (s, args) => ({ s with least := n }, args)
    return .always true
  | "-depth" =>
    modify fun (s, args) => ({ s with inward := true }, args)
    return .always true
  | "-empty" => return .empty
  | "-executable" => return .may .execute
  | "-readable" => return .may .read
  | "-writable" => return .may .write
  | "-lname" => return .linkTo (← searchArgument option) false
  | "-ilname" => return .linkTo (← searchArgument option) true
  | "-samefile" =>
    let path ← searchArgument option
    match ← StateT.lift (inspectLink path) with
    | .ok s => return .same s
    | .error e => fail (quote path ++ ": " ++ e.text)
  | "-links" =>
    let (order, text) := comparison (← searchArgument option).toList
    return .links order (Shell.digits 10 text 0 0).1
  | "-perm" =>
    let text ← searchArgument option
    let (how, body) := match text.toList with
      | '-' :: cs => ('-', cs)
      | '/' :: cs => ('/', cs)
      | cs => ('=', cs)
    match Mode.parse? (String.ofList body) with
    | some changes => return .rights how (Mode.adjust false 0 0 changes)
    | none => fail ("invalid mode " ++ quote text)
  | "-size" =>
    let (order, text) := comparison (← searchArgument option).toList
    let (n, _, letter) := Shell.digits 10 text 0 0
    let unit := match letter with
      | ['c'] => 1
      | ['w'] => 2
      | ['k'] => 1024
      | ['M'] => 1048576
      | _ => 512
    return .size order n unit
  | "-newer" =>
    let path ← searchArgument option
    match ← StateT.lift (inspect path) with
    | .ok s => return .newer s.changed
    | .error e => fail (quote path ++ ": " ++ e.text)
  | "-print" => return .print "\n"
  | "-print0" => return .print "\x00"
  | "-printf" => return .printf (← searchArgument option)
  | "-exec" =>
    let (s, args) ← get
    match calledWords args [] with
    | some (words, together, rest) =>
      set (s, rest)
      return .call words together
    | none => fail ("missing argument to \x60" ++ option ++ "'")
  | "-delete" =>
    modify fun (s, args) => ({ s with inward := true }, args)
    return .delete
  | "-prune" => return .prune
  | "-quit" => return .quit
  | "-true" | "-mount" | "-xdev" | "-follow" | "-noleaf" => return .always true
  | "-false" => return .always false
  | _ =>
    if option.startsWith "-" then fail ("unknown predicate \x60" ++ option ++ "'")
    else fail ("paths must precede expression: \x60" ++ option ++ "'")

/-- Inquiries with operators between them.  `level` tells which operators may stand here: a comma, or,
and, not.  Each call goes to another level or takes an argument, so `limit` may be four times their
number and more. -/
def inquiries : (limit : Nat) → (level : Nat) → SearchReader Inquiry
  | 0, _ => pure (.always true)
  | limit + 1, 3 => do
    let (s, args) ← get
    match args with
    | [] => pure (.always true)
    | a :: rest =>
      set (s, rest)
      if a = "!" || a = "-not" then
        let q ← inquiries limit 3
        pure (.not q)
      else if a = "(" then
        let q ← inquiries limit 0
        modify fun (s, args) => (s, args.drop 1)
        pure q
      else inquiry a
  | limit + 1, level => do
    let a ← inquiries limit (level + 1)
    let (s, args) ← get
    let or : Bool := args.head? == some "-o" || args.head? == some "-or"
    match args with
    | [] => pure a
    | op :: rest =>
      match level with
      | 2 =>
        if or || op = ")" || op = "," then pure a
        else
          if op = "-a" || op = "-and" then set (s, rest)
          let b ← inquiries limit 2
          pure (.both a b)
      | 1 =>
        if or then
          set (s, rest)
          let b ← inquiries limit 1
          pure (.either a b)
        else pure a
      | _ =>
        if op = "," then
          set (s, rest)
          let b ← inquiries limit 0
          pure (.sequence a b)
        else pure a

/-- A file that a search has come to. -/
structure Visit where
  path : String
  status : Status
  depth : Nat
  /-- Where the search started. -/
  start : String
  /-- Where the path leads if it is a link. -/
  target : Option String

/-- What a search remembers. -/
structure Searching where
  status : Nat := 0
  /-- Is what lies below the current directory left out? -/
  pruned : Bool := false
  over_ : Bool := false
  /-- Files for which programs are to be called together. -/
  gathered : List (List String × List String) := []
  deriving Inhabited

/-- A search under way. -/
abbrev Finding := StateT Searching Work

/-- The letter of a kind of file. -/
def kindLetter : Kind → Char
  | .file => 'f'
  | .directory => 'd'
  | .device => 'c'
  | .pipe => 'p'
  | .link => 'l'

/-- The text of a format for a file; `limit` may be its length. -/
def foundText (v : Visit) : (limit : Nat) → List Char → List Char
  | 0, cs => cs
  | _, [] => []
  | limit + 1, '%' :: c :: rest =>
    (match c with
      | 'p' => v.path.toList
      | 'f' => (lastName v.path).toList
      | 's' => (toString v.status.size).toList
      | 'd' => (toString v.depth).toList
      | 'y' => [kindLetter v.status.kind]
      | 'm' => Nat.toDigits 8 v.status.mode
      | 'M' => Mode.kindLetter v.status.kind :: (Mode.letters v.status.mode).toList
      | 'n' => (toString v.status.links).toList
      | 'l' => (v.target.getD "").toList
      | 'P' => ((v.path.toList.drop v.start.length).dropWhile (· == '/'))
      | 'H' => v.start.toList
      | 'h' => if v.path.toList.contains '/' then
          (v.path.toList.reverse.dropWhile (· != '/')).drop 1 |>.reverse else ['.']
      | '%' => ['%']
      | c => ['%', c]) ++ foundText v limit rest
  | limit + 1, '\\' :: rest =>
    let (c, rest) := Shell.formatEscape rest
    c :: foundText v limit rest
  | limit + 1, c :: rest => c :: foundText v limit rest

/-- Calls a program; tells whether it was successful. -/
def calls (name : String) (env : Environment) (words : List String) : Work Bool := do
  let how ← runAndWait (do
    let e ← execute words env
    report name (quote (words.head?.getD "") ++ ": " ++ e.text)
    pure 1)
  pure (match how with
    | .code 0 => true
    | _ => false)

/-- Asks an inquiry of a file. -/
def ask (s : Search) (env : Environment) (v : Visit) : Inquiry → Finding Bool
  | .always b => pure b
  | .name pattern ignoreCase =>
    let fold (t : String) : List Char := if ignoreCase then t.toList.map Char.toLower else t.toList
    pure (Shell.Pattern.isMatch ((fold pattern).map (·, false)) (fold (lastName v.path)))
  | .path pattern ignoreCase =>
    let fold (t : String) : List Char := if ignoreCase then t.toList.map Char.toLower else t.toList
    pure (Shell.Pattern.isMatch ((fold pattern).map (·, false)) (fold v.path))
  | .regex r ignoreCase =>
    let t : Regex.Subject := { chars := v.path.toList.toArray, ignoreCase := ignoreCase }
    pure (r.matchAt? t (fun _ b => b == t.chars.size) true 0).isSome
  | .kind letters false => pure (letters.contains (kindLetter v.status.kind))
  | .kind letters true => do
    let other ← StateT.lift (if s.follows == 'L' then inspectLink v.path else inspect v.path)
    pure (letters.contains (kindLetter ((other.toOption.getD v.status).kind)))
  | .linkTo pattern ignoreCase =>
    let fold (t : String) : List Char := if ignoreCase then t.toList.map Char.toLower else t.toList
    pure (match v.target with
      | some target => Shell.Pattern.isMatch ((fold pattern).map (·, false)) (fold target)
      | none => false)
  | .same t => pure (v.status.same t)
  | .links order count => pure (compare v.status.links count == order)
  | .rights how mode => pure (match how with
    | '-' => v.status.mode &&& mode == mode
    | '/' => mode == 0 || v.status.mode &&& mode != 0
    | _ => v.status.mode == mode)
  | .may r => do
    pure (match ← StateT.lift (inspect v.path) with
      | .ok t => t.grants r
      | .error _ => false)
  | .empty => do
    match v.status.kind with
    | .directory => pure (← StateT.lift (namesIn v.path)).isEmpty
    | .file => pure (v.status.size == 0)
    | _ => pure false
  | .size order count unit =>
    pure (compare ((v.status.size + unit - 1) / unit) count == order)
  | .newer time => pure (v.status.changed > time)
  | .print mark => do
    StateT.lift (put s.name (v.path ++ mark))
    pure true
  | .printf format => do
    let cs := foundText v (format.length + 1) format.toList
    StateT.lift (put s.name (String.ofList cs))
    pure true
  | .call words together => do
    if together then
      modify fun f =>
        let old := (f.gathered.lookup words).getD []
        { f with gathered := (words, old ++ [v.path]) :: f.gathered.filter (·.1 != words) }
      pure true
    else
      StateT.lift (calls s.name env (words.map fun w => v.path.intercalate (w.splitOn "\x7b\x7d")))
  | .delete => do
    let change := if v.status.kind == .directory then Kernel.Change.removeDirectory v.path
      else .unlink v.path
    match ← StateT.lift (Work.ask (.change change)) with
    | .ok _ => pure true
    | .error e =>
      StateT.lift (report s.name ("cannot delete " ++ quote v.path ++ ": " ++ e.text))
      modify fun f => { f with status := 1 }
      pure false
  | .prune => do
    modify fun f => { f with pruned := true }
    pure true
  | .quit => do
    modify fun f => { f with over_ := true }
    pure true
  | .not q => do
    let b ← ask s env v q
    pure !b
  | .both a b => do
    if ← ask s env v a then ask s env v b else pure false
  | .either a b => do
    if ← ask s env v a then pure true else ask s env v b
  | .sequence a b => do
    let _ ← ask s env v a
    ask s env v b

/-- What is known of a path on the way of a search, as far as links are followed. -/
def Search.look (s : Search) (depth : Nat) (path : String) : Work (Except Refusal Status) := do
  if s.follows == 'L' || (s.follows == 'H' && depth = 0) then
    match ← inspect path with
    | .ok status => pure (.ok status)
    | .error e =>
      if e == .notFound || e == .file .tooManyLinks then inspectLink path else pure (.error e)
  else inspectLink path

/-- Goes to a file and to what lies below it; `above` are the directories on the way. -/
def visit (s : Search) (env : Environment) (q : Inquiry) (start : String) :
    (limit : Nat) → (above : List (String × Status)) → String → Finding Unit
  | 0, _, _ => pure ()
  | limit + 1, above, path => do
    let depth := above.length
    let failed (message : String) : Finding Unit := do
      StateT.lift (report s.name message)
      modify fun f => { f with status := 1 }
    if !(← get).over_ then
      match ← StateT.lift (s.look depth path) with
      | .error e => failed (quote path ++ ": " ++ e.text)
      | .ok status =>
        let target ← if status.kind == .link then do
            pure (← StateT.lift (Work.ask (.readLink path))).toOption
          else pure none
        let v : Visit := ⟨path, status, depth, start, target⟩
        let here : Finding Unit := do
          if depth ≥ s.least then
            let _ ← ask s env v q
            pure ()
        match if status.kind == .directory then above.find? (·.2.same status) else none with
        | some (loop, _) =>
          failed ("File system loop detected; " ++ quote path
            ++ " is part of the same file system loop as " ++ quote loop ++ ".")
        | none =>
          modify fun f => { f with pruned := false }
          if !s.inward then here
          let pruned := (← get).pruned
          modify fun f => { f with pruned := false }
          if status.kind == .directory && !pruned && s.most.all (depth < ·) then
            match ← StateT.lift (Work.ask (.entries path)) with
            | .error e => failed (quote path ++ ": " ++ e.text)
            | .ok names =>
              let rec each : List String → Finding Unit
                | [] => pure ()
                | n :: rest => do
                  visit s env q start limit ((path, status) :: above) (inside path n)
                  each rest
              each names
          if s.inward then here

/-- Searches directories. -/
def find : Program := fun argv env => do
  let name := argv.head?.getD ""
  let isStart (a : String) : Bool := !a.startsWith "-" && a != "!" && a != "("
  let isFollowing (a : String) : Bool := a = "-L" || a = "-P" || a = "-H"
  let follows := ((argv.drop 1).takeWhile isFollowing).getLast?.map fun a => a.toList.getD 1 'P'
  let args := (argv.drop 1).dropWhile isFollowing
  let starts := args.takeWhile isStart
  let rest := args.drop starts.length
  let blank : Search := { name := name, follows := follows.getD 'P' }
  let (q, s, _) ← if rest.isEmpty then pure (Inquiry.print "\n", blank, [])
    else (inquiries (rest.length * 4 + 8) 0).run (blank, rest)
  let q := if q.acts then q else .both q (.print "\n")
  let starts := if starts.isEmpty then ["."] else starts
  let rec go : List String → Finding Unit
    | [] => pure ()
    | p :: more => do
      visit s env q p depthLimit [] p
      go more
  let ((), f) ← (go starts).run {}
  for (words, paths) in f.gathered.reverse do
    let _ ← calls name env (words ++ paths)
  pure f.status

/-- Shows where programs stand. -/
def which : Program := fun argv env => do
  let c ← call (.make "a" []) 1 argv
  let path := (env.lookup "PATH").getD fallbackPath
  eachOf c.rest fun name => do
    let places := if name.toList.contains '/' then [name]
      else (path.splitOn ":").map fun dir => if dir = "" then name else dir ++ "/" ++ name
    let found ← places.filterM fun p => do
      match ← inspect p with
      | .ok s => pure (s.kind == .file && s.executable)
      | .error _ => pure false
    put c.name (String.join ((if c.has 'a' then found else found.take 1).map ended))
    pure (if found.isEmpty then 1 else 0)

/-- Shows variables. -/
def printenv : Program := fun argv env => do
  let c ← call (.make "0" [("null", '0')]) 2 argv
  let mark := if c.has '0' then "\x00" else "\n"
  if c.rest.isEmpty then
    put c.name (String.join (env.map fun v => v.1 ++ "=" ++ v.2 ++ mark))
    pure 0
  else
    eachOf c.rest fun name => do
      match env.lookup name with
      | some value =>
        put c.name (value ++ mark)
        pure 0
      | none => pure 1

end HardenAudit.Program
