import HardenAudit.Program.Files

/-!
# Programs that copy, move and link files

Each of them takes sources and a target, which is the new name of a single source, or a directory
into which the sources go under their own names.
-/

namespace HardenAudit.Program

open Kernel (Change Opening Refusal Status Work)

/-- Where a source goes: the target itself, or a place in it. -/
structure Placing where
  source : String
  target : String
  deriving Inhabited

/-- Is a target a directory to put sources into? -/
def isReceiver (c : Call) (target : String) : Work Bool := do
  if c.has 'T' then pure false
  else if c.has 'n' && c.name.endsWith "ln" then
    match ← inspectLink target with
    | .ok s => pure (s.kind == .directory)
    | .error _ => pure false
  else isDirectory target

/-- Finds out where sources go, which are all arguments but the last one. -/
def placings (c : Call) : Work (List Placing) := do
  match c.rest with
  | [] => misuse c.name 1 "missing file operand"
  | [a] =>
    match c.value? 't' with
    | some dir => within c dir [a]
    | none => misuse c.name 1 ("missing destination file operand after " ++ shellQuote a)
  | args =>
    match c.value? 't' with
    | some dir => within c dir args
    | none =>
      let target := args.getLast?.getD ""
      let sources := args.dropLast
      if c.has 'T' && sources.length > 1 then
        misuse c.name 1 ("extra operand " ++ shellQuote (args.getD 2 ""))
      let into ← isReceiver c target
      if into then pure (sources.map fun a => ⟨a, inside target (lastName a)⟩)
      else if sources.length = 1 then pure (sources.map fun a => ⟨a, target⟩)
      else
        let why ← match ← inspect target with
          | .ok _ => pure (Refusal.file .notDirectory)
          | .error e => pure e
        giveUp c.name 1 ("target " ++ shellQuote target ++ ": " ++ why.text)
where
  within (c : Call) (dir : String) (args : List String) : Work (List Placing) := do
    match ← inspect dir with
    | .ok s =>
      if s.kind == .directory then pure (args.map fun a => ⟨a, inside dir (lastName a)⟩)
      else giveUp c.name 1 ("target directory " ++ shellQuote dir ++ ": Not a directory")
    | .error e => giveUp c.name 1 ("target directory " ++ shellQuote dir ++ ": " ++ e.text)

/-- Do two answers tell of the same thing? -/
def sameFile (a b : Except Refusal Status) : Bool :=
  match a, b with
  | .ok x, .ok y => x.same y
  | _, _ => false

/-! ## Copying -/

/-- How a copy is made. -/
structure Copying where
  call : Call
  /-- The placing that the copy started with. -/
  top : Placing
  /-- Are links followed that are named, and those that are found on the way? -/
  followsNamed : Bool
  followsFound : Bool
  /-- The permissions that new files do not get. -/
  mask : Nat
  deriving Inhabited

namespace Copying

/-- Says why a copy failed. -/
def failed (k : Copying) (message : String) : Work Nat := do
  report k.call.name message
  pure 1

/-- Tells what is copied, if asked to. -/
def told (k : Copying) (p : Placing) : Work Unit := do
  if k.call.has 'v' then put k.call.name (shellQuote p.source ++ " -> " ++ shellQuote p.target ++ "\n")

/-- Gives a copy what is kept of the original. -/
def keep (k : Copying) (p : Placing) (s : Status) : Work Unit := do
  if k.call.has 'p' then
    let _ ← change (.touch p.target (some s.changed))
    let _ ← change (.setMode p.target s.mode)

/-- Opens the target of a copy: what is there, or something new. -/
def openTarget (k : Copying) (p : Placing) (s : Status) (isNew : Bool) : Work (Except Unit Nat) := do
  let refused (e : Refusal) : Work (Except Unit Nat) := do
    let e := if e == .file .isDirectory then Refusal.file .notDirectory else e
    report k.call.name ("cannot create regular file " ++ shellQuote p.target ++ ": " ++ e.text)
    pure (.error ())
  let fresh : Work (Except Unit Nat) := do
    match ← Work.ask (.openFile p.target
      { writable := true, create := true, exclusive := true, mode := s.mode % 0o1000 }) with
    | .ok fd => pure (.ok fd)
    | .error e =>
      match ← inspectLink p.target with
      | .ok t =>
        if e == .file .alreadyExists && t.kind == .link then
          report k.call.name ("not writing through dangling symlink " ++ shellQuote p.target)
          pure (.error ())
        else refused e
      | .error _ => refused e
  if isNew then fresh
  else
    match ← Work.ask (.openFile p.target { writable := true, truncate := true }) with
    | .ok fd => pure (.ok fd)
    | .error e =>
      if k.call.has 'f' then
        match ← change (.unlink p.target) with
        | .ok _ =>
          if k.call.has 'v' then put k.call.name ("removed " ++ shellQuote p.target ++ "\n")
          fresh
        | .error e =>
          report k.call.name ("cannot remove " ++ shellQuote p.target ++ ": " ++ e.text)
          pure (.error ())
      else refused e

/-- Copies the content of a file. -/
def content (k : Copying) (p : Placing) (s : Status) (isNew : Bool) : Work Nat := do
  match ← Work.ask (.openFile p.source .input) with
  | .error e => k.failed ("cannot open " ++ shellQuote p.source ++ " for reading: " ++ e.text)
  | .ok source =>
    match ← k.openTarget p s isNew with
    | .error _ =>
      close source
      pure 1
    | .ok target =>
      let text ← slurp source
      let wrong ← match text with
        | .ok text => writeAll target text
        | .error e => pure (some e)
      close source
      close target
      match wrong with
      | none =>
        k.keep p s
        pure 0
      | some e => k.failed ("error writing " ++ shellQuote p.target ++ ": " ++ e.text)

/-- Makes something new in place of a copy: a link, another name, a pipe. -/
def made (k : Copying) (what : String) (c : Change) : Work Nat := do
  match ← change c with
  | .ok _ => pure 0
  | .error e => k.failed ("cannot create " ++ what ++ ": " ++ e.text)

/-- What stands at the target of a copy, and whether that is nothing. -/
inductive Obstacle where
  | clear
  | present (s : Status)
  /-- The copy was refused, or there is nothing to do. -/
  | settled (status : Nat)
  deriving Inhabited

/-- Do a source and a target that are the same thing stand in the way of a copy? -/
def clashes (k : Copying) (p : Placing) (s t : Status) (follows : Bool) : Work Bool := do
  let c := k.call
  let sourceLink := (← inspectLink p.source).toOption.getD s
  let targetLink := (← inspectLink p.target).toOption.getD t
  let bothLinks := sourceLink.kind == .link && targetLink.kind == .link
  if !follows && bothLinks then pure (sourceLink.same targetLink)
  else if !s.same t then pure false
  else if c.has 'f' && targetLink.kind == .link then pure false
  else if c.has 'f' && sourceLink.same targetLink && targetLink.links > 1 && p.source != p.target then
    pure false
  else if c.has 's' && targetLink.kind == .link then pure false
  else pure true

/-- Looks at the target of a copy. -/
def obstacle (k : Copying) (p : Placing) (s : Status) (follows : Bool) : Work Obstacle := do
  let c := k.call
  let settled (message : String) : Work Obstacle := do
    let _ ← k.failed message
    pure (.settled 1)
  let plain := s.kind == .file || (s.kind != .directory && s.kind != .link && !c.has 'r')
  let itself := !plain || c.has 's' || c.has 'l'
  let target ← if itself then inspectLink p.target else inspect p.target
  match target with
  | .error e =>
    if e == .notFound || (p.target.endsWith "/" && e == .file .notDirectory) then pure .clear
    else if e == .file .tooManyLinks && c.has 'f' then pure .clear
    else settled ("cannot stat " ++ shellQuote p.target ++ ": " ++ e.text)
  | .ok t =>
    if c.has 'l' && s.same t then pure (.settled 0)
    else if ← k.clashes p s t follows then
      settled (shellQuote p.source ++ " and " ++ shellQuote p.target ++ " are the same file")
    else if s.kind != .directory && c.has 'n' then pure (.settled 0)
    else if s.kind != .directory && c.has 'u' && s.changed ≤ t.changed then pure (.settled 0)
    else if s.kind == .directory && t.kind != .directory then
      settled ("cannot overwrite non-directory " ++ shellQuote p.target ++ " with directory "
        ++ shellQuote p.source)
    else if s.kind != .directory && t.kind == .directory then
      settled ("cannot overwrite directory " ++ shellQuote p.target ++ " with non-directory"
        ++ (if c.has 'r' || c.has 'T' then "" else " " ++ shellQuote p.source))
    else if t.kind != .directory && ((!follows && s.kind != .file) || ((c.has 's' || c.has 'l') && c.has 'f'))
    then
      match ← change (.unlink p.target) with
      | .ok _ =>
        if c.has 'v' then put c.name ("removed " ++ shellQuote p.target ++ "\n")
        pure .clear
      | .error e => settled ("cannot remove " ++ shellQuote p.target ++ ": " ++ e.text)
    else pure (.present t)

/-- Copies what is in a directory, unless the copy would go into the directory itself. -/
def children (k : Copying) (copy : Placing → Work Nat) (p : Placing) : Work Nat := do
  let here ← inspect p.source
  let goal ← inspect k.top.target
  let within : Bool := match here, goal with
    | .ok a, .ok b => match a.location, b.location with
      | some a, some b => a.isPrefixOf b
      | _, _ => false
    | _, _ => false
  if within then
    k.failed ("cannot copy a directory, " ++ shellQuote p.source ++ ", into itself, "
      ++ shellQuote k.top.target)
  else
    match ← Work.ask (.entries p.source) with
    | .error e => k.failed ("cannot access " ++ shellQuote p.source ++ ": " ++ e.text)
    | .ok names => eachOf names fun name => copy ⟨inside p.source name, inside p.target name⟩

/-- Copies what a path leads to, or names, and everything below it. -/
def tree (k : Copying) : (limit : Nat) → (named : Bool) → Placing → Work Nat
  | 0, _, _ => pure 1
  | limit + 1, named, p => do
    let c := k.call
    let follows := if named then k.followsNamed else k.followsFound
    match ← (if follows then inspect p.source else inspectLink p.source) with
    | .error e => k.failed ("cannot stat " ++ shellQuote p.source ++ ": " ++ e.text)
    | .ok s =>
      if s.kind == .directory && !c.has 'r' then
        k.failed ("-r not specified; omitting directory " ++ shellQuote p.source)
      else
        match ← k.obstacle p s follows with
        | .settled status => pure status
        | o =>
          let isNew : Bool := match o with
            | .clear => true
            | _ => false
          if s.kind == .directory then
            if isNew then
              match ← change (.makeDirectory p.target 0o777) with
              | .error e =>
                k.failed ("cannot create directory " ++ shellQuote p.target ++ ": " ++ e.text)
              | .ok _ =>
                k.told p
                let worst ← k.children (tree k limit false) p
                let mode := Mode.without (s.mode % 0o1000) k.mask
                let _ ← change (.setMode p.target (if c.has 'p' then s.mode else mode))
                pure worst
            else k.children (tree k limit false) p
          else
            k.told p
            if c.has 's' then
              k.made ("symbolic link " ++ shellQuote p.target ++ " to " ++ shellQuote p.source)
                (.makeLink p.source p.target)
            else if c.has 'l' then
              k.made ("hard link " ++ shellQuote p.target ++ " to " ++ shellQuote p.source)
                (.addName p.source p.target)
            else if s.kind == .link then
              match ← Work.ask (.readLink p.source) with
              | .ok target =>
                k.made ("symbolic link " ++ shellQuote p.target) (.makeLink target p.target)
              | .error e =>
                k.failed ("cannot read symbolic link " ++ shellQuote p.source ++ ": " ++ e.text)
            else if s.kind == .pipe && c.has 'r' then
              k.made ("fifo " ++ shellQuote p.target) (.makeFifo p.target (s.mode % 0o1000))
            else k.content p s isNew

end Copying

/-- Copies files. -/
def cp : Program := fun argv _ => do
  let o := Options.make "abdfilnprst:uvxPRTHLDq"
    [("recursive", 'r'), ("force", 'f'), ("verbose", 'v'), ("no-clobber", 'n'), ("archive", 'a'),
     ("target-directory", 't'), ("no-target-directory", 'T'), ("dereference", 'L'),
     ("no-dereference", 'P'), ("link", 'l'), ("symbolic-link", 's'), ("one-file-system", 'x'),
     ("interactive", 'i'), ("remove-destination", 'D')]
  let o := { o with names := o.names ++ [("update", 'u', Takes.optional),
    ("preserve", 'p', Takes.optional), ("no-preserve", 'q', Takes.optional)] }
  let c ← call o 1 argv
  let also : List (Char × Option String) := c.options.flatMap fun o =>
    if o.1 == 'R' then [('r', none)]
    else if o.1 == 'a' then [('r', none), ('P', none), ('p', none)]
    else if o.1 == 'd' then [('P', none)]
    else [o]
  let c := { c with options := also }
  let all ← placings c
  let recursive := c.has 'r' && !c.has 'l'
  let (followsNamed, followsFound) := match c.last? ['P', 'L', 'H'] with
    | some 'P' => (false, false)
    | some 'L' => (true, true)
    | some _ => (true, false)
    | none => if recursive then (false, false) else (true, true)
  let mask ← Work.ask (.mask none)
  eachOf all fun p => do
    if c.has 'D' then
      let _ ← change (.unlink p.target)
    Copying.tree ⟨c, p, followsNamed, followsFound, mask⟩ depthLimit true p

/-! ## Moving -/

/-- Moves files. -/
def mv : Program := fun argv _ => do
  let o := Options.make "bfint:uvT"
    [("force", 'f'), ("verbose", 'v'), ("no-clobber", 'n'), ("target-directory", 't'),
     ("no-target-directory", 'T')]
  let o := { o with names := o.names ++ [("update", 'u', Takes.optional)] }
  let c ← call o 1 argv
  -- a last argument that is nowhere may still be named, if there are several sources
  let all ← placings c
  eachOf all fun p => do
    let failed (message : String) : Work Nat := do
      report c.name message
      pure 1
    let source ← inspectLink p.source
    let target ← inspectLink p.target
    let moving := "cannot move " ++ shellQuote p.source ++ " to "
    match source, target with
    | .error e, _ => failed ("cannot stat " ++ shellQuote p.source ++ ": " ++ e.text)
    | .ok _, .error e =>
      if e == .notFound || p.target.endsWith "/" then rename c p
      else failed ("cannot stat " ++ shellQuote p.target ++ ": " ++ e.text)
    | .ok s, .ok t =>
      let same := sameFile source target
      if c.has 'n' && !same then pure 0
      else if same && (s.kind == .directory || trimmed p.source == trimmed p.target) then
        failed (shellQuote p.source ++ " and " ++ shellQuote p.target ++ " are the same file")
      else if same then
        match ← change (.unlink p.source) with
        | .ok _ => told c p
        | .error e => failed ("cannot remove " ++ shellQuote p.source ++ ": " ++ e.text)
      else if c.has 'u' && s.kind != .directory && s.changed ≤ t.changed then pure 0
      else if s.kind == .directory && t.kind != .directory then
        failed ("cannot overwrite non-directory " ++ shellQuote p.target ++ " with directory "
          ++ shellQuote p.source)
      else if s.kind != .directory && t.kind == .directory then
        failed ("cannot overwrite directory " ++ shellQuote p.target ++ " with non-directory")
      else
        match ← change (.rename p.source p.target) with
        | .ok _ => told c p
        | .error .notEmpty => failed (moving ++ shellQuote p.target ++ ": Directory not empty")
        | .error .invalid =>
          failed (moving ++ "a subdirectory of itself, " ++ shellQuote p.target)
        | .error e => failed (moving ++ shellQuote p.target ++ ": " ++ e.text)
where
  told (c : Call) (p : Placing) : Work Nat := do
    if c.has 'v' then
      put c.name ("renamed " ++ shellQuote p.source ++ " -> " ++ shellQuote p.target ++ "\n")
    pure 0
  rename (c : Call) (p : Placing) : Work Nat := do
    match ← change (.rename p.source p.target) with
    | .ok _ => told c p
    | .error .invalid =>
      report c.name ("cannot move " ++ shellQuote p.source ++ " to a subdirectory of itself, "
        ++ shellQuote p.target)
      pure 1
    | .error e =>
      report c.name ("cannot move " ++ shellQuote p.source ++ " to " ++ shellQuote p.target ++ ": "
        ++ e.text)
      pure 1

/-! ## Linking -/

/-- The parts of an absolute path. -/
def pathNames (path : String) : List String := (path.splitOn "/").filter (· != "")

/-- A path as it is seen from a directory; both are absolute. -/
def seenFrom (directory path : List String) : String :=
  let common := (directory.zip path).takeWhile (fun e => e.1 == e.2) |>.length
  let up := List.replicate (directory.length - common) ".."
  let all := up ++ path.drop common
  if all.isEmpty then "." else "/".intercalate all

/-- The location of a path, or of the place where it would be. -/
def placeOf (path : String) : Work (Option Kernel.Status × Option Location) := do
  match ← inspect path with
  | .ok s => pure (some s, s.location)
  | .error _ =>
    let cs := (trimmed path).toList
    let up := String.ofList ((cs.reverse.dropWhile (· != '/')).reverse)
    match ← inspect (if up = "" then "." else up) with
    | .ok s => pure (none, s.location.map (· ++ [lastName path]))
    | .error _ => pure (none, none)

/-- Gives a file another name, or makes a link to it. -/
def linkOne (c : Call) (p : Placing) : Work Nat := do
  let symbolic := c.has 's'
  let failed (message : String) : Work Nat := do
    report c.name message
    pure 1
  let source ← if c.has 'L' then inspect p.source else inspectLink p.source
  let target ← inspectLink p.target
  let goal ← if !c.has 'r' then pure p.source
    else do
      let (_, there) ← placeOf p.source
      let (_, here) ← placeOf p.target
      pure (match there, here with
        | some there, some here => seenFrom here.dropLast there
        | _, _ => p.source)
  let make : Work Nat := do
    if c.has 'f' && target.isOk then
      let _ ← change (.unlink p.target)
    let real ← if c.has 'L' && !symbolic then do
        match ← inspect p.source with
        | .ok s => pure ((s.location.map fun l => "/" ++ "/".intercalate l).getD p.source)
        | .error _ => pure p.source
      else pure p.source
    match ← change (if symbolic then .makeLink goal p.target else .addName real p.target) with
    | .ok _ =>
      if c.has 'v' then
        put c.name (shellQuote p.target ++ (if symbolic then " -> " else " => ") ++ shellQuote goal
          ++ "\n")
      pure 0
    | .error e =>
      if symbolic then
        failed ("failed to create symbolic link " ++ shellQuote p.target
          ++ (if goal = "" then " -> " ++ shellQuote goal else "") ++ ": " ++ e.text)
      else if e == .file .alreadyExists || e == .noSpace then
        failed ("failed to create hard link " ++ shellQuote p.target ++ ": " ++ e.text)
      else
        failed ("failed to create hard link " ++ shellQuote p.target ++ " => " ++ shellQuote p.source
          ++ ": " ++ e.text)
  match source, symbolic with
  | .error e, false => failed ("failed to access " ++ shellQuote p.source ++ ": " ++ e.text)
  | s, _ =>
    let isDirectory : Bool := match s with
      | .ok s => s.kind == .directory
      | .error _ => false
    if isDirectory && !symbolic then
      failed (shellQuoteIfNeeded p.source ++ ": hard link not allowed for directory")
    else if !c.has 'f' then make
    else
      match target with
      | .error _ => make
      | .ok t =>
        if t.kind == .directory then
          failed (shellQuoteIfNeeded p.target ++ ": cannot overwrite directory")
        else if !symbolic && sameFile s target then
          if t.links > 1 && p.source != p.target then pure 0
          else failed (shellQuote p.source ++ " and " ++ shellQuote p.target ++ " are the same file")
        else make

/-- Makes links between files. -/
def ln : Program := fun argv _ => do
  let c ← call (.make "bdfFinst:vTrLP" [("symbolic", 's'), ("force", 'f'), ("verbose", 'v'),
    ("no-dereference", 'n'), ("target-directory", 't'), ("no-target-directory", 'T'),
    ("relative", 'r'), ("logical", 'L'), ("physical", 'P'), ("interactive", 'i')]) 1 argv
  if c.rest.isEmpty then misuse c.name 1 "missing file operand"
  let all ← match c.rest, c.value? 't' with
    | [a], none =>
      if c.has 'T' then misuse c.name 1 ("missing destination file operand after " ++ shellQuote a)
      pure [⟨a, inside "." (lastName a)⟩]
    | _, _ => placings c
  eachOf all (linkOne c)

/-- Gives a file another name. -/
def link : Program := fun argv _ => do
  let c ← call (.make "" []) 1 argv
  match c.rest with
  | [] => misuse c.name 1 "missing operand"
  | [a] => misuse c.name 1 ("missing operand after " ++ quote a)
  | [a, b] =>
    match ← change (.addName a b) with
    | .ok _ => pure 0
    | .error e =>
      giveUp c.name 1 ("cannot create link " ++ shellQuote b ++ " to " ++ shellQuote a ++ ": "
        ++ e.text)
  | _ :: _ :: extra :: _ => misuse c.name 1 ("extra operand " ++ quote extra)

end HardenAudit.Program
