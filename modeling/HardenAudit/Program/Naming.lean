import HardenAudit.Program.Copying

/-!
# Programs about the names of files
-/

namespace HardenAudit.Program

open Kernel (Work)

/-- A name without an ending, unless that is all of it. -/
def withoutEnding (name ending : String) : String :=
  if name != ending && ending != "" && name.endsWith ending then
    String.ofList (name.toList.take (name.length - ending.length))
  else name

/-- Shows the last components of paths. -/
def basename : Program := fun argv _ => do
  let c ← call { Options.make "as:z" [("multiple", 'a'), ("suffix", 's'), ("zero", 'z')] with
    strict := true } 1 argv
  let gap := if c.has 'z' then (Char.ofNat 0).toString else "\n"
  let show_ (ending path : String) : String := withoutEnding (lastName path) ending ++ gap
  if c.rest.isEmpty then misuse c.name 1 "missing operand"
  if c.has 'a' || c.has 's' then
    put c.name (String.join (c.rest.map (show_ ((c.value? 's').getD ""))))
  else
    match c.rest with
    | [path] => put c.name (show_ "" path)
    | [path, ending] => put c.name (show_ ending path)
    | _ => misuse c.name 1 ("extra operand " ++ quote (c.rest.getD 2 ""))
  pure 0

/-- A path without its last component. -/
def parentOf (path : String) : String :=
  let back := path.toList.reverse.dropWhile (· == '/')
  let back := back.dropWhile (· != '/')
  let up := (back.dropWhile (· == '/')).reverse
  if !up.isEmpty then String.ofList up
  else if path.startsWith "/" then "/" else "."

/-- Shows paths without their last components. -/
def dirname : Program := fun argv _ => do
  let c ← call (.make "z" [("zero", 'z')]) 1 argv
  if c.rest.isEmpty then misuse c.name 1 "missing operand"
  let gap := if c.has 'z' then (Char.ofNat 0).toString else "\n"
  put c.name (String.join (c.rest.map fun p => parentOf p ++ gap))
  pure 0

/-- Shows the current directory. -/
def pwd : Program := fun argv env => do
  let c ← call (.make "LP" [("logical", 'L'), ("physical", 'P')]) 1 argv
  let claimed := (env.lookup "PWD").getD ""
  let logical ← if c.last? ['L', 'P'] != some 'L' || !claimed.startsWith "/" then pure false
    else do
      pure (match ← inspect claimed, ← inspect "." with
        | .ok a, .ok b => a.same b && !(claimed.splitOn "/").any fun n => n == "." || n == ".."
        | _, _ => false)
  if logical then
    put c.name (claimed ++ "\n")
    pure 0
  else
    match ← Work.ask .here with
    | .ok here =>
      put c.name (here ++ "\n")
      pure 0
    | .error e => giveUp c.name 1 ("error retrieving current directory: " ++ e.text)

/-! ## Locations -/

/-- What may be missing on the way to a location. -/
inductive Lenience where
  | nothing
  | last
  | anything
  deriving DecidableEq, Repr, Inhabited

/-- The location that some pieces lead to from another one.  Each round takes a piece, or replaces it
by the target of a link; `limit` bounds the rounds, and `links` the links. -/
def canonical (l : Lenience) : (limit links : Nat) → (done todo : List String) →
    Work (Except Kernel.Refusal (List String))
  | 0, _, _, _ => pure (.error (.file .tooManyLinks))
  | _, _, done, [] => pure (.ok done)
  | limit + 1, links, done, piece :: rest => do
    if piece = "" || piece = "." then canonical l limit links done rest
    else if piece = ".." then canonical l limit links done.dropLast rest
    else
      let place := done ++ [piece]
      let path := "/" ++ "/".intercalate place
      match ← Work.ask (.readLink path) with
      | .ok target =>
        if links = 0 then pure (.error (.file .tooManyLinks))
        else
          canonical l limit (links - 1) (if target.startsWith "/" then [] else done)
            (target.splitOn "/" ++ rest)
      | .error .invalid =>
        if rest.isEmpty || l == .anything then canonical l limit links place rest
        else if ← isDirectory path then canonical l limit links place rest
        else pure (.error (.file .notDirectory))
      | .error e =>
        let isLast := rest.all fun p => p = "" || p = "."
        if l == .anything || (l == .last && e == .notFound && isLast) then
          canonical l limit links place rest
        else pure (.error e)

/-- The location of a path as a path from the root. -/
def canonicalPath (l : Lenience) (path : String) : Work (Except Kernel.Refusal String) := do
  if path = "" then pure (.error .notFound)
  else
    let start ← if path.startsWith "/" then pure []
      else do
        match ← Work.ask .here with
        | .ok here => pure (pathNames here)
        | .error _ => pure []
    let pieces := path.splitOn "/"
    let r ← canonical l 100000 FileSystem.linkLimit start pieces
    pure (r.map fun place => "/" ++ "/".intercalate place)

/-- Shows the locations that paths lead to. -/
def realpath : Program := fun argv _ => do
  let c ← call (.make "efmsqzr:LP" [("canonicalize-existing", 'e'), ("canonicalize-missing", 'm'),
    ("quiet", 'q'), ("zero", 'z'), ("no-symlinks", 's'), ("strip", 's'), ("relative-to", 'r')]) 1 argv
  if c.rest.isEmpty then misuse c.name 1 "missing operand"
  let l := match c.last? ['e', 'f', 'm'] with
    | some 'e' => Lenience.nothing
    | some 'm' => .anything
    | _ => .last
  let base ← match c.value? 'r' with
    | none => pure none
    | some dir => do
      match ← canonicalPath l dir with
      | .ok place => pure (some (pathNames place))
      | .error e => giveUp c.name 1 (shellQuoteIfNeeded dir ++ ": " ++ e.text)
  let gap := if c.has 'z' then (Char.ofNat 0).toString else "\n"
  eachOf c.rest fun path => do
    match ← canonicalPath l path with
    | .ok place =>
      put c.name ((match base with
        | some b => seenFrom b (pathNames place)
        | none => place) ++ gap)
      pure 0
    | .error e =>
      if !c.has 'q' then report c.name (shellQuoteIfNeeded path ++ ": " ++ e.text)
      pure 1

/-- Shows where links lead. -/
def readlink : Program := fun argv _ => do
  let c ← call (.make "efmnsqvz" [("canonicalize", 'f'), ("canonicalize-existing", 'e'),
    ("canonicalize-missing", 'm'), ("no-newline", 'n'), ("quiet", 'q'), ("silent", 's'),
    ("verbose", 'v'), ("zero", 'z')]) 1 argv
  if c.rest.isEmpty then misuse c.name 1 "missing operand"
  let several := c.rest.length > 1
  if several && c.has 'n' then report c.name "ignoring --no-newline with multiple arguments"
  let gap := if c.has 'n' && !several then "" else if c.has 'z' then (Char.ofNat 0).toString else "\n"
  let find (path : String) : Work (Except Kernel.Refusal String) :=
    match c.last? ['e', 'f', 'm'] with
    | some 'e' => canonicalPath .nothing path
    | some 'f' => canonicalPath .last path
    | some _ => canonicalPath .anything path
    | none => Work.ask (.readLink path)
  eachOf c.rest fun path => do
    match ← find path with
    | .ok place =>
      put c.name (place ++ gap)
      pure 0
    | .error e =>
      if c.has 'v' then report c.name (shellQuoteIfNeeded path ++ ": " ++ e.text)
      pure 1

end HardenAudit.Program
