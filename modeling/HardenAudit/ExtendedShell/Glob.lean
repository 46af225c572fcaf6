import HardenAudit.ExtendedShell.Expansion

/-!
# Paths that match a pattern

A field in which a pattern stands becomes the paths that match it, in order, or stays as it is if there
is none.
-/

namespace HardenAudit.ExtendedShell

/-- The parts of a row of atoms between slashes. -/
def pathParts : List Pattern.Atom → List (List Pattern.Atom)
  | [] => [[]]
  | a :: rest =>
    match pathParts rest with
    | [] => [[a]]
    | part :: parts => if a.1 == '/' then [] :: part :: parts else (a :: part) :: parts

namespace Sh

/-- How names are looked for. -/
structure Search where
  groups : Bool
  hidden : Bool
  deep : Bool
  manner : Pattern.Manner
  deriving Inhabited

/-- The names in a directory, which are none if there is no such directory. -/
def namesIn (directory : String) : Sh (List String) := do
  match ← ask (.entries (if directory = "" then "." else directory)) with
  | .ok names => pure names
  | .error _ => pure []

/-- Is the path a directory itself, and not a link to one? -/
def isPlainDirectory (path : String) : Sh Bool := do
  match ← ask (.inspectLink path) with
  | .ok s => pure (s.kind == .directory)
  | .error _ => pure false

/-- All directories below a start, itself included, in the form in which further names are added;
`limit` bounds their depth. -/
def directoriesBelow (search : Search) : (limit : Nat) → (start : String) → Sh (List String)
  | 0, start => pure [start]
  | limit + 1, start => do
    let names ← namesIn start
    let mut all := [start]
    for name in names do
      if search.hidden || !name.startsWith "." then
        if ← isPlainDirectory (start ++ name) then
          let more ← directoriesBelow search limit (start ++ name ++ "/")
          all := all ++ more
    pure all

/-- Directories nested in each other at most. -/
def depthOfPaths : Nat := 64

/-- The paths below a start that match the parts of a pattern. -/
def pathsFrom (search : Search) : (parts : List (List Pattern.Atom)) → (start : String) → Sh (List String)
  | [], _ => pure []
  | part :: rest, start => do
    let items := Pattern.ofAtoms search.groups part
    let further (name : String) : Sh (List String) :=
      if rest.isEmpty then pure [start ++ name] else pathsFrom search rest (start ++ name ++ "/")
    if search.deep && part == [('*', false), ('*', false)] then
      let directories ← directoriesBelow search depthOfPaths start
      let mut all := []
      for d in directories do
        if rest.isEmpty then
          let names ← namesIn d
          all := all ++ (names.filter fun n => search.hidden || !n.startsWith ".").map (d ++ ·)
        else
          let more ← pathsFrom search rest d
          all := all ++ more
      pure all
    else if Pattern.isActive items then
      let names ← namesIn start
      let dotted := (part.head?.map (·.1)) == some '.'
      let fits (name : String) : Bool :=
        (search.hidden || dotted || !name.startsWith ".")
          && Pattern.isMatch search.manner items name.toList
      let mut all := []
      for name in names.filter fits do
        let paths ← further name
        all := all ++ paths
      pure all
    else
      let name := String.ofList ((Pattern.literal? items).getD [])
      if rest.isEmpty then
        let path := start ++ name
        let there : Except Kernel.Refusal Kernel.Status ←
          if name == "" then ask (.inspect path) else ask (.inspectLink path)
        match there with
        | .ok s => pure (if name == "" && s.kind != .directory then [] else [path])
        | .error _ => pure []
      else pathsFrom search rest (start ++ name ++ "/")

/-- A field after patterns are replaced by paths. -/
def globField (field : List Cell) : Sh (List String) := do
  let atoms := Cell.atoms field
  let groups ← hasExtra "extglob"
  let items := Pattern.ofAtoms groups atoms
  let off ← hasOption "noglob"
  if off || !Pattern.isActive items then pure [Cell.text field]
  else
    let search : Search :=
      { groups := groups
        hidden := ← hasExtra "dotglob"
        deep := ← hasExtra "globstar"
        manner := { folded := ← hasExtra "nocaseglob" } }
    let found ← pathsFrom search (pathParts atoms) ""
    if !found.isEmpty then pure ((found.eraseDups).mergeSort fun a b => a ≤ b)
    else if ← hasExtra "failglob" then
      warnPlain ("no match: " ++ Cell.text field)
      discard
    else if ← hasExtra "nullglob" then pure []
    else pure [Cell.text field]

/-- The fields of a word. -/
def expandWord (services : Services) (w : Word) : Sh (List String) := do
  let braces ← hasOption "braceexpand"
  let ifs ← separators
  let mut all := []
  for w in (if braces then Braces.words w else [w]) do
    let cells ← cellsOf services { full := true, tilde := true } w.pieces
    for field in splitFields ifs cells do
      let found ← globField field
      all := all ++ found
  pure all

/-- The fields of words. -/
def expandWords (services : Services) (ws : List Word) : Sh (List String) := do
  let mut all := []
  for w in ws do
    let found ← expandWord services w
    all := all ++ found
  pure all

end Sh
end HardenAudit.ExtendedShell
