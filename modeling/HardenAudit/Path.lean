/-!
# Paths as texts

A path is a text that is kept exactly as it was given.  What it means lexically is read off the
pieces between its slashes: an empty piece or a `.` names nothing, `..` goes up, and anything else
is a name.  A leading `.` is the one dot that counts, as an anchor of its own.
-/

namespace HardenAudit

/-- A path, as written. -/
structure Path where
  text : String
  deriving DecidableEq, Repr, Inhabited

namespace Path

/-- The stretches between slashes; joining them with slashes gives the text back. -/
def splitSlash : List Char → List (List Char)
  | [] => [[]]
  | c :: rest =>
    match splitSlash rest with
    | [] => [[c]]
    | piece :: pieces => if c = '/' then [] :: piece :: pieces else (c :: piece) :: pieces

/-- Pieces with a slash between each two of them. -/
def joinSlash (pieces : List (List Char)) : List Char := ['/'].intercalate pieces

/-- A piece that names nothing. -/
def isIdle (piece : List Char) : Bool := piece == [] || piece == ['.']

/-- The pieces without the idle ones at the end. -/
def trimIdle (pieces : List (List Char)) : List (List Char) :=
  (pieces.reverse.dropWhile isIdle).reverse

/-- The root slash or the leading dot of a path, and what follows it. -/
def anchor : List Char → List Char × List Char
  | '/' :: rest => (['/'], rest)
  | ['.'] => (['.'], [])
  | '.' :: '/' :: rest => (['.'], '/' :: rest)
  | cs => ([], cs)

/-- Does the path start at the root? -/
def isAbsolute (p : Path) : Bool := p.text.toList.head? == some '/'

/-- The pieces behind the anchor, up to the last one that names something. -/
def body (p : Path) : List (List Char) := trimIdle (splitSlash (anchor p.text.toList).2)

/-- The path without its last component; there is none for the root and for the empty path. -/
def parent? (p : Path) : Option Path :=
  let head := (anchor p.text.toList).1
  match p.body with
  | [] => if head = ['.'] then some ⟨""⟩ else none
  | pieces => some ⟨String.ofList (head ++ joinSlash (trimIdle pieces.dropLast))⟩

/-- The last component, unless it goes up. -/
def fileName? (p : Path) : Option String :=
  match p.body.getLast? with
  | none => none
  | some piece => if piece = ['.', '.'] then none else some (String.ofList piece)

/-- A file name up to its last dot; a dot in the first place does not count. -/
def stemOf (name : List Char) : List Char :=
  let before := (name.reverse.dropWhile (· != '.')).drop 1
  if before = [] then name else before.reverse

/-- The file name without its extension. -/
def stem? (p : Path) : Option String :=
  p.fileName?.map fun name => String.ofList (stemOf name.toList)

/-- `child` seen from `base`: an absolute child stands for itself. -/
def join (base child : Path) : Path :=
  if child.isAbsolute || base.text == "" then child
  else if base.text.toList.getLast? == some '/' then ⟨base.text ++ child.text⟩
  else ⟨base.text ++ "/" ++ child.text⟩

end Path
end HardenAudit
