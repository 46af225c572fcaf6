import HardenAudit.FileSystem.Setup
import HardenAudit.Shell.Arithmetic
import HardenAudit.Shell.Fields
import HardenAudit.Shell.Variables

/-!
# Expansion

Words become rows of cells: tildes, parameters, command substitutions and arithmetic expressions are
replaced by their values.
-/

namespace HardenAudit.Shell

/-- Where a word is expanded. -/
structure Place where
  /-- Is everything in double quotes? -/
  quoted : Bool := false
  /-- Is the result split into fields? -/
  full : Bool := false
  /-- Is it the word of a parameter, so that its own blanks split as well? -/
  inner : Bool := false
  /-- May it start with a tilde? -/
  tilde : Bool := false
  /-- Is it an assignment, in which tildes may stand at more places? -/
  assignment : Bool := false
  deriving Repr, Inhabited

/-- An expander of words at places. -/
abbrev Expander := Place → Word → Sh (List Cell)

/-- A command substitution: the output of a command. -/
abbrev Substitute := Command → Sh String

/-- The letters of options, in the order in which they are shown. -/
def optionOrder : List Char :=
  ['p', 'u', 'b', 'a', 'C', 'E', 'V', 'v', 'x', 's', 'n', 'm', 'i', 'I', 'f', 'e']

/-- The home of a user. -/
def homeOf? (user : String) : Option String :=
  (FileSystem.accounts.find? (·.1 == user)).map fun (_, _, _, _, home, _) => home

/-- Characters that do not split. -/
def solid (literal : Bool) (chars : List Char) : List Cell := chars.map (.char · literal false)

/-- Characters from outside: in quotes they stand for themselves, otherwise they split. -/
def foreign (quoted : Bool) (chars : List Char) : List Cell :=
  if quoted then solid true chars else .start false :: chars.map (.char · false true)

/-- The values of all arguments, with what stands between them. -/
def joinArguments (s : State) (quoted full : Bool) (at_ : Bool) : List Char :=
  let between : List Char :=
    if full && (!quoted || at_) then [Cell.gap]
    else
      match s.value? "IFS" with
      | none => [' ']
      | some text => text.toList.take 1
  between.intercalate (s.arguments.words.map (·.toList))

/-- The value of a parameter; none if it is not set. -/
def parameterValue (s : State) (quoted full : Bool) (name : String) : Option (List Char) :=
  match name with
  | "$" => some (toString s.pid).toList
  | "?" => some (toString s.status).toList
  | "#" => some (toString s.arguments.words.length).toList
  | "!" => if s.lastBackground = 0 then none else some (toString s.lastBackground).toList
  | "-" => some (optionOrder.filter s.options.contains)
  | "@" => some (joinArguments s quoted full true)
  | "*" => some (joinArguments s quoted full false)
  | _ =>
    match name.toNat? with
    | some 0 => some s.name.toList
    | some n => (s.arguments.words[n - 1]?).map (·.toList)
    | none => (s.value? name).map (·.toList)

/-- The cells of the value of a parameter. -/
def valueCells (s : State) (quoted : Bool) (name : String) (value : List Char) : List Cell :=
  if quoted && name == "@" && !s.arguments.words.isEmpty then
    .start true :: value.map (.char · true true)
  else foreign quoted value

/-- The tilde at the start of a word: the home that it stands for, and what follows. -/
def tilde? (s : State) (assignment : Bool) (rest : Word) : Option (String × Word) :=
  let ends (c : Char) : Bool := c == '/' || (assignment && c == ':')
  let name := (Word.plainStart rest).takeWhile (!ends ·)
  let after := rest.drop name.length
  let clean := match after with
    | [] => true
    | .plain _ :: _ => true
    | _ => false
  if !clean then none
  else
    let home := if name.isEmpty then s.value? "HOME" else homeOf? (String.ofList name)
    home.map (·, after)

namespace Sh

/-- The error about a missing value. -/
def demandValue (name : String) (empty : Bool) (message : Option String) : Sh (List Cell) :=
  match message with
  | some text => fail (name ++ ": " ++ text)
  | none => fail (name ++ ": parameter not set" ++ (if empty then " or null" else ""))

/-- Expands a parameter. -/
def expandParameter (self : Expander) (place : Place) (name : String) (form : Form) (word : Word) :
    Sh (List Cell) := do
  let s ← get
  let quoted := place.quoted
  let value := parameterValue s quoted place.full name
  let isMissing (empty : Bool) : Bool := match value with
    | none => true
    | some v => empty && v.isEmpty
  let found := valueCells s quoted name (value.getD [])
  let strict (m : Sh (List Cell)) : Sh (List Cell) := do
    if value.isNone && (← hasOption 'u') then demandValue name false none else m
  let inner : Place := { place with inner := true, tilde := true, assignment := false }
  match form with
  | .bad => fail "Bad substitution"
  | .value => strict (pure found)
  | .length =>
    strict (pure (foreign quoted (toString (value.getD []).length).toList))
  | .default empty => if isMissing empty then self inner word else pure found
  | .alternative empty => if isMissing empty then pure [] else self inner word
  | .assign empty =>
    if isMissing empty then
      let text := Cell.text (← self { tilde := true } word)
      assign name text false
      pure (valueCells (← get) quoted name text.toList)
    else pure found
  | .demand empty =>
    if isMissing empty then
      if word.isEmpty then demandValue name empty none
      else
        let text := Cell.text (← self { tilde := true } word)
        demandValue name empty (some text)
    else pure found
  | .trim atEnd longest =>
    strict do
      match value with
      | none => pure found
      | some v =>
        let pattern := Cell.pattern (← self { tilde := true } word)
        pure (valueCells s quoted name (Pattern.trim pattern atEnd longest v))

/-- The value of an arithmetic expression. -/
def evaluateArithmetic (text : String) : Sh Int64 := do
  let s ← get
  let scope : Arithmetic.Scope :=
    ⟨s.value?, fun name => ((s.vars.find? name).map (·.readOnly)).getD false⟩
  match Arithmetic.evaluate scope text with
  | .error (.wrong message) => fail ("arithmetic expression: " ++ message ++ ": \"" ++ text ++ "\"")
  | .error (.illegalNumber value) => fail ("Illegal number: " ++ value)
  | .error (.readOnly name) => fail (name ++ ": is read only")
  | .error .overflow => do
    let _ ← ask (.dispose Kernel.Signal.arithmetic .standard)
    let (pid, _) ← ask .identity
    let _ ← ask (.send pid Kernel.Signal.arithmetic)
    pure 0
  | .ok (n, assigned) =>
    for (name, n) in assigned do
      assign name (toString n) false
    pure n

/-- Expansion under way: what is left of the word, and the cells so far, in reverse. -/
structure Expanding where
  rest : Word
  cells : List Cell := []
  quoted : Bool := false
  /-- May a tilde stand here? -/
  tilde : Bool
  /-- Has the sign of the assignment been read? -/
  assigned : Bool := false
  /-- Is the last cell in a stretch of the word's own characters? -/
  running : Bool := false

/-- One piece of a word. -/
def expandPiece (self : Expander) (substitute : Substitute) (place : Place) (e : Expanding) :
    Sh (Expanding ⊕ List Cell) := do
  let go (e : Expanding) (rest : Word) (cells : List Cell) : Sh (Expanding ⊕ List Cell) :=
    pure (.inl { e with
      rest := rest, cells := cells.reverse ++ e.cells, tilde := false, running := false })
  let here : Place := { place with quoted := place.quoted || e.quoted, tilde := false }
  match e.rest with
  | [] => pure (.inr e.cells.reverse)
  | .plain c :: rest =>
    let s ← get
    match if c == '~' && e.tilde then tilde? s place.assignment rest else none with
    | some (home, after) => go e after (solid true home.toList)
    | none =>
      let split := place.inner && !place.quoted && !e.quoted
      let cells : List Cell :=
        if split then (if e.running then [] else [.start false]) ++ [.char c false true]
        else [.char c false false]
      let colon := place.assignment && (c == ':' || (c == '=' && !e.assigned))
      pure (.inl { e with
        rest := rest
        cells := cells.reverse ++ e.cells
        tilde := colon
        assigned := e.assigned || c == '='
        running := split })
  | .quoted c :: rest => go e rest [.char c true false]
  | .mark :: rest =>
    match e.quoted, rest with
    | false, .param "@" .value [] :: .mark :: rest =>
      let cells ← expandParameter self { place with quoted := true, tilde := false } "@" .value []
      go e rest cells
    | _, _ => go { e with quoted := !e.quoted } rest [.mark]
  | .param name form word :: rest =>
    let cells ← expandParameter self here name form word
    go e rest cells
  | .command body :: rest =>
    let text ← substitute body
    go e rest (foreign here.quoted text.toList)
  | .arith word :: rest =>
    let text := Cell.text (← self {} word)
    let n ← evaluateArithmetic text
    go e rest (foreign here.quoted (toString n).toList)

/-- Expands a word; `limit` bounds how deep words are nested. -/
def expand (substitute : Substitute) : (limit : Nat) → Expander
  | 0, _, _ => pure []
  | limit + 1, place, word =>
    iterate (expandPiece (expand substitute limit) substitute place) Kernel.endless
      { rest := word, tilde := place.tilde }

/-- Words nested in each other at most. -/
def nesting : Nat := 0x10000000

/-- The text of a word that is not split. -/
def expandText (substitute : Substitute) (place : Place) (word : Word) : Sh String := do
  let cells ← expand substitute nesting place word
  pure (Cell.text cells)

end Sh
end HardenAudit.Shell

/-!
## Paths that match a pattern

A field in which a pattern stands becomes the paths that match it, in order, or stays as it is if
there is none.  A name that starts with a dot is matched only by a pattern that starts with one.
-/

namespace HardenAudit.Shell

/-- The parts of a pattern between slashes. -/
def patternParts : List Pattern.Atom → List (List Pattern.Atom)
  | [] => [[]]
  | a :: rest =>
    match patternParts rest with
    | [] => [[a]]
    | part :: parts => if a.1 == '/' then [] :: part :: parts else (a :: part) :: parts

/-- Does the part of a pattern match a name? -/
def matchesName (part : List Pattern.Atom) (name : String) : Bool :=
  let hidden := name.startsWith "."
  let dotted := ((Pattern.unescape part).head?.map (·.1)) == some '.'
  (!hidden || dotted) && Pattern.isMatch part name.toList

namespace Sh

/-- The paths below a start that match the parts of a pattern. -/
def pathsFrom : (parts : List (List Pattern.Atom)) → (start : String) → Sh (List String)
  | [], _ => pure []
  | part :: rest, start => do
    let further (name : String) : Sh (List String) :=
      if rest.isEmpty then pure [start ++ name] else pathsFrom rest (start ++ name ++ "/")
    if Pattern.isActive part then
      match ← ask (.entries (if start = "" then "." else start)) with
      | .error _ => pure []
      | .ok names =>
        let found := (["." , ".."] ++ names).filter (matchesName part)
        let mut all := []
        for name in found do
          let paths ← further name
          all := all ++ paths
        pure all
    else
      let name := String.ofList ((Pattern.unescape part).map (·.1))
      if rest.isEmpty then
        match ← ask (.inspect (start ++ name)) with
        | .ok _ => pure [start ++ name]
        | .error _ => pure []
      else pathsFrom rest (start ++ name ++ "/")

/-- A field after patterns are replaced by paths. -/
def globField (field : List Cell) : Sh (List String) := do
  let pattern := Cell.pattern field
  let off ← hasOption 'f'
  if off || !Pattern.isActive pattern then pure [Cell.text field]
  else
    let found ← pathsFrom (patternParts pattern) ""
    pure (if found.isEmpty then [Cell.text field]
      else found.mergeSort fun a b => a ≤ b)

/-- The fields of a word. -/
def expandFields (substitute : Substitute) (word : Word) : Sh (List String) := do
  let cells ← expand substitute nesting { full := true, tilde := true } word
  let fields := splitFields (← get).separators none cells
  let mut all := []
  for field in fields do
    let found ← globField field
    all := all ++ found
  pure all

end Sh
end HardenAudit.Shell
