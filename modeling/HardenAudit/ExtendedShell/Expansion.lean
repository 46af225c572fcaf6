import HardenAudit.ExtendedShell.Arithmetic
import HardenAudit.ExtendedShell.Braces
import HardenAudit.ExtendedShell.Fields
import HardenAudit.ExtendedShell.Lexer
import HardenAudit.ExtendedShell.Variables
import HardenAudit.Shell.Expansion

/-!
# Declarations and expansion

## Variables as declarations

A variable is shown as the command that declares it.
-/

namespace HardenAudit.ExtendedShell.Declaration

/-- The letters of the attributes of a variable. -/
def flags (v : Variable) : String :=
  let kind := match v.value with
    | .list _ => "a"
    | .table _ => "A"
    | .text _ => ""
  kind ++ (if v.integer then "i" else "") ++ (if v.reference then "n" else "")
    ++ (if v.readOnly then "r" else "") ++ (if v.traced then "t" else "") ++ (if v.exported then "x" else "")
    ++ (if v.capital then "c" else "") ++ (if v.lower then "l" else "") ++ (if v.upper then "u" else "")

/-- A key of a table, in quotes if it needs them. -/
def keyText (key : String) : String :=
  if Quoting.isUnprintable key then Quoting.dollar key
  else if Quoting.needsQuotes key || key == "" || key == "@" then Quoting.double key
  else key

/-- The value of a variable. -/
def valueText (v : Value) : String :=
  match v with
  | .text s => Quoting.declared s
  | .list s =>
    "(" ++ " ".intercalate (s.entries.toList.map fun e =>
      "[" ++ toString e.1 ++ "]=" ++ Quoting.declared e.2) ++ ")"
  | .table t =>
    "(" ++ String.join (t.entries.map fun e =>
      "[" ++ keyText e.key ++ "]=" ++ Quoting.declared e.value ++ " ") ++ ")"

/-- The command that declares a variable. -/
def shown (name : String) (v : Variable) : String :=
  let letters := flags v
  "declare -" ++ (if letters == "" then "-" else letters) ++ " " ++ name
    ++ (if v.isSet then "=" ++ valueText v.value else "")

/-- A variable in the list of all variables. -/
def listed (name : String) (v : Variable) : String :=
  match v.value with
  | .text s => name ++ "=" ++ Quoting.listed s
  | value => name ++ "=" ++ valueText value

end HardenAudit.ExtendedShell.Declaration

/-!
## Expansion

Words become rows of cells: tildes, parameters, command substitutions and expressions are replaced by
their values.
-/

namespace HardenAudit.ExtendedShell

/-- Where a word is expanded. -/
structure Place where
  /-- Is everything in double quotes? -/
  quoted : Bool := false
  /-- Is the result split into fields? -/
  full : Bool := false
  /-- Is it the word of a parameter, so that its own blanks split as well? -/
  inner : Bool := false
  /-- May it start with a tilde? -/
  tilde : Bool := false
  /-- Is it the value of an assignment, in which tildes may stand at more places? -/
  assignment : Bool := false
  deriving Repr, Inhabited

/-- What expansion needs of the rest of the shell. -/
structure Services where
  /-- The output of commands. -/
  output : Command → Sh String
  /-- The output of commands that are still a text. -/
  outputOf : String → Sh String
  /-- The path of a pipe to or from commands. -/
  pipe : (reads : Bool) → Command → Sh String

/-- An expander of pieces at places. -/
abbrev Expander := Place → List Piece → Sh (List Cell)

/-- The value of a parameter. -/
inductive Found where
  | none
  | one (s : String)
  /-- Several values, which stars join. -/
  | many (vs : List String) (star : Bool)
  deriving Repr, Inhabited

namespace Found

/-- Is there no value? -/
def isMissing (empty : Bool) : Found → Bool
  | none => true
  | one s => empty && s == ""
  | many vs _ => vs.isEmpty || (empty && vs.all (· == ""))

/-- The value with a function applied to all of its parts. -/
def map (f : String → String) : Found → Found
  | none => none
  | one s => one (f s)
  | many vs star => many (vs.map f) star

end Found

/-- A text with some of its letters changed. -/
def relettered (how : Lettering) (all : Bool) (pattern : List Pattern.Item) (text : String) : String :=
  let change (c : Char) : Char := match how with
    | .upper => c.toUpper
    | .lower => c.toLower
    | .toggled => if c.isUpper then c.toLower else c.toUpper
  let fits (c : Char) : Bool := pattern.isEmpty || Pattern.isMatch {} pattern [c]
  match text.toList with
  | [] => ""
  | c :: cs =>
    let one (c : Char) : Char := if fits c then change c else c
    String.ofList (if all then (c :: cs).map one else one c :: cs)

/-- What takes the place of a match: the sign for it stands for the match itself. -/
def replacement (atoms : List Pattern.Atom) (match_ : List Char) : List Char :=
  match atoms with
  | [] => []
  | ('\\', false) :: ('&', _) :: rest => '&' :: replacement rest match_
  | ('\\', false) :: ('\\', false) :: rest => '\\' :: replacement rest match_
  | ('&', false) :: rest => match_ ++ replacement rest match_
  | (c, _) :: rest => c :: replacement rest match_

/-- A text with matches replaced. -/
def substituted (m : Pattern.Manner) (extent : Extent) (pattern : List Pattern.Item)
    (by_ : List Pattern.Atom) (text : String) : String :=
  let cs := text.toList
  let make := replacement by_
  if pattern.isEmpty && extent != .atStart && extent != .atEnd then text
  else
    String.ofList (match extent with
      | .all => Pattern.replaceFrom m pattern make true (cs.length + 1) cs
      | .first =>
        if cs.isEmpty && Pattern.isMatch m pattern [] then make []
        else Pattern.replaceFrom m pattern make false (cs.length + 1) cs
      | .atStart =>
        match Pattern.longestAt m pattern cs with
        | some k => make (cs.take k) ++ cs.drop k
        | none => cs
      | .atEnd =>
        match (List.range (cs.length + 1)).find? fun k => Pattern.isMatch m pattern (cs.drop k) with
        | some k => cs.take k ++ make (cs.drop k)
        | none => cs)

/-- A text with the escapes of quotes behind a dollar replaced. -/
def escapesReplaced (text : String) : String :=
  String.ofList (unescapeDollar (text.length + 1) text.toList)

namespace Sh

/-- The value of the parameter for options. -/
def optionLettersNow : Sh String := do
  let s ← get
  let isOn (c : Char) : Bool :=
    s.options.contains c.toString || optionNames.any fun o => o.2 == some c && s.options.contains o.1
  pure (String.ofList (optionLetters.filter isOn))

/-- The status of a shell that ends because a value is missing. -/
def fatalStatus : Sh Nat := do
  let s ← get
  pure (if s.origin == .text && s.subshell == 0 then 127 else 1)

/-- Complains about a value that is not there, and ends the shell. -/
def unbound {α : Type} (shown : String) : Sh α := do
  warnPlain (shown ++ ": unbound variable")
  leave (← fatalStatus)

/-- A special parameter. -/
def special? (name : String) : Sh (Option Found) := do
  let s ← get
  match name with
  | "@" => pure (some (.many s.arguments false))
  | "*" => pure (some (.many s.arguments true))
  | "$" => pure (some (.one (toString s.pid)))
  | "?" => pure (some (.one (toString s.status)))
  | "#" => pure (some (.one (toString s.arguments.length)))
  | "!" => pure (some (if s.lastBackground = 0 then .none else .one (toString s.lastBackground)))
  | "-" => do
    let letters ← optionLettersNow
    pure (some (.one letters))
  | _ =>
    if name != "" && name.toList.all Char.isDigit then
      match (Shell.digits 10 name.toList 0 0).1 with
      | 0 => pure (some (.one s.name))
      | n + 1 => pure (some (match s.arguments[n]? with
        | some v => .one v
        | none => .none))
    else pure none

/-- All values of a variable. -/
def allValues (v : Option Variable) : List String :=
  match v with
  | some v => if v.isSet then v.value.all else []
  | none => []

/-- The value of what a text names: a parameter, a variable or an element. -/
def namedValue (text : String) : Sh Found := do
  match ← special? text with
  | some f => pure f
  | none =>
    let target ← follow text
    let (name, sub) := splitSubscript target
    let v ← find? name
    match sub with
    | some "@" => pure (.many (allValues v) false)
    | some "*" => pure (.many (allValues v) true)
    | none =>
      match v with
      | some v =>
        pure (match if v.isSet then v.value.get? .whole else none with
          | some t => .one t
          | none => .none)
      | none => pure .none
    | some sub =>
      match ← keyToRead name sub with
      | none => pure .none
      | some key =>
        match v with
        | some v =>
          pure (match if v.isSet then v.value.get? key else none with
            | some t => .one t
            | none => .none)
        | none => pure .none

/-- A part of a list from a place on. -/
def slice (values : List String) (start : Nat) (length : Option Nat) : List String :=
  let rest := values.drop start
  match length with
  | some n => rest.take n
  | none => rest

/-- A part of a text or of several values. -/
def partOf (name : String) (sub : Subscript) (found : Found) (start : Int) (length : Option Int) :
    Sh Found := do
  let negative (n : Int) : Sh Found := do
    warnPlain (toString n ++ ": substring expression < 0")
    discard
  match found with
  | .none => pure .none
  | .one s =>
    let size : Int := s.length
    let first := if start < 0 then size + start else start
    if first < 0 || first > size then pure (.one "")
    else
      let last := match length with
        | none => size
        | some n => if n < 0 then size + n else min size (first + n)
      if last < first then negative (length.getD 0)
      else pure (.one (String.ofList ((s.toList.drop first.toNat).take (last - first).toNat)))
  | .many vs star =>
    if length.any fun n => decide (n < 0) then negative (length.getD 0)
    else
      let count := length.map Int.toNat
      match name with
      | "@" | "*" =>
        let all := (← get).name :: vs
        let first := if start < 0 then (all.length : Int) + start else start
        if first < 0 then pure (.many [] star)
        else if start == 0 then pure (.many (slice all 0 count) star)
        else pure (.many (slice all first.toNat count) star)
      | _ =>
        let keys : List Nat ← match sub, ← find? name with
          | _, some { value := .list s, .. } => pure s.keys
          | _, _ => pure (List.range vs.length)
        let top : Int := match keys.getLast? with
          | some k => (k : Int) + 1
          | none => 0
        let first := if start < 0 then top + start else start
        if first < 0 then pure (.many [] star)
        else
          let before := (keys.takeWhile fun (k : Nat) => decide ((k : Int) < first)).length
          pure (.many (slice vs before count) star)

/-- A value in another shape. -/
def transformed (letter : Char) (name : String) (v : Option Variable) (text : String) : String :=
  match letter with
  | 'Q' => Quoting.single text |> fun q => if Quoting.isUnprintable text then Quoting.dollar text else q
  | 'U' => relettered .upper true [] text
  | 'u' => relettered .upper false [] text
  | 'L' => relettered .lower true [] text
  | 'E' => escapesReplaced text
  | 'A' =>
    let flags := (v.map Declaration.flags).getD ""
    let value := Quoting.reusable text
    if flags == "" then name ++ "=" ++ value else "declare -" ++ flags ++ " " ++ name ++ "=" ++ value
  | 'a' => (v.map Declaration.flags).getD ""
  | 'K' | 'k' => Quoting.reusable text
  | _ => text

/-- The cells of a value. -/
def valueCells (place : Place) (found : Found) : Sh (List Cell) := do
  let quoted := place.quoted
  match found with
  | .none => pure []
  | .one s => pure (Cell.foreign quoted s)
  | .many vs star =>
    let joined (between : String) : List Cell :=
      Cell.foreign quoted (between.intercalate vs)
    let ifs ← lookup "IFS"
    let first := match ifs with
      | none => " "
      | some t => String.ofList (t.toList.take 1)
    if place.full then
      if quoted && star then pure (joined first)
      else
        let each (v : String) : List Cell :=
          if quoted then .mark :: Cell.foreign true v else Cell.foreign false v
        pure ([Cell.gap].intercalate (vs.map each))
    else pure (joined (if star then first else " "))

/-- The home that a tilde stands for, and what is behind it. -/
def tilde? (assignment : Bool) (rest : List Piece) : Sh (Option (String × List Piece)) := do
  let plain := rest.takeWhile fun (p : Piece) => match p with
    | .plain c => c != '/' && !(assignment && c == ':')
    | _ => false
  let after := rest.drop plain.length
  let clean := match after with
    | [] => true
    | .plain _ :: _ => true
    | _ => false
  if !clean then pure none
  else
    let name := String.ofList (plain.filterMap fun (p : Piece) => match p with
      | .plain c => some c
      | _ => none)
    let home ← match name with
      | "" => do
        let h ← lookup "HOME"
        pure (some (h.getD "/root"))
      | "+" => lookup "PWD"
      | "-" => lookup "OLDPWD"
      | user => pure (Shell.homeOf? user)
    pure (home.map (·, after))

section
variable (services : Services) (self : Expander)

/-- The text of pieces that are not split. -/
def textOf (place : Place) (ps : List Piece) : Sh String := do
  let cells ← self place ps
  pure (Cell.text cells)

/-- The pattern that pieces are. -/
def patternOf (ps : List Piece) : Sh (List Pattern.Item) := do
  let cells ← self { tilde := true } ps
  let groups ← hasExtra "extglob"
  pure (Pattern.ofAtoms groups (Cell.atoms cells))

/-- The text of a subscript. -/
def subscriptText (w : Word) : Sh String := textOf self {} w.pieces

/-- The value of a parameter with a subscript, and how it is shown in complaints.  An element that cannot
be there has no length. -/
def valueAt (name : String) (sub : Subscript) (measured : Bool) : Sh (Found × String) := do
  match sub with
  | .none =>
    let f ← namedValue name
    pure (f, name)
  | .each =>
    let f ← namedValue (name ++ "[@]")
    pure (f, name ++ "[@]")
  | .star =>
    let f ← namedValue (name ++ "[*]")
    pure (f, name ++ "[*]")
  | .index w =>
    let text ← subscriptText self w
    let target ← follow name
    let v ← find? target
    let shown := name ++ "[" ++ w.raw ++ "]"
    let bad : Sh (Found × String) := do
      warnPlain (name ++ ": bad array subscript")
      pure (.none, shown)
    match v with
    | some { value := .table _, .. } =>
      if text == "" then bad
      else
        pure (match v.bind fun v => if v.isSet then v.value.get? (.text text) else none with
          | some t => .one t
          | none => .none, shown)
    | _ =>
      match ← keyOf? target text 0 with
      | none =>
        if measured then
          warnPlain (text ++ "]: bad array subscript")
          discard
        else
          warnPlain (target ++ ": bad array subscript")
          pure (.none, shown)
      | some key =>
        pure (match v.bind fun v => if v.isSet then v.value.get? key else none with
          | some t => .one t
          | none => .none, shown)

/-- Assigns to a parameter because its value is missing. -/
def assignMissing (name : String) (sub : Subscript) (value : String) : Sh Unit := do
  if !Shell.isName name then
    warnPlain ("$" ++ name ++ ": cannot assign in this way")
    discard
  let text ← match sub with
    | .index w => do
      let t ← subscriptText self w
      pure (name ++ "[" ++ t ++ "]")
    | _ => pure name
  if !(← assignNamed text value) then discard

/-- Expands a parameter. -/
def expandParameter (place : Place) (name : String) (sub : Subscript) (indirect : Bool) (form : Form)
    (raw : String) : Sh (List Cell) := do
  let quoted := place.quoted
  let bad {α : Type} : Sh α := do
    warnPlain (raw ++ ": bad substitution")
    discard
  -- the keys of an array, or the name that the value is
  match indirect, sub, form with
  | true, .each, .value | true, .star, .value =>
    let target ← follow name
    let v ← find? target
    let keys := match v with
      | some v => if v.isSet then v.value.keys else []
      | none => []
    valueCells place (.many keys (sub matches .star))
  | _, _, .names star =>
    let all := (← get).names.filter fun n => n.startsWith name
    valueCells place (.many all star)
  | _, _, .bad => bad
  | _, _, _ =>
    let (found, shown, target) ← if !indirect then do
        let (f, shown) ← valueAt self name sub (form matches .length)
        pure (f, shown, name)
      else do
        let isRef := ((← get).known? name).any (·.reference)
        if isRef then
          let t ← follow name
          pure (Found.one t, name, name)
        else
          let (f, shown) ← valueAt self name sub (form matches .length)
          match f with
          | .one "" | .none => do
            warnPlain (shown ++ ": invalid indirect expansion")
            discard
          | .one t => do
            let isParameter := t.toList.all Char.isDigit || t == "@" || t == "*" || t == "#" || t == "?"
            if !isParameter && !isReference t then
              warnPlain (t ++ ": invalid variable name")
              discard
            let f ← namedValue t
            pure (f, t, t)
          | .many _ _ => do
            warnPlain (shown ++ ": invalid indirect expansion")
            discard
    let inner : Place := { place with inner := true, tilde := true, assignment := false }
    let strict (m : Sh (List Cell)) : Sh (List Cell) := do
      match found with
      | .none =>
        if ← hasOption "nounset" then
          unbound (if indirect then "!" ++ name
            else if raw == "$" ++ shown && !Shell.isName shown then raw else shown)
        else m
      | _ => m
    -- nothing is made of what is not there
    let present (isMissing : Bool) (m : Sh (List Cell)) : Sh (List Cell) :=
      strict (if isMissing then valueCells place found else m)
    match form with
    | .value => strict (valueCells place found)
    | .length =>
      -- the length of something of an array asks for the array
      let isSet := ((← find? (← follow name)).map (·.isSet)).getD false
      if !(sub matches .none) && !isSet && (← hasOption "nounset") then
        warnPlain (name ++ ": unbound variable")
        discard
      match found with
      | .many vs _ => pure (Cell.foreign quoted (toString vs.length))
      | .one s => pure (Cell.foreign quoted (toString s.length))
      | .none =>
        if sub matches .none then strict (pure (Cell.foreign quoted "0"))
        else pure (Cell.foreign quoted "0")
    | .remedy r empty word =>
      let isMissing := found.isMissing empty
      match r with
      | .default => if isMissing then self inner word else valueCells place found
      | .alternative => if isMissing then pure [] else self inner word
      | .assign =>
        if isMissing then
          let text ← textOf self { tilde := true, quoted := quoted } word
          assignMissing self target sub text
          valueCells place (.one text)
        else valueCells place found
      | .demand =>
        if isMissing then
          let text ← textOf self { tilde := true, quoted := quoted } word
          let message := if word.isEmpty then
              (if empty then "parameter null or not set" else "parameter not set")
            else text
          warnPlain (shown ++ ": " ++ message)
          leave (← fatalStatus)
        else valueCells place found
    | .trim atEnd longest pattern =>
      present (found.isMissing true) do
        let p ← patternOf self pattern
        valueCells place
          (found.map fun s => String.ofList (Pattern.trim p atEnd longest s.toList))
    | .replace extent pattern by_ =>
      present (found.isMissing false) do
        let p ← patternOf self pattern
        let cells ← self { tilde := true } by_
        let m : Pattern.Manner := { folded := ← hasExtra "nocasematch" }
        valueCells place (found.map (substituted m extent p (Cell.atoms cells)))
    | .letters how all pattern =>
      present (found.isMissing false) do
        let p ← patternOf self pattern
        valueCells place (found.map (relettered how all p))
    | .rest start =>
      present (found.isMissing false && name != "@" && name != "*") do
        let a ← calculate (← textOf self { quoted := true } start)
        let f ← partOf target sub found a none
        valueCells place f
    | .part start length =>
      present (found.isMissing false && name != "@" && name != "*") do
        let a ← calculate (← textOf self { quoted := true } start)
        let n ← calculate (← textOf self { quoted := true } length)
        let f ← partOf target sub found a (some n)
        valueCells place f
    | .transform letter =>
      strict do
        let v ← find? target
        match found, letter, v with
        | .many _ star, 'A', some var =>
          let _ := star
          valueCells place (.one (Declaration.shown target var))
        | .many _ star, 'K', some var | .many _ star, 'k', some var =>
          let pairs := (var.value.keys.zip var.value.all).flatMap fun e =>
            [e.1, if letter == 'K' then Quoting.double e.2 else e.2]
          if letter == 'K' then valueCells place (.one (" ".intercalate pairs))
          else valueCells place (.many pairs star)
        | .many vs star, 'a', some var =>
          valueCells place (.many (vs.map fun _ => Declaration.flags var) star)
        | .none, 'a', some var => valueCells place (.one (Declaration.flags var))
        | .none, 'A', some var =>
          valueCells place (.one (if var.value.isArray then Declaration.shown target var else ""))
        | _, _, _ => valueCells place (found.map (transformed letter target v))
    | .unknown =>
      strict do
        match found with
        | .none => pure []
        | _ =>
          warnPlain (raw ++ ": bad substitution")
          leave (← fatalStatus)
    | .names _ | .bad => bad

/-- Is the piece all arguments or all elements? -/
def isEach : Piece → Bool
  | .param "@" _ _ _ _ => true
  | .param _ .each _ _ _ => true
  | .param _ _ _ (.names false) _ => true
  | _ => false

/-- Expansion under way: what is left of the word, and the cells so far, in reverse. -/
structure Expanding where
  rest : List Piece
  cells : List Cell := []
  /-- May a tilde stand here? -/
  tilde : Bool
  deriving Inhabited

/-- One piece of a word. -/
def expandPiece (place : Place) (e : Expanding) : Sh (Expanding ⊕ List Cell) := do
  let go (rest : List Piece) (cells : List Cell) (tilde : Bool := false) : Sh (Expanding ⊕ List Cell) :=
    pure (.inl { rest := rest, cells := cells.reverse ++ e.cells, tilde := tilde })
  let here : Place := { place with tilde := false }
  match e.rest with
  | [] => pure (.inr e.cells.reverse)
  | .plain c :: rest =>
    let home ← if c == '~' && e.tilde && !place.quoted then tilde? place.assignment rest else pure none
    match home with
    | some (home, after) => go after (Cell.mark :: Cell.solid home.toList)
    | none =>
      let cell : Cell :=
        if place.quoted then .char c true false
        else .char c false place.inner
      go rest [cell] (place.assignment && c == ':')
  | .escaped c :: rest => go rest [.char c true false]
  | .single text :: rest => go rest (.mark :: Cell.solid text.toList)
  | .double body :: rest =>
    let cells ← self { here with quoted := true, inner := false } body
    let vanishes := cells.isEmpty && body.any isEach
    go rest (if vanishes then [] else .mark :: cells)
  | .param name sub indirect form raw :: rest =>
    let cells ← expandParameter self here name sub indirect form raw
    go rest cells
  | .command body :: rest =>
    let text ← services.output body
    go rest (Cell.foreign here.quoted text)
  | .backquote text :: rest =>
    let text ← services.outputOf text
    go rest (Cell.foreign here.quoted text)
  | .arith body :: rest =>
    let text ← textOf self { quoted := true } body
    let running := (← get).running
    modify fun s => { s with running := none }
    let n ← calculate text
    modify fun s => { s with running := running }
    go rest (Cell.foreign here.quoted (toString n))
  | .process reads body :: rest =>
    let path ← services.pipe reads body
    go rest (Cell.solid path.toList)

end

/-- Expands pieces; `limit` bounds how deep words are nested. -/
def expand (services : Services) : (limit : Nat) → Expander
  | 0, _, _ => pure []
  | limit + 1, place, ps =>
    iterate (expandPiece services (expand services limit) place) Kernel.endless
      { rest := ps, tilde := place.tilde }

/-- Words nested in each other at most. -/
def nesting : Nat := 0x10000000

/-- The cells of pieces. -/
def cellsOf (services : Services) (place : Place) (ps : List Piece) : Sh (List Cell) :=
  expand services nesting place ps

/-- The text of a word that is not split. -/
def expandText (services : Services) (place : Place) (w : Word) : Sh String := do
  let cells ← cellsOf services place w.pieces
  pure (Cell.text cells)

end Sh
end HardenAudit.ExtendedShell
