import HardenAudit.ExtendedShell.Assignment
import HardenAudit.ExtendedShell.Builtin.Input
import HardenAudit.ExtendedShell.Parser
import HardenAudit.ExtendedShell.Printing

/-!
# Commands that declare variables: `declare`, `local`, `export`, `readonly`
-/

namespace HardenAudit.ExtendedShell.Builtin

open Sh

/-- An argument of a command that declares. -/
inductive Claim where
  | word (text : String)
  /-- A list that is assigned. -/
  | list (name : String) (append : Bool) (elements : List Element)
  deriving Inhabited

namespace Claim

/-- The text, if it is a plain word. -/
def text? : Claim → Option String
  | word text => some text
  | list .. => none

end Claim

/-- The value that a declaration gives. -/
inductive Given.Value where
  | none
  | text (append : Bool) (value : String)
  | list (append : Bool) (elements : List Element)
  deriving Inhabited

/-- A declaration: the name, perhaps with a subscript, and the value. -/
structure Declared where
  name : String
  subscript : Option String := none
  value : Given.Value := .none
  /-- The whole argument, for complaints. -/
  shown : String
  deriving Inhabited

/-- What an argument declares. -/
def Claim.declared (c : Claim) : Declared :=
  match c with
  | .list name append es => { name := name, value := .list append es, shown := name }
  | .word text =>
    let cs := text.toList
    let left := cs.takeWhile (· != '=')
    -- an equals sign inside a subscript belongs to it
    let left := if left.contains '[' && !left.contains ']' then
        let inside := cs.takeWhile (· != ']')
        inside ++ (cs.drop inside.length).takeWhile (· != '=')
      else left
    match cs.drop left.length with
    | [] =>
      let (name, sub) := splitSubscript text
      { name := name, subscript := sub, shown := text }
    | _ :: value =>
      let append := left.getLast? == some '+'
      let left := String.ofList (if append then left.dropLast else left)
      let (name, sub) := splitSubscript left
      { name := name, subscript := sub, value := .text append (String.ofList value), shown := text }

/-- The letters of attributes. -/
def attributeLetters : List Char := ['a', 'A', 'i', 'l', 'n', 'r', 't', 'u', 'x', 'c']

/-- Has a variable the attribute of a letter? -/
def hasAttribute (v : Variable) : Char → Bool
  | 'a' => match v.value with
    | .list _ => true
    | _ => false
  | 'A' => match v.value with
    | .table _ => true
    | _ => false
  | 'i' => v.integer
  | 'l' => v.lower
  | 'n' => v.reference
  | 'r' => v.readOnly
  | 't' => v.traced
  | 'u' => v.upper
  | 'x' => v.exported
  | 'c' => v.capital
  | _ => false

/-- A variable with an attribute set or reset, being read-only apart. -/
def withAttribute (on : Bool) (v : Variable) : Char → Variable
  | 'i' => { v with integer := on }
  | 'l' => { v with lower := on, upper := v.upper && !on, capital := v.capital && !on }
  | 'u' => { v with upper := on, lower := v.lower && !on, capital := v.capital && !on }
  | 'c' => { v with capital := on, lower := v.lower && !on, upper := v.upper && !on }
  | 'n' => { v with reference := on }
  | 't' => { v with traced := on }
  | 'x' => { v with exported := on }
  | 'a' =>
    match on, v.value with
    | true, .text t => { v with value := .list (if v.isSet then .ofList [t] else {}) }
    | _, _ => v
  | 'A' =>
    match on, v.value with
    | true, .text t => { v with value := .table (if v.isSet then ({} : Keyed).insert "0" t else {}) }
    | _, _ => v
  | _ => v

/-! ## Showing -/

/-- Shows the variables that have all of some attributes. -/
def showDeclared (letters : List Char) (names : List String) : Sh Unit := do
  for name in names do
    if let some v := (← get).known? name then
      if letters.all (hasAttribute v) then print (Declaration.shown name v ++ "\n")

/-- Shows one variable; a name that has none is reported. -/
def showOne (name : String) : Sh Bool := do
  let s ← get
  let v : Option Variable := match s.dynamic? name with
    | some value => some { value := value }
    | none => s.known? name
  match v with
  | some v =>
    print (Declaration.shown name v ++ "\n")
    pure true
  | none =>
    warn (name ++ ": not found")
    pure false

/-- Shows all variables and, perhaps, all functions. -/
def showAll (functions : Bool) : Sh Unit := do
  let s ← get
  for name in s.names do
    if let some v := s.known? name then
      if v.isSet then print (Declaration.listed name v ++ "\n")
  if functions then
    for (name, f) in s.functions.entries do
      print (functionText s.documents name f.body ++ "\n")

/-- Shows functions, or only their names; says whether all are there. -/
def showFunctions (namesOnly : Bool) (names : List String) : Sh Nat := do
  let s ← get
  if names.isEmpty then
    for (name, f) in s.functions.entries do
      if namesOnly then
        let flags := if f.exported then "fx" else "f"
        print ("declare -" ++ flags ++ " " ++ name ++ "\n")
      else
        print (functionText s.documents name f.body ++ "\n")
        if f.exported then print ("declare -fx " ++ name ++ "\n")
    pure 0
  else
    let mut status := 0
    for name in names do
      match s.functions.find? name with
      | some f =>
        print (if namesOnly then name ++ "\n" else functionText s.documents name f.body ++ "\n")
      | none => status := 1
    pure status

/-! ## Declaring -/

/-- Where a declaration puts its variable. -/
inductive Reach where
  | nearest
  | inside
  | outside
  deriving DecidableEq, Repr, Inhabited

/-- The variable in reach. -/
def inReach? (s : State) (reach : Reach) (name : String) : Option Variable :=
  match reach with
  | .nearest => s.known? name
  | .inside => s.local? name
  | .outside => s.globals.find? name

/-- Puts a variable where it belongs. -/
def putInReach (reach : Reach) (name : String) (v : Variable) : Sh Unit := modify fun s =>
  match reach with
  | .nearest => s.putVariable name v
  | .inside => s.putLocal name v
  | .outside => s.putGlobal name v

/-- How declarations are carried out. -/
structure Manner where
  reach : Reach
  sets : List Char := []
  resets : List Char := []
  /-- Are complaints about variables that cannot be changed in the name of the command? -/
  named : Bool := true
  deriving Inhabited

/-- Complains about a variable that cannot be changed. -/
def refuse (m : Manner) (name : String) : Sh Bool := do
  let message := name ++ ": readonly variable"
  if m.named then warn message else warnPlain message
  pure false

/-- The value of a variable after a text is assigned to it or to an element. -/
def withText (name : String) (v : Variable) (sub : Option String) (append : Bool) (value : String) :
    Sh (Option Variable) := do
  let key : Option Key ← match sub, v.value with
    | none, _ => pure (some .whole)
    | some k, .table _ => pure (some (.text k))
    | some k, _ => do
      let n ← calculate k
      if n < 0 then
        warnPlain (name ++ "[" ++ k ++ "]: bad array subscript")
        pure none
      else pure (some (.number n.toNat))
  match key with
  | none => pure none
  | some key =>
    let old := if v.isSet then v.value.get? key else none
    let text ← valueFor v old value append
    let base : Value := if v.isSet then v.value
      else match v.value, key with
        | .text _, .number _ => .list {}
        | .text _, _ => .text ""
        | .list _, _ => .list {}
        | .table _, _ => .table {}
    pure (some { v with value := base.put key (adapted v text), isSet := true })

/-- The elements of a list that is written in a text. -/
def elementsIn? (text : String) : Sh (Option (List Element)) := do
  match text.toList with
  | '(' :: inside =>
    let s ← get
    match readElements { chars := inside.toArray, line := s.line, documents := s.documents } with
    | .ok (es, r) =>
      if r.place < r.chars.size then pure none
      else
        modify fun s => { s with documents := r.documents }
        pure (some es)
    | .error _ => pure none
  | _ => pure none

/-- Carries out a declaration; says whether that worked. -/
def declareOne (services : Services) (m : Manner) (d : Declared) : Sh Bool := do
  if !Shell.isName d.name then
    let _ ← badName d.shown
    return false
  let s ← get
  let direct := m.sets.contains 'n' || m.resets.contains 'n'
  let isLocal := m.reach == .inside && (s.local? d.name).isSome
  let name ← if direct || (m.reach == .inside && !isLocal) then pure d.name else follow d.name
  let old := inReach? s m.reach name
  -- a variable of an outer scope that cannot be changed cannot be hidden either
  let guarded := match old with
    | some v => v.readOnly
    | none => m.reach == .inside && ((s.globals.find? name).map (·.readOnly)).getD false
  let changes := !(d.value matches .none) || m.resets.contains 'r'
    || (m.reach == .inside && old.isNone)
  if guarded && changes then return ← refuse m name
  let v : Variable := old.getD { isSet := false }
  let wrong : Option String :=
    match v.value with
    | .list _ =>
      if m.sets.contains 'A' then some "cannot convert indexed to associative array"
      else if m.resets.contains 'a' then some "cannot destroy array variables in this way" else none
    | .table _ =>
      if m.sets.contains 'a' then some "cannot convert associative to indexed array"
      else if m.resets.contains 'A' then some "cannot destroy array variables in this way" else none
    | .text _ => none
  if let some message := wrong then
    warn (name ++ ": " ++ message)
    return false
  let v := m.resets.foldl (withAttribute false) v
  let v := m.sets.foldl (withAttribute true) v
  -- the value of a reference is a name
  if m.sets.contains 'n' then
    match d.value with
    | .text _ target =>
      if target == d.name then
        warn (d.name ++ ": nameref variable self references not allowed")
        return false
      if !isReference target then
        warn ("\x60" ++ target ++ "\x27: invalid variable name for name reference")
        return false
      putInReach m.reach name { v with
        value := .text target, isSet := true, readOnly := m.sets.contains 'r' }
      return true
    | _ => pure ()
  let v : Variable := match d.subscript, v.value with
    | some _, .text _ => if old.isNone then withAttribute true v 'a' else v
    | _, _ => v
  let new : Option Variable ← match d.value with
    | .none => pure (some v)
    | .text append value => do
      let es ← if v.value.isArray && d.subscript.isNone then elementsIn? value else pure none
      if let some es := es then
        let items ← itemsOf services (v.value matches .table _) es
        let w ← withItems name v append items
        pure (some w)
      else if v.value.isArray || d.subscript.isSome then withText name v d.subscript append value
      else
        let kept ← noticeValue name value
        if kept then withText name v none append value else pure (some v)
    | .list append es => do
      let table := match v.value with
        | .table _ => true
        | _ => false
      let items ← itemsOf services table es
      let w ← withItems name v append items
      pure (some w)
  match new with
  | none => pure false
  | some new =>
    putInReach m.reach name { new with readOnly := new.readOnly || m.sets.contains 'r' }
    pure true

/-- Carries out declarations one by one; the status is one if any of them failed. -/
def declareEach (services : Services) (m : Manner) : List Claim → (status : Nat) → Sh Nat
  | [], status => pure status
  | c :: rest, status => do
    let worked ← declareOne services m c.declared
    declareEach services m rest (if worked then status else 1)

/-- The options before the arguments, and the arguments behind them. -/
def withClaims (letters : String) (claims : List Claim) (body : Given → List Claim → Sh Nat)
    (signs : List Char := ['-', '+']) : Sh Nat :=
  let words := claims.takeWhile fun c => c.text?.isSome
  let after := claims.drop words.length
  withOptions letters (words.filterMap Claim.text?) (fun g =>
    body g (g.rest.map Claim.word ++ after)) signs

/-- Is the shell in a function? -/
def inFunction : Sh Bool := do
  pure ((← get).calls.any (·.isFunction))

/-- Puts a function back with its marks changed. -/
def exportFunction (name : String) (f : Function) : Sh Unit := modify fun s =>
  { s with functions := s.functions.insert name f }

/-- Declares variables and shows them. -/
def declare (services : Services) (isLocal : Bool) (claims : List Claim) : Sh Nat := do
  if isLocal && !(← inFunction) then
    warn "can only be used in a function"
    return 1
  withClaims "aAcfFgiIlnprtux" claims fun g claims => do
    let on := (g.options.filter fun o => o.2 != "+").map (·.1)
    let off := (g.options.filter fun o => o.2 == "+").map (·.1)
    let letters := on.filter attributeLetters.contains
    let names := claims.map fun c => c.declared.shown
    if on.contains 'f' || on.contains 'F' then
      if !names.isEmpty && (letters.contains 'x' || letters.contains 'r') then
        for name in names do
          if let some f := (← get).functions.find? name then
            exportFunction name { f with exported := f.exported || letters.contains 'x' }
        return 0
      return ← showFunctions (on.contains 'F') names
    if on.contains 'p' then
      if names.isEmpty then
        showDeclared letters (← get).names
        return 0
      let mut status := 0
      for name in names do
        if !(← showOne name) then status := 1
      return status
    if claims.isEmpty then
      if isLocal then
        let mine := match (← get).scopes.find? (·.isFunction) with
          | some scope => scope.vars.entries.map (·.1)
          | none => []
        showDeclared letters mine
      else if letters.isEmpty then showAll true
      else showDeclared letters (← get).names
      return 0
    let inside ← inFunction
    let reach : Reach := if on.contains 'g' then (if inside then .outside else .nearest)
      else if inside then .inside else .nearest
    let keepsOptions := isLocal && names.contains "-"
    if keepsOptions then
      modify fun s => { s with scopes := noteOptions s.options s.scopes }
    let claims := if isLocal then claims.filter fun c => c.text? != some "-" else claims
    declareEach services
      { reach := reach, sets := letters, resets := off.filter attributeLetters.contains } claims 0
where
  /-- The scopes with the options noted in the innermost one of a function. -/
  noteOptions (options : List String) : List Scope → List Scope
    | [] => []
    | scope :: rest =>
      if scope.isFunction then { scope with options := scope.options.or (some options) } :: rest
      else scope :: noteOptions options rest

/-- Marks variables for programs, or as read-only, or shows the ones that are marked. -/
def mark (services : Services) (letter : Char) (claims : List Claim) : Sh Nat :=
  withClaims (if letter == 'x' then "fnp" else "aAfp") claims (fun g claims => do
    let names := claims.map fun c => c.declared.shown
    let kinds := (g.options.map (·.1)).filter fun c => c == 'a' || c == 'A'
    if g.has 'f' then
      if claims.isEmpty then return ← showFunctions false []
      let mut status := 0
      for name in names do
        match (← get).functions.find? name with
        | some f =>
          if letter == 'x' then exportFunction name { f with exported := !g.has 'n' }
        | none =>
          warn (name ++ ": not a function")
          status := 1
      return status
    if claims.isEmpty then
      showDeclared (letter :: kinds) (← get).names
      return 0
    let on := if g.has 'n' then kinds else letter :: kinds
    declareEach services
      { reach := .nearest, sets := on, resets := if g.has 'n' then ['x'] else [], named := false } claims 0)
    ['-']

end HardenAudit.ExtendedShell.Builtin
