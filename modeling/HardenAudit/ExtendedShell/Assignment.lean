import HardenAudit.ExtendedShell.Glob

/-!
# Assignments

A text is assigned to a variable or an element, and a list to a variable as a whole.
-/

namespace HardenAudit.ExtendedShell

/-- An element of a list after its words are expanded. -/
structure Item where
  /-- Its key, if it has one. -/
  key : Option String
  append : Bool := false
  value : String
  deriving Repr, Inhabited

namespace Sh

/-- The elements of a list after their words are expanded; those without a key may become several, unless
they are for a table. -/
def itemsOf (services : Services) (table : Bool) : List Element → Sh (List Item)
  | [] => pure []
  | .mk key append w :: rest => do
    let items : List Item ← match key with
      | .none => do
        if table then
          let text ← expandText services { tilde := true, assignment := true } w
          pure [{ key := none, value := text : Item }]
        else
          let words ← expandWord services w
          pure (words.map fun v => { key := none, value := v : Item })
      | .index k => do
        let key ← expandText services {} k
        let text ← expandText services { tilde := true, assignment := true } w
        pure [{ key := some key, append := append, value := text : Item }]
      | .star => do
        let text ← expandText services { tilde := true, assignment := true } w
        pure [{ key := some "*", append := append, value := text : Item }]
      | .each => do
        let text ← expandText services { tilde := true, assignment := true } w
        pure [{ key := some "@", append := append, value := text : Item }]
    let more ← itemsOf services table rest
    pure (items ++ more)

/-- Puts items into a list, from a number on. -/
def fillList (name : String) (v : Variable) : List Item → (next : Nat) → Sparse → Sh Sparse
  | [], _, list => pure list
  | item :: rest, next, list => do
    let place : Option Nat ← match item.key with
      | none => pure (some next)
      | some text => do
        let n ← calculate text
        let n := if n < 0 then n + (list.next : Nat) else n
        if n < 0 then
          warnPlain (name ++ "[" ++ text ++ "]: bad array subscript")
          pure none
        else pure (some n.toNat)
    match place with
    | none => fillList name v rest next list
    | some i =>
      let text ← valueFor v (list.get? i) item.value item.append
      fillList name v rest (i + 1) (list.insert i (adapted v text))

/-- Puts items into a table: each has its key, or keys and values take turns, as the first item tells. -/
def fillTable (name : String) (v : Variable) (keyed : Bool) : (limit : Nat) → List Item → Keyed → Sh Keyed
  | 0, _, table => pure table
  | _, [], table => pure table
  | limit + 1, item :: rest, table => do
    match item.key with
    | some key =>
      if key == "" then
        warnPlain ("[]=" ++ item.value ++ ": bad array subscript")
        fillTable name v keyed limit rest table
      else
        let text ← valueFor v (table.get? key) item.value item.append
        fillTable name v keyed limit rest (table.insert key (adapted v text))
    | none =>
      if keyed then
        warnPlain (name ++ ": " ++ item.value ++ ": must use subscript when assigning associative array")
        fillTable name v keyed limit rest table
      else
        let value := (rest.head?.map (·.value)).getD ""
        let text ← valueFor v (table.get? item.value) value false
        fillTable name v keyed limit (rest.drop 1) (table.insert item.value (adapted v text))

/-- A variable with a list as its value. -/
def withItems (name : String) (v : Variable) (append : Bool) (items : List Item) : Sh Variable := do
  let value : Value ← match v.value with
    | .table t => do
      let t ← fillTable name v (items.head?.any (·.key.isSome)) (items.length + 1) items (if append && v.isSet then t else {})
      pure (.table t)
    | .list s => do
      let start := if append && v.isSet then s else {}
      let s ← fillList name v items start.next start
      pure (.list s)
    | .text t => do
      let start : Sparse := if append && v.isSet then .ofList [t] else {}
      let s ← fillList name v items start.next start
      pure (.list s)
  pure { v with value := value, isSet := true }

/-- Assigns a list to a variable; says whether that worked. -/
def assignList (services : Services) (name : String) (append : Bool) (elements : List Element) :
    Sh Bool := do
  let target ← follow name
  let v := ((← get).known? target).getD { isSet := false }
  if v.readOnly then
    warnPlain (target ++ ": readonly variable")
    pure false
  else
    let table := match v.value with
      | .table _ => true
      | _ => false
    let items ← itemsOf services table elements
    let new ← withItems target v append items
    modify fun s => s.putVariable target new
    pure true

/-- The text of a subscript that stands on the left of an assignment. -/
def keyText (services : Services) : Subscript → Sh (Option String)
  | .none => pure none
  | .star => pure (some "*")
  | .each => pure (some "@")
  | .index w => do
    let text ← expandText services {} w
    pure (some text)

/-- Assigns a text to a variable or an element whose key is given; says whether that worked. -/
def assignAt (name : String) (key : Option String) (value : String) (append : Bool) : Sh Bool := do
  match key with
  | none => assignNamed name value append
  | some text =>
    let target ← follow name
    let isTable := match (← get).known? target with
      | some { value := .table _, .. } => true
      | _ => false
    if (text == "" || ((text == "@" || text == "*") && !isTable)) then
      warnPlain (name ++ "[" ++ text ++ "]: bad array subscript")
      pure false
    else
      match ← keyFor target text with
      | some key => assignPart target key value append
      | none => pure false

/-- An assignment after its words are expanded. -/
inductive Ready where
  | text (name : String) (key : Option String) (append : Bool) (value : String)
  | list (name : String) (key : Option String) (append : Bool) (elements : List Element)
  deriving Inhabited

/-- Expands the words of an assignment of a text. -/
def readied (services : Services) : Assign → Sh Ready
  | .text name sub append w => do
    let key ← keyText services sub
    let value ← expandText services { tilde := true, assignment := true } w
    pure (.text name key append value)
  | .list name sub append es => do
    let key ← keyText services sub
    pure (.list name key append es)

/-- Carries out an assignment; gives up the unit if that fails. -/
def carryOutAssign (services : Services) (r : Ready) : Sh Unit := do
  let worked ← match r with
    | .text name key append value => assignAt name key value append
    | .list name key append es => do
      match key with
      | some text =>
        warnPlain (name ++ "[" ++ text ++ "]: cannot assign list to array member")
        pure false
      | none => assignList services name append es
  if !worked then discard

end Sh
end HardenAudit.ExtendedShell
