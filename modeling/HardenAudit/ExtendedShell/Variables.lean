import HardenAudit.ExtendedShell.Printing
import HardenAudit.ExtendedShell.Quoting
import HardenAudit.ExtendedShell.State
import HardenAudit.Shell.Variables

/-!
# Variables

Looking up and changing variables.  Some have values that the shell makes up, and some stand for
others.
-/

namespace HardenAudit.ExtendedShell

open Kernel (Environment)

/-- Which part of a variable is meant. -/
inductive Key where
  | whole
  | number (n : Nat)
  | text (k : String)
  deriving DecidableEq, Repr, Inhabited

namespace Value

/-- The part of a value; a list and a table as a whole stand for their first elements. -/
def get? (v : Value) (k : Key) : Option String :=
  match v, k with
  | .text s, .whole | .text s, .number 0 => some s
  | .list s, .whole => s.get? 0
  | .list s, .number n => s.get? n
  | .table t, .whole => t.get? "0"
  | .table t, .number n => t.get? (toString n)
  | .table t, .text k => t.get? k
  | _, _ => none

/-- The value with a part changed; a text becomes a list if a further element is added. -/
def put (v : Value) (k : Key) (new : String) : Value :=
  match v, k with
  | .text _, .whole => .text new
  | .text s, .number n => .list ((Sparse.ofList (if s == "" then [] else [s])).insert n new)
  | .text s, .text k => .table ((({} : Keyed).insert "0" s).insert k new)
  | .list s, .whole => .list (s.insert 0 new)
  | .list s, .number n => .list (s.insert n new)
  | .list s, .text _ => .list (s.insert 0 new)
  | .table t, .whole => .table (t.insert "0" new)
  | .table t, .number n => .table (t.insert (toString n) new)
  | .table t, .text k => .table (t.insert k new)

/-- All values. -/
def all : Value → List String
  | .text s => [s]
  | .list s => s.values
  | .table t => t.values

/-- All keys. -/
def keys : Value → List String
  | .text _ => ["0"]
  | .list s => s.keys.map toString
  | .table t => t.keys

/-- Is it a list or a table? -/
def isArray : Value → Bool
  | .text _ => false
  | _ => true

end Value

/-- The options in the order in which they are listed, with their letters. -/
def optionNames : List (String × Option Char) :=
  [("allexport", some 'a'), ("braceexpand", some 'B'), ("emacs", none), ("errexit", some 'e'),
   ("errtrace", some 'E'), ("functrace", some 'T'), ("hashall", some 'h'), ("histexpand", some 'H'),
   ("history", none), ("ignoreeof", none), ("interactive-comments", none), ("keyword", some 'k'),
   ("monitor", some 'm'), ("noclobber", some 'C'), ("noexec", some 'n'), ("noglob", some 'f'),
   ("nolog", none), ("notify", some 'b'), ("nounset", some 'u'), ("onecmd", some 't'),
   ("physical", some 'P'), ("pipefail", none), ("posix", none), ("privileged", some 'p'),
   ("verbose", some 'v'), ("vi", none), ("xtrace", some 'x')]

/-- The letters of options in the order in which the parameter for them shows them. -/
def optionLetters : List Char :=
  ['a', 'b', 'e', 'f', 'h', 'i', 'k', 'm', 'n', 'p', 't', 'u', 'v', 'x', 'B', 'C', 'E', 'H', 'P', 'T', 'c',
   's']

/-- The name and the subscript that a text is. -/
def splitSubscript (text : String) : String × Option String :=
  let name := text.toList.takeWhile (· != '[')
  let rest := text.toList.drop name.length
  if rest.getLast? == some ']' && rest.length ≥ 2 then
    (String.ofList name, some (String.ofList ((rest.drop 1).dropLast)))
  else (text, none)

/-- Is the text the name of a variable or an element? -/
def isReference (text : String) : Bool :=
  match splitSubscript text with
  | (name, none) => Shell.isName name
  | (name, some sub) => Shell.isName name && sub != ""

namespace State

/-- The variable in the innermost scope that has it. -/
def known? (s : State) (name : String) : Option Variable :=
  match s.scopes.findSome? fun scope => scope.vars.find? name with
  | some v => some v
  | none => s.globals.find? name

/-- The scopes with a variable changed in the innermost one that has it; none if none has it. -/
def putInScopes (name : String) (v : Variable) : List Scope → Option (List Scope)
  | [] => none
  | scope :: rest =>
    if (scope.vars.find? name).isSome then
      some ({ scope with vars := scope.vars.insert name v } :: rest)
    else (putInScopes name v rest).map (scope :: ·)

/-- The state with a variable changed where it is, or made outside of all functions. -/
def putVariable (s : State) (name : String) (v : Variable) : State :=
  match putInScopes name v s.scopes with
  | some scopes => { s with scopes := scopes }
  | none => { s with globals := s.globals.insert name v }

/-- The state with a variable changed or made outside of all functions. -/
def putGlobal (s : State) (name : String) (v : Variable) : State :=
  { s with globals := s.globals.insert name v }

/-- The innermost scope of a function, with a variable changed or made in it. -/
def putLocal (s : State) (name : String) (v : Variable) : State :=
  let rec go : List Scope → List Scope
    | [] => []
    | scope :: rest =>
      if scope.isFunction then { scope with vars := scope.vars.insert name v } :: rest
      else scope :: go rest
  { s with scopes := go s.scopes }

/-- The variable in the innermost scope of a function. -/
def local? (s : State) (name : String) : Option Variable :=
  ((s.scopes.find? (·.isFunction)).map (·.vars)).bind (·.find? name)

/-- Takes a variable away where it is; one of the current function stays as a name without value. -/
def removeVariable (s : State) (name : String) : State :=
  let rec go (inner : Bool) : List Scope → Option (List Scope)
    | [] => none
    | scope :: rest =>
      if (scope.vars.find? name).isSome then
        if inner && scope.isFunction then
          some ({ scope with vars := scope.vars.insert name { isSet := false } } :: rest)
        else some ({ scope with vars := scope.vars.filter (· != name) } :: rest)
      else (go (inner && !scope.isFunction) rest).map (scope :: ·)
  match go true s.scopes with
  | some scopes => { s with scopes := scopes }
  | none => { s with globals := s.globals.filter (· != name) }

/-- All names of variables, in order. -/
def names (s : State) : List String :=
  let all := s.scopes.flatMap (fun scope => scope.vars.entries.map (·.1))
    ++ s.globals.entries.map (·.1)
  (all.eraseDups).mergeSort fun a b => a ≤ b

/-- The variables that programs are given. -/
def environment (s : State) : Environment :=
  s.names.filterMap fun name =>
    match s.known? name with
    | some v =>
      if v.exported && v.isSet then
        match v.value with
        | .text t => some (name, t)
        | _ => none
      else none
    | none => none

/-- The calls of functions and scripts, with the script that the shell runs at the end. -/
def callNames (s : State) : List String :=
  s.calls.map (·.name) ++ (if s.origin != .script || s.calls.isEmpty then [] else ["main"])

/-- The options that are set, between colons. -/
def optionText (s : State) : String :=
  ":".intercalate ((optionNames.map (·.1)).filter s.options.contains)

/-- The values that the shell makes up. -/
def dynamic? (s : State) (name : String) : Option Value :=
  match name with
  | "LINENO" => some (.text (toString s.line))
  | "BASH_SUBSHELL" => some (.text (toString s.subshell))
  | "PIPESTATUS" => some (.list (.ofList (s.stageStatuses.map toString)))
  | "FUNCNAME" =>
    if s.calls.any (·.isFunction) then some (.list (.ofList s.callNames)) else none
  | "BASH_SOURCE" =>
    let sources := s.calls.map (·.source) ++ (if s.origin != .script then [] else [s.name])
    if sources.isEmpty then none else some (.list (.ofList sources))
  | "BASH_LINENO" =>
    let lines := s.calls.map (fun c => toString c.line) ++ (if s.origin != .script then [] else ["0"])
    if lines.isEmpty then none else some (.list (.ofList lines))
  | "DIRSTACK" => some (.list (.ofList (s.directory :: s.stack)))
  | "SHELLOPTS" => some (.text s.optionText)
  | "BASHOPTS" => some (.text (":".intercalate (s.extras.mergeSort fun a b => a ≤ b)))
  | "BASH_COMMAND" => some (.text (s.current.heading s.documents))
  | "_" => some (.text s.lastArgument)
  | _ => none

end State

/-- The next number of a row of random numbers. -/
def nextRandom (seed : Nat) : Nat :=
  let n := if seed = 0 then 123459876 else seed
  let h := n / 127773
  let l := n - 127773 * h
  let t : Int := 16807 * (l : Int) - 2836 * (h : Int)
  let t := Int.bmod t 0x100000000
  (if t < 0 then t + 0x7FFFFFFF else t).toNat

/-- The random number that a seed gives. -/
def randomOf (seed : Nat) : Nat := Nat.land (Nat.xor (seed / 65536) (seed % 65536)) 32767

namespace Sh

/-- A random number, which differs from the last one; `limit` bounds the attempts. -/
def random : (limit : Nat) → Sh Nat
  | 0 => pure 0
  | limit + 1 => do
    let s ← get
    let seed := nextRandom s.randomSeed
    let n := randomOf seed
    set { s with randomSeed := seed }
    if n == s.lastRandom then random limit
    else
      modify fun s => { s with lastRandom := n }
      pure n

/-- A variable, whatever it stands for. -/
def find? (name : String) : Sh (Option Variable) := do
  let s ← get
  match s.dynamic? name with
  | some v => pure (some { value := v, exported := false })
  | none =>
    let made (n : Nat) : Sh (Option Variable) := pure (some { value := .text (toString n) })
    match name with
    | "RANDOM" => do
      let n ← random 100
      made n
    | "SECONDS" => do
      let now ← ask .now
      pure (some { value := .text (toString (((now : Int) - s.startTime) / 1000000)) })
    | "EPOCHSECONDS" => do
      let now ← ask .now
      made (now / 1000000)
    | "BASHPID" => do
      let (pid, _) ← ask .identity
      made pid
    | _ => pure (s.known? name)

/-- The variable that a name stands for in the end; `limit` bounds how many names lead to it. -/
def followFrom : (limit : Nat) → String → Sh String
  | 0, name => pure name
  | limit + 1, name => do
    match (← get).known? name with
    | some v =>
      match v.reference, v.value with
      | true, .text target => if target == "" then pure name else followFrom limit target
      | _, _ => pure name
    | none => pure name

/-- The variable or element that a name stands for in the end. -/
def follow (name : String) : Sh String := followFrom 8 name

/-- The value of a variable as a text, if it has one. -/
def lookup (name : String) : Sh (Option String) := do
  let target ← follow name
  match ← find? target with
  | some v => pure (if v.isSet then v.value.get? .whole else none)
  | none => pure none

/-- The characters that separate fields. -/
def separators : Sh String := do
  pure ((← lookup "IFS").getD Shell.standardSeparators)

/-- A value under the attributes of a variable. -/
def adapted (v : Variable) (text : String) : String :=
  if v.lower then String.ofList (text.toList.map Char.toLower)
  else if v.upper then String.ofList (text.toList.map Char.toUpper)
  else if v.capital then
    match text.toList with
    | c :: cs => String.ofList (c.toUpper :: cs.map Char.toLower)
    | [] => ""
  else text

/-- What else happens when a variable gets a value; says whether the value is kept as it is. -/
def noticeValue (name value : String) : Sh Bool := do
  match name with
  | "RANDOM" =>
    let seed := ((Shell.wholeNumber? 10 value).getD 0 % 0x100000000).toNat
    modify fun s => { s with randomSeed := seed, lastRandom := 0 }
    pure false
  | "SECONDS" =>
    let now ← ask .now
    let n := (Shell.wholeNumber? 10 value).getD 0
    modify fun s => { s with startTime := (now : Int) - n * 1000000 }
    pure false
  | "OPTIND" =>
    let n := ((Shell.wholeNumber? 10 value).getD 0).toNat
    modify fun s => { s with optionPlace := { next := if n = 0 then 1 else n } }
    pure true
  | "BASH_ARGV0" =>
    modify fun s => { s with name := value }
    pure true
  | "PATH" =>
    modify fun s => { s with hashed := [] }
    pure true
  | "LINENO" | "FUNCNAME" | "BASH_SUBSHELL" | "BASH_COMMAND" | "_" | "BASHPID" | "EPOCHSECONDS"
  | "DIRSTACK" | "BASH_LINENO" | "BASH_SOURCE" => pure false
  | _ => pure true

/-- Changes a part of a variable without regard to its being a reference; says whether that worked. -/
def storeAt (name : String) (key : Key) (value : String) : Sh Bool := do
  let s ← get
  let old := s.known? name
  let v := old.getD { exported := s.options.contains "allexport" }
  if v.readOnly then
    warnPlain (name ++ ": readonly variable")
    pure false
  else if key == .whole && !v.value.isArray && !(← noticeValue name value) then pure true
  else
    let base := if v.isSet then v.value
      else match v.value with
        | .text _ => .text ""
        | .list _ => .list {}
        | .table _ => .table {}
    let new := match base, key, v.isSet && old.isSome with
      | .text _, .number n, false => Value.list (({} : Sparse).insert n (adapted v value))
      | base, key, _ => base.put key (adapted v value)
    modify fun s => s.putVariable name { v with
      value := new, isSet := true, exported := v.exported || s.options.contains "allexport" }
    pure true

end Sh
end HardenAudit.ExtendedShell
