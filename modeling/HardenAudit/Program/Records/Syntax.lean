import HardenAudit.Program.Regex

/-!
# Scripts about records: their shape

A script consists of rules.  A rule has a pattern, which selects records, and an action, which is
carried out for the selected ones.  Variables are known by their numbers: those of the script, and
those of the function that is being called.
-/

namespace HardenAudit.Program.Records

/-- A variable of the script, or a parameter of a function. -/
inductive Ref where
  | shared (n : Nat)
  | parameter (n : Nat)
  deriving DecidableEq, Repr, Inhabited

/-- An operation on two numbers. -/
inductive Operation where
  | add
  | subtract
  | multiply
  | divide
  | remainder
  | power
  deriving DecidableEq, Repr, Inhabited

/-- A comparison of two values. -/
inductive Comparison where
  | less
  | lessEqual
  | equal
  | notEqual
  | greater
  | greaterEqual
  deriving DecidableEq, Repr, Inhabited

/-- The functions that are always there. -/
inductive Builtin where
  | length
  | substr
  | index
  | split
  | sub
  | gsub
  | match_
  | sprintf
  | sin
  | cos
  | atan2
  | exp
  | log
  | sqrt
  | int
  | rand
  | srand
  | tolower
  | toupper
  | system
  | close
  | fflush
  | systime
  | mktime
  | strftime
  deriving DecidableEq, Repr, Inhabited

/-- An expression.  Places are expressions that values can be assigned to: variables, fields and
elements. -/
inductive Expr where
  | number (x : Float)
  | text (s : String)
  /-- A regular expression; alone it asks whether the record matches. -/
  | regex (source : String) (r : Regex)
  | variable (v : Ref)
  | field (e : Expr)
  | element (array : Ref) (subscripts : List Expr)
  | member (subscripts : List Expr) (array : Ref)
  | assign (op : Option Operation) (place value : Expr)
  /-- One up or down; `after` tells that the value from before counts. -/
  | step (place : Expr) (up after : Bool)
  | choice (test yes no : Expr)
  | either (a b : Expr)
  | both (a b : Expr)
  | negation (e : Expr)
  | minus (e : Expr)
  | plus (e : Expr)
  | binary (op : Operation) (a b : Expr)
  | compare (c : Comparison) (a b : Expr)
  | matching (wanted : Bool) (text pattern : Expr)
  | join (a b : Expr)
  | builtin (f : Builtin) (arguments : List Expr)
  | call (function : Nat) (arguments : List Expr)
  /-- The next record of the input, of a file, or of the output of a command. -/
  | getline (file command : Option Expr) (place : Option Expr)
  deriving Inhabited

/-- Where output goes. -/
inductive Outlet where
  | standard
  | file (name : Expr)
  | append (name : Expr)
  | command (text : Expr)
  deriving Inhabited

/-- A statement. -/
inductive Statement where
  | nothing
  | expression (e : Expr)
  | print (values : List Expr) (outlet : Outlet)
  | printf (values : List Expr) (outlet : Outlet)
  | block (body : List Statement)
  | choice (test : Expr) (yes no : Statement)
  | loop (test : Expr) (body : Statement)
  /-- The body comes before the first test. -/
  | loopAfter (body : Statement) (test : Expr)
  | loopFor (start : Statement) (test : Option Expr) (next body : Statement)
  | loopIn (v : Ref) (array : Ref) (body : Statement)
  | delete (array : Ref) (subscripts : Option (List Expr))
  | next
  | nextFile
  | exit (status : Option Expr)
  | return (value : Option Expr)
  | break
  | continue
  deriving Inhabited

/-- When a rule applies. -/
inductive Selection where
  | always
  | when (e : Expr)
  /-- From a record on up to another one. -/
  | between (first last : Expr)
  deriving Inhabited

/-- A rule; without an action records are written. -/
structure Rule where
  selection : Selection
  action : Option Statement
  deriving Inhabited

/-- What a name stands for. -/
inductive Kind where
  | unknown
  | scalar
  | array
  | function
  deriving DecidableEq, Repr, Inhabited

/-- A function. -/
structure Function where
  name : String
  /-- What its parameters stand for. -/
  parameters : List Kind
  body : Statement
  deriving Inhabited

/-- A script. -/
structure Script where
  begin_ : List Statement := []
  rules : Array Rule := #[]
  end_ : List Statement := []
  functions : Array Function := #[]
  /-- The names of the variables. -/
  names : Array String := #[]
  deriving Inhabited

/-- The variables with a meaning of their own, which come first. -/
def specialNames : List String :=
  ["NF", "NR", "FNR", "FS", "RS", "OFS", "ORS", "SUBSEP", "CONVFMT", "OFMT", "FILENAME", "RSTART",
   "RLENGTH", "ENVIRON", "ARGC", "ARGV"]

/-- The number of a variable with a meaning of its own. -/
def special (name : String) : Nat := specialNames.idxOf name

end HardenAudit.Program.Records
