import HardenAudit.FileSystem.Basic
import HardenAudit.Text.Utf8

/-!
# What processes ask for

A process is a tree of requests: it ends, it splits in two, or it asks the kernel for something and
goes on according to the answer.  Each request has its own type of answers.  Texts in requests are
raw.
-/

namespace HardenAudit.Kernel

open Text (Bytes)

/-- Why a request was refused. -/
inductive Refusal where
  | file (e : FileError)
  | badDescriptor
  | brokenPipe
  | noProcess
  | notEmpty
  | invalid
  | noSpace
  | tooLarge
  | illegalSeek
  | noDevice
  | busy
  | tooLong
  deriving DecidableEq, Repr, Inhabited

namespace Refusal

/-- The wording of a refusal. -/
def text : Refusal → String
  | file .notPermitted => "Operation not permitted"
  | file .notFound => "No such file or directory"
  | file .noDevice => "No such device or address"
  | file .execFormat => "Exec format error"
  | file .permissionDenied => "Permission denied"
  | file .alreadyExists => "File exists"
  | file .notDirectory => "Not a directory"
  | file .isDirectory => "Is a directory"
  | file .noSpace => "No space left on device"
  | file .nameTooLong => "File name too long"
  | file .tooManyLinks => "Too many levels of symbolic links"
  | file _ => "Invalid argument"
  | badDescriptor => "Bad file descriptor"
  | brokenPipe => "Broken pipe"
  | noProcess => "No such process"
  | notEmpty => "Directory not empty"
  | invalid => "Invalid argument"
  | noSpace => "No space left on device"
  | tooLarge => "File too large"
  | illegalSeek => "Illegal seek"
  | noDevice => "No such device or address"
  | busy => "Device or resource busy"
  | tooLong => "Argument list too long"

/-- The refusal because something does not exist. -/
def notFound : Refusal := file .notFound

/-- Is something on the way missing or no directory? -/
def isMissing : Refusal → Bool
  | file .notFound | file .notDirectory => true
  | _ => false

end Refusal

/-- How a file is opened. -/
structure Opening where
  readable : Bool := false
  writable : Bool := false
  create : Bool := false
  /-- An existing file is refused. -/
  exclusive : Bool := false
  truncate : Bool := false
  append : Bool := false
  /-- The mode of a new file, before the mask. -/
  mode : Nat := 0o666
  deriving Repr, Inhabited

namespace Opening

/-- For reading. -/
def input : Opening := { readable := true }

/-- For writing from the beginning, over what was there. -/
def output : Opening := { writable := true, create := true, truncate := true }

/-- For writing at the end. -/
def extension : Opening := { writable := true, create := true, append := true }

/-- For reading and writing what is there. -/
def update : Opening := { readable := true, writable := true, create := true }

end Opening

/-- What kind of thing a path or a descriptor leads to. -/
inductive Kind where
  | file
  | directory
  | device
  | pipe
  | link
  deriving DecidableEq, Repr, Inhabited

/-- By what a thing is told apart from all others. -/
inductive Identity where
  | place (loc : Location)
  | number (n : Nat)
  deriving DecidableEq, Repr, Inhabited

/-- What is known of a thing that a path or a descriptor leads to. -/
structure Status where
  kind : Kind
  size : Nat := 0
  mode : Nat := 0
  /-- Does it belong to the user? -/
  own : Bool := true
  /-- Where it stands, if it has a place among the files. -/
  location : Option Location := none
  identity : Option Identity := none
  /-- How many names it has. -/
  links : Nat := 1
  /-- When it was changed last. -/
  changed : Nat := 0
  deriving Repr, Inhabited

namespace Status

/-- Has the user a right? -/
def grants (s : Status) (r : Right) : Bool :=
  let digit := if s.own then s.mode / 64 % 8 else s.mode % 8
  digit / r.bit % 2 == 1

/-- May the user execute it, or search it? -/
def executable (s : Status) : Bool := s.grants .execute

/-- Are two things the same? -/
def same (a b : Status) : Bool := a.identity.isSome && a.identity == b.identity

end Status

/-- A change among the files.  Modes are meant before the mask. -/
inductive Change where
  | makeDirectory (path : String) (mode : Nat)
  | makeFifo (path : String) (mode : Nat)
  /-- A new link to a path. -/
  | makeLink (target path : String)
  /-- Another name for what is there. -/
  | addName (source path : String)
  | removeDirectory (path : String)
  | unlink (path : String)
  | rename (source target : String)
  /-- A new mode, regardless of the mask. -/
  | setMode (path : String) (mode : Nat)
  | resize (path : String) (size : Nat)
  /-- Notes that a file was changed now, or at a given time. -/
  | touch (path : String) (time : Option Nat)
  deriving Repr, Inhabited

/-- A limit on what a process may use; nothing stands for no limit.  The process may set it up to the
highest value. -/
structure Limit where
  resource : Char
  current : Option Nat
  highest : Option Nat
  deriving DecidableEq, Repr, Inhabited

/-- What a process does with a signal. -/
inductive Disposition where
  | standard
  | ignore
  | notice
  deriving DecidableEq, Repr, Inhabited

/-- How a process ended. -/
inductive Ending where
  | code (n : Nat)
  | signal (number : Nat)
  deriving DecidableEq, Repr, Inhabited

/-- What is known of the children of a process. -/
inductive Awaited where
  | ended (pid : Nat) (how : Ending)
  /-- There are children, and none has ended. -/
  | running
  | childless
  /-- A signal came first. -/
  | interrupted
  deriving Repr, Inhabited

/-- The variables that a program is given. -/
abbrev Environment := List (String × String)

/-- What a process may ask for. -/
inductive Request where
  /-- To let a little time pass. -/
  | tick
  /-- The number of the process, and that of its parent. -/
  | identity
  | read (fd count : Nat)
  /-- To wait until reading need not wait, or until a time; answered by whether the former came first. -/
  | ready (fd until_ : Nat)
  | write (fd : Nat) (bytes : Bytes)
  /-- To move to a place in a file, given by its distance from the start. -/
  | seek (fd : Nat) (offset : Nat)
  /-- The current place in a file. -/
  | offset (fd : Nat)
  | openFile (path : String) (how : Opening)
  | close (fd : Nat)
  /-- A second descriptor, the first free one from a number on; it may be kept from other programs. -/
  | duplicate (fd least : Nat) (withheld : Bool)
  /-- To make one descriptor the same as another. -/
  | assign (fd target : Nat)
  | pipe
  | statusOf (fd : Nat)
  | inspect (path : String)
  /-- What a path names, even if that is a link. -/
  | inspectLink (path : String)
  | readLink (path : String)
  | entries (path : String)
  | change (c : Change)
  | enter (path : String)
  | here
  /-- To become another program; answered only if that is refused. -/
  | execute (path : String) (argv : List String) (env : Environment)
  | await (patient : Bool)
  | send (target : Int) (signal : Nat)
  | dispose (signal : Nat) (d : Disposition)
  /-- The signals that were noticed since the last time. -/
  | noticed
  /-- To let so many microseconds pass. -/
  | pause (time : Nat)
  /-- To let all time pass; never answered. -/
  | rest
  | mask (new : Option Nat)
  | limits
  | setLimit (l : Limit)
  | now

/-- The answers to a request. -/
@[reducible] def Request.Answer : Request → Type
  | tick => Unit
  | identity => Nat × Nat
  | read .. => Except Refusal Bytes
  | ready .. => Bool
  | write .. => Except Refusal Nat
  | seek .. => Except Refusal Unit
  | offset _ => Except Refusal Nat
  | openFile .. => Except Refusal Nat
  | close _ => Except Refusal Unit
  | duplicate .. => Except Refusal Nat
  | assign .. => Except Refusal Unit
  | pipe => Nat × Nat
  | statusOf _ => Except Refusal Status
  | inspect _ => Except Refusal Status
  | inspectLink _ => Except Refusal Status
  | readLink _ => Except Refusal String
  | entries _ => Except Refusal (List String)
  | change _ => Except Refusal Unit
  | enter _ => Except Refusal Unit
  | here => Except Refusal String
  | execute .. => Refusal
  | await _ => Awaited
  | send .. => Except Refusal Unit
  | dispose .. => Unit
  | noticed => List Nat
  | pause _ => Unit
  | rest => Unit
  | mask _ => Nat
  | limits => List Limit
  | setLimit _ => Except Refusal Unit
  | now => Nat

/-- What a process does from now on. -/
inductive Routine where
  | exit (status : Nat)
  /-- Goes on as two processes; the first learns the number of the second. -/
  | fork (child : Routine) (next : Nat → Routine)
  | ask (request : Request) (next : request.Answer → Routine)

instance : Inhabited Routine := ⟨.exit 0⟩

/-- A part of what a process does, with a result. -/
def Work (α : Type) : Type := (α → Routine) → Routine

namespace Work

instance : Monad Work where
  pure a := fun next => next a
  bind t f := fun next => t fun a => f a next

/-- Asks for something. -/
def ask (request : Request) : Work request.Answer := fun next => .ask request next

/-- Ends the process. -/
def exit {α : Type} (status : Nat) : Work α := fun _ => .exit status

/-- The process that carries out a task and ends with its result. -/
def routine (t : Work Nat) : Routine := t .exit

/-- Runs a task as another process, and goes on with the number of that process. -/
def fork (child : Work Nat) : Work Nat := fun next => .fork child.routine next

/-- Repeats a step until it gives a result; `limit` bounds the repetitions. -/
def iterate {σ α : Type} [Inhabited α] (step : σ → Work (σ ⊕ α)) : (limit : Nat) → σ → Work α
  | 0, _ => pure default
  | limit + 1, s => do
    match ← step s with
    | .inl s => iterate step limit s
    | .inr a => pure a

end Work

/-- More repetitions than any run has steps. -/
def endless : Nat := 0x10000000000

end HardenAudit.Kernel
