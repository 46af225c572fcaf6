/-!
# Signals

Names, numbers and wordings of the signals that processes send each other, and what a signal does to
a process that has made no arrangements for it.
-/

namespace HardenAudit.Kernel

/-- A signal: its number, its name, and how its arrival is reported. -/
structure Signal where
  number : Nat
  name : String
  wording : String
  deriving Repr, Inhabited

namespace Signal

/-- The signals that have names, in the order of their numbers. -/
def all : List Signal :=
  [⟨1, "HUP", "Hangup"⟩, ⟨2, "INT", "Interrupt"⟩, ⟨3, "QUIT", "Quit"⟩,
   ⟨4, "ILL", "Illegal instruction"⟩, ⟨5, "TRAP", "Trace/breakpoint trap"⟩, ⟨6, "ABRT", "Aborted"⟩,
   ⟨7, "BUS", "Bus error"⟩, ⟨8, "FPE", "Floating point exception"⟩, ⟨9, "KILL", "Killed"⟩,
   ⟨10, "USR1", "User defined signal 1"⟩, ⟨11, "SEGV", "Segmentation fault"⟩,
   ⟨12, "USR2", "User defined signal 2"⟩, ⟨13, "PIPE", "Broken pipe"⟩, ⟨14, "ALRM", "Alarm clock"⟩,
   ⟨15, "TERM", "Terminated"⟩, ⟨16, "16", "Stack fault"⟩, ⟨17, "CHLD", "Child exited"⟩,
   ⟨18, "CONT", "Continued"⟩, ⟨19, "STOP", "Stopped (signal)"⟩, ⟨20, "TSTP", "Stopped"⟩,
   ⟨21, "TTIN", "Stopped (tty input)"⟩, ⟨22, "TTOU", "Stopped (tty output)"⟩,
   ⟨23, "URG", "Urgent I/O condition"⟩, ⟨24, "XCPU", "CPU time limit exceeded"⟩,
   ⟨25, "XFSZ", "File size limit exceeded"⟩, ⟨26, "VTALRM", "Virtual timer expired"⟩,
   ⟨27, "PROF", "Profiling timer expired"⟩, ⟨28, "WINCH", "Window changed"⟩,
   ⟨29, "IO", "I/O possible"⟩, ⟨30, "PWR", "Power failure"⟩, ⟨31, "SYS", "Bad system call"⟩]

/-- The last signal. -/
def last : Nat := 64

/-- The first signal of real time. -/
def realTimeFirst : Nat := 34

/-- The name of a signal. -/
def name? (number : Nat) : Option String :=
  match all.find? (·.number == number) with
  | some s => some s.name
  | none =>
    if number = realTimeFirst then some "RTMIN"
    else if number = last then some "RTMAX"
    else if realTimeFirst < number ∧ number ≤ 49 then
      some ("RTMIN+" ++ toString (number - realTimeFirst))
    else if 49 < number ∧ number < last then some ("RTMAX-" ++ toString (last - number))
    else if 0 < number ∧ number < realTimeFirst then some (toString number)
    else none

/-- The signal with a name. -/
def ofName? (name : String) : Option Nat :=
  ((List.range (last + 1)).drop 1).find? fun n => name? n == some name

/-- The signal that a child has ended. -/
def child : Nat := 17

/-- How the arrival of a signal is reported. -/
def wordingOf (number : Nat) : String :=
  match all.find? (·.number == number) with
  | some s => s.wording
  | none =>
    if realTimeFirst ≤ number ∧ number ≤ last then
      "Real-time signal " ++ toString (number - realTimeFirst)
    else "Unknown signal " ++ toString number

/-- The signal for a division that has no result. -/
def arithmetic : Nat := 8

/-- The signal for making a file too large. -/
def fileSize : Nat := 25

/-- The signal that ends a process in any case. -/
def kill : Nat := 9

/-- The signal for writing into a pipe that nobody reads. -/
def pipe : Nat := 13

/-- The signal that asks a process to end. -/
def term : Nat := 15

/-- The signal that lets a stopped process go on. -/
def cont : Nat := 18

/-- Signals that do nothing unless they are expected. -/
def isQuiet (number : Nat) : Bool := [17, 18, 23, 28].contains number

/-- Signals that stop a process. -/
def isStop (number : Nat) : Bool := [19, 20, 21, 22].contains number

/-- Signals for which no arrangement can be made. -/
def isFirm (number : Nat) : Bool := number == 9 || number == 19

end Signal
end HardenAudit.Kernel
