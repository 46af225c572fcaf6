import HardenAudit.Pipeline
import HardenAudit.Text.Printable
import HardenAudit.Time

/-!
# Running a program under a time limit

What a launched program does is a behaviour: when and how it ends, what it writes to its two streams
and when, when the last process that holds the streams is gone, and what it leaves when the run is
left at a time.  A bounded run waits for the program itself and then reads both streams to their end.
If some process holds a stream for ever, then this end never comes, and the run does not return.
-/

namespace HardenAudit.Launch

open Text (Bytes)

/-! ## Waiting for a program

A program is asked again and again whether it has ended.  Each round first takes its answer and then
reads the clock: an answer other than "running" ends the waiting whatever the time, and a program
that still runs at or past the deadline is given up, killed and waited for.
-/

/-- How a program ended. -/
inductive ExitStatus where
  | code (n : UInt8)
  | signal (number : Nat)
  deriving DecidableEq, Repr, Inhabited

namespace ExitStatus

/-- The exit code; there is none if a signal ended the program. -/
def code? : ExitStatus → Option Int
  | code n => some n.toNat
  | signal _ => none

/-- Did the program end with success? -/
def success : ExitStatus → Bool
  | code n => n == 0
  | signal _ => false

end ExitStatus

/-- The answer to the question whether a program has ended. -/
inductive Poll where
  | running
  | exited (status : ExitStatus)
  /-- The question could not be answered. -/
  | failed (reason : String)
  deriving DecidableEq, Repr, Inhabited

/-- The answer about a program that has ended, or that cannot be asked after for a reason. -/
def Poll.ofEnd : Except String ExitStatus → Poll
  | .ok status => exited status
  | .error reason => failed reason

/-- One round of waiting: the answer, and the clock read after it. -/
structure Observation where
  poll : Poll
  clock : Moment
  deriving DecidableEq, Repr, Inhabited

/-- How the waiting ended. -/
inductive Verdict where
  | exited (status : ExitStatus)
  | timedOut
  | failed (reason : String)
  deriving DecidableEq, Repr, Inhabited

/-- The verdict with the round that brought it, and whether the program was killed and waited for. -/
structure Ending where
  verdict : Verdict
  round : Nat
  reaped : Bool
  deriving DecidableEq, Repr, Inhabited

/-- The verdict of one round, unless the waiting goes on. -/
def Observation.verdict? (o : Observation) (deadline : Moment) : Option Verdict :=
  match o.poll with
  | .exited status => some (.exited status)
  | .failed reason => some (.failed reason)
  | .running => if o.clock.reached deadline then some .timedOut else none

/-- A program that has ended by itself is not killed. -/
def Verdict.reaps : Verdict → Bool
  | exited _ => false
  | _ => true

/-- Waits from a round on, for so many rounds at most. -/
def wait (observe : Nat → Observation) (deadline : Moment) : (rounds round : Nat) → Option Ending
  | 0, _ => none
  | rounds + 1, round =>
    match (observe round).verdict? deadline with
    | some verdict => some ⟨verdict, round, verdict.reaps⟩
    | none => wait observe deadline rounds (round + 1)

/-- Microseconds between two rounds. -/
def pollInterval : Nat := 10000

/-! ## Commands and what they do -/

/-- A program and its arguments. -/
structure Command where
  program : String
  args : List String
  deriving DecidableEq, Repr, Inhabited

/-- Bytes written to a stream, and when: microseconds after the launch. -/
structure Emission where
  time : Nat
  bytes : Bytes
  deriving DecidableEq, Repr, Inhabited

/-- What a launched program does; times are microseconds after the launch. -/
structure Behaviour (ρ : Type) where
  /-- When and how the program ends, if it ever does; or from when on the question whether it has ended
  cannot be answered, and why. -/
  exit : Option (Nat × Except String ExitStatus)
  stdout : List Emission
  stderr : List Emission
  /-- When the last process that holds the streams is gone, if it ever is. -/
  closed : Option Nat
  /-- What the run leaves when it is left at a time; the program is killed if it still runs. -/
  after : Nat → World ρ

/-- The programs of a system: what a command does when it is launched, or why it cannot be.  Whether a
program that runs at the `horizon` will ever end need not be found out. -/
structure Machine (ρ : Type) where
  launch : World ρ → Command → (horizon : Nat) → Except FileError (Behaviour ρ)

namespace Command

/-- Does a text hold the character NUL, which no argument can? -/
def hasNul (s : String) : Bool := s.toList.contains (Char.ofNat 0)

/-- A program or argument as it is shown. -/
def shown (s : String) : String := if hasNul s then "<string-with-nul>" else s

/-- The command as a log line shows it. -/
def text (c : Command) : String :=
  " ".intercalate ((c.program :: c.args).map fun s => Text.quoted (shown s))

end Command

namespace Behaviour

variable {ρ : Type}

/-- What a look at the program tells at a round. -/
def observe (b : Behaviour ρ) (round : Nat) : Observation :=
  let now := round * pollInterval
  let poll := match b.exit with
    | some (time, ended) => if time ≤ now then .ofEnd ended else .running
    | none => .running
  ⟨poll, .ofMicroseconds now⟩

/-- All bytes of a stream in the order of time. -/
def collect (emissions : List Emission) : Bytes :=
  (emissions.mergeSort fun a b => a.time ≤ b.time).flatMap (·.bytes)

end Behaviour

/-- What was caught of a program that ended. -/
structure Capture where
  status : ExitStatus
  stdout : String
  stderr : String
  deriving DecidableEq, Repr, Inhabited

/-- Rounds after which the deadline has surely passed. -/
def roundLimit (limit : Span) : Nat := limit.toMilliseconds.toNat / 10 + 2

/-- The time of the first round in which the deadline has passed. -/
def killTime (limit : Span) : Nat := (limit.toMilliseconds.toNat + 9) / 10 * pollInterval

/-- Runs a command to its end, or kills it when the limit has passed.  What a program that has ended wrote
is read until its streams are closed, and the run returns only if they ever are. -/
def run {ρ : Type} (machine : Machine ρ) (command : Command) (limit : Span) (w : World ρ) :
    Answer ρ Capture :=
  let program := Command.shown command.program
  let spawning : Record := ⟨.debug, "spawning " ++ command.text, none⟩
  let launched := if (command.program :: command.args).any Command.hasNul then .error .nulInData
    else machine.launch w command (killTime limit)
  match launched with
  | .error e => { result := .error (.toolLaunch program e.message), world := w, log := [spawning] }
  | .ok b =>
    let late (time : Nat) : Answer ρ Capture :=
      { result := .error (.toolTimeout program limit.toMilliseconds)
        world := b.after time
        log := [spawning,
          ⟨.warn, program ++ " exceeded " ++ toString limit.toMilliseconds.toNat ++ " ms; killed",
            none⟩] }
    match (Moment.ofMicroseconds 0).add? limit with
    | none => late (killTime limit)
    | some deadline =>
      match wait b.observe deadline (roundLimit limit) 0 with
      | none => late (killTime limit)
      | some ending =>
        let time := ending.round * pollInterval
        match ending.verdict with
        | .timedOut => late time
        | .failed reason =>
          { result := .error (.toolLaunch program ("waiting for process: " ++ reason))
            world := b.after time
            log := [spawning] }
        | .exited status =>
          { result := .ok
              ⟨status, Text.Utf8.decodeLossy (Behaviour.collect b.stdout),
                Text.Utf8.decodeLossy (Behaviour.collect b.stderr)⟩
            world := b.after (max time (b.closed.getD time))
            log := [spawning]
            returns := b.closed.isSome }

end HardenAudit.Launch
