/-!
# Spans and moments

Lengths of time and readings of a monotonic clock, in whole seconds and nanoseconds, with the word
sizes that a clock has.  Adding a span to a moment is checked: a moment beyond the last second that
the clock can show does not exist.
-/

namespace HardenAudit

/-- A length of time; the nanoseconds stay below one second. -/
structure Span where
  seconds : UInt64
  nanoseconds : UInt32
  deriving DecidableEq, Repr, Inhabited

namespace Span

/-- A span of so many milliseconds. -/
def ofMilliseconds (ms : UInt64) : Span := ⟨ms / 1000, (ms % 1000).toUInt32 * 1000000⟩

/-- The whole milliseconds of a span, in a 64-bit word. -/
def toMilliseconds (s : Span) : UInt64 :=
  (s.seconds.toNat * 1000 + s.nanoseconds.toNat / 1000000).toUInt64

end Span

/-- A reading of the clock; the nanoseconds stay below one second. -/
structure Moment where
  seconds : Int64
  nanoseconds : UInt32
  deriving DecidableEq, Repr, Inhabited

namespace Moment

/-- Nanoseconds since second zero. -/
def total (m : Moment) : Int := m.seconds.toInt * 1000000000 + m.nanoseconds.toNat

/-- The first second that the clock cannot show. -/
def secondLimit : Int := 0x8000000000000000

/-- The moment a span later, if the clock can show it. -/
def add? (m : Moment) (s : Span) : Option Moment :=
  let nanoseconds := m.nanoseconds.toNat + s.nanoseconds.toNat
  let seconds := m.seconds.toInt + s.seconds.toNat + (nanoseconds / 1000000000 : Nat)
  if seconds < secondLimit then some ⟨.ofInt seconds, (nanoseconds % 1000000000).toUInt32⟩ else none

/-- Is the moment at or past another one? -/
def reached (m deadline : Moment) : Bool := decide (deadline.total ≤ m.total)

/-- The moment so many microseconds after second zero. -/
def ofMicroseconds (n : Nat) : Moment :=
  ⟨.ofInt (n / 1000000 : Nat), ((n % 1000000) * 1000).toUInt32⟩

end Moment
end HardenAudit
