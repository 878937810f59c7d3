/-!
# Moments and spans

A `Span` is a number of nanoseconds. A `Moment` is a span since the start of a clock that counts
whole seconds in a word of sixty-four bits, so that an age in seconds always fits such a word.

Ages saturate: a moment before another is no time after it. A clock that is asked to go past its end
stays at its end.
-/

namespace ChainWatch

/-- A length of time in nanoseconds. -/
abbrev Span := Nat

namespace Span

/-- A number of milliseconds. -/
def millis (n : Nat) : Span := n * 1000000

/-- A number of seconds. -/
def secs (n : Nat) : Span := n * 1000000000

/-- The whole seconds of a span. -/
def wholeSecs (s : Span) : Nat := s / 1000000000

/-- The whole milliseconds of a span. -/
def wholeMillis (s : Span) : Nat := s / 1000000

end Span

/-- One more than the last nanosecond of a clock. -/
def clockEnd : Nat := UInt64.size * 1000000000

/-- A point in time, as a span since the start of the clock. -/
structure Moment where
  nanos : Nat
  inRange : nanos < clockEnd
deriving DecidableEq

namespace Moment

/-- The start of the clock. -/
def start : Moment := ⟨0, by decide⟩

/-- The moment some nanoseconds after the start, or the last one. -/
def ofNanos (n : Nat) : Moment :=
  ⟨min n (clockEnd - 1), by have : 0 < clockEnd := by decide
                            omega⟩

/-- The moment some milliseconds after the start. -/
def ofMillis (n : UInt64) : Moment :=
  ⟨Span.millis n.toNat, by
    have := n.toNat_lt
    simp only [Span.millis, clockEnd, UInt64.size]
    omega⟩

/-- The time from one moment to another that is not before it; none if it is before it. -/
def since (later earlier : Moment) : Span :=
  later.nanos - earlier.nanos

/-- The moment a span after another. -/
def after (t : Moment) (s : Span) : Moment :=
  ofNanos (t.nanos + s)

@[simp] theorem since_self (t : Moment) : t.since t = 0 := by simp [since]

/-- The whole seconds of an age fit a word. -/
theorem wholeSecs_since_lt (later earlier : Moment) :
    (later.since earlier).wholeSecs < UInt64.size := by
  have := later.inRange
  simp only [clockEnd, UInt64.size] at this
  simp only [since, Span.wholeSecs, UInt64.size]
  omega

end Moment

end ChainWatch
