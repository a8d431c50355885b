import LinkGauge.Word

/-!
# Spans of time

Lengths of time in whole nanoseconds, up to `2 ^ 64 - 1` seconds and 999999999 nanoseconds.
-/

namespace LinkGauge

abbrev nanosPerSecond : Nat := 1000000000

/-- A length of time. -/
structure Span where
  nanos : Nat
  nanos_lt : nanos < Word.size64 * nanosPerSecond := by decide
  deriving DecidableEq, Repr

namespace Span

/-- The span of a number of nanoseconds, unless they are too many. -/
def ofNanos? (n : Nat) : Option Span :=
  if h : n < Word.size64 * nanosPerSecond then some ⟨n, h⟩ else none

/-- The span of a number of seconds. -/
def ofSeconds (n : UInt64) : Span :=
  ⟨n.toNat * nanosPerSecond, by
    have := n.toNat_lt
    simp only [nanosPerSecond, Word.size64]
    omega⟩

/-- The span of a number of milliseconds. -/
def ofMillis (n : UInt64) : Span :=
  ⟨n.toNat * 1000000, by
    have := n.toNat_lt
    simp only [nanosPerSecond, Word.size64]
    omega⟩

/-- The whole seconds of a span. -/
def seconds (s : Span) : Nat := s.nanos / nanosPerSecond

/-- The nanoseconds beyond the whole seconds. -/
def subNanos (s : Span) : Nat := s.nanos % nanosPerSecond

/-- The whole milliseconds of a span. -/
def millis (s : Span) : Nat := s.nanos / 1000000

def isZero (s : Span) : Bool := s.nanos == 0

/-- The sum of two spans, unless it is too long. -/
def add? (a b : Span) : Option Span := ofNanos? (a.nanos + b.nanos)

theorem seconds_lt (s : Span) : s.seconds < Word.size64 := by
  have := s.nanos_lt
  simp only [seconds, nanosPerSecond, Word.size64] at *
  omega

end Span

end LinkGauge
