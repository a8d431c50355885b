import LinkGauge.Time.Date
import LinkGauge.Time.Span

/-!
# Instants

Points in time, told in UTC to the nanosecond. A leap second belongs to the second before it: its
nanoseconds go on counting beyond a full second.
-/

namespace LinkGauge

/-- The first second the clock can tell. -/
abbrev firstSecond : Int := -8334601228800

/-- The second behind the last one the clock can tell. -/
abbrev endSecond : Int := 8210266876800

theorem firstSecond_eq : firstSecond = Date.toDays ⟨-262143, 1, 1⟩ * 86400 := by decide

theorem endSecond_eq : endSecond = (Date.toDays ⟨262142, 12, 31⟩ + 1) * 86400 := by decide

/-- The clock can tell seconds and nanoseconds: the second lies between `firstSecond` and
`endSecond`, and only the last second of a minute may be followed by a leap second. -/
def OnClock (second : Int) (nano : Nat) : Prop :=
  firstSecond ≤ second ∧ second < endSecond ∧
    (nano < nanosPerSecond ∨ second % 60 = 59 ∧ nano < 2 * nanosPerSecond)

instance (second : Int) (nano : Nat) : Decidable (OnClock second nano) :=
  inferInstanceAs (Decidable (_ ∧ _ ∧ (_ ∨ _ ∧ _)))

/-- A point in time: seconds from the beginning of 1970, and nanoseconds. -/
structure Instant where
  second : Int
  nano : Nat
  onClock : OnClock second nano := by decide
  deriving DecidableEq, Repr

namespace Instant

/-- One instant is before another. -/
def before (a b : Instant) : Bool :=
  a.second < b.second || (a.second == b.second && a.nano < b.nano)

/-- The day, counted from the beginning of 1970. -/
def day (t : Instant) : Int := t.second / 86400

/-- The second of the day. -/
def secondOfDay (t : Instant) : Nat := (t.second % 86400).toNat

/-! ### Text -/

/-- A fraction of a second with no, three, six or nine digits, the fewest that are exact. -/
def fractionChars (nano : Nat) : List Char :=
  if nano = 0 then []
  else if nano % 1000000 = 0 then '.' :: Date.padded 3 (nano / 1000000)
  else if nano % 1000 = 0 then '.' :: Date.padded 6 (nano / 1000)
  else '.' :: Date.padded 9 nano

/-- Date and time, as `2025-03-01T12:00:00.500Z`. A leap second is written as second 60. -/
def chars (t : Instant) : List Char :=
  let s := t.secondOfDay
  let leap := t.nano / nanosPerSecond
  (Date.ofDays t.day).chars ++
    'T' :: (Date.padded 2 (s / 3600) ++
      ':' :: (Date.padded 2 (s / 60 % 60) ++
        ':' :: (Date.padded 2 (s % 60 + leap) ++
          (fractionChars (t.nano % nanosPerSecond) ++ ['Z']))))

/-- The text of an instant. -/
def render (t : Instant) : String := String.ofList t.chars

/-! ### Microseconds -/

/-- The whole microseconds from the beginning of 2000, towards which fractions are dropped. -/
def toMicros (t : Instant) : Int :=
  ((t.second - 946684800) * nanosPerSecond + t.nano).tdiv 1000

/-- The instant as it is kept in storage, cut to microseconds. A leap second becomes the second that
follows it, unless that is beyond the clock. -/
def stored (t : Instant) : Instant :=
  let second := t.toMicros / 1000000 + 946684800
  let nano := (t.toMicros % 1000000).toNat * 1000
  if h : OnClock second nano then ⟨second, nano, h⟩ else t

end Instant

end LinkGauge
