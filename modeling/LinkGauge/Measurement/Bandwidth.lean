import LinkGauge.Document.Decoder
import LinkGauge.Json.Value

/-!
# Bandwidth

Bandwidths are kept in megabits per second and are never negative.
-/

namespace LinkGauge

/-- The number, or zero if it is negative or no number at all. -/
def atLeastZero (x : Float) : Float := if 0 < x then x else 0

/-- Bits per second in megabits per second. -/
def bitsToMegabits (bits : Float) : Float := atLeastZero (bits / 1000000)

/-- The unit in which the speed tool reports bandwidths. -/
inductive BandwidthUnit where
  | bitsPerSecond
  | bytesPerSecond
  deriving DecidableEq, Repr

namespace BandwidthUnit

/-- A bandwidth in megabits per second. -/
def toMegabits (unit : BandwidthUnit) (x : Float) : Float :=
  match unit with
  | .bitsPerSecond => bitsToMegabits x
  | .bytesPerSecond => bitsToMegabits (x * 8)

def name : BandwidthUnit → String
  | .bitsPerSecond => "bits_per_second"
  | .bytesPerSecond => "bytes_per_second"

def named : List (String × BandwidthUnit) :=
  [bitsPerSecond, bytesPerSecond].map fun u => (u.name, u)

def toJson (unit : BandwidthUnit) : Json := .text unit.name

def decoder : Decoder BandwidthUnit := Decoder.variant named

end BandwidthUnit

end LinkGauge
