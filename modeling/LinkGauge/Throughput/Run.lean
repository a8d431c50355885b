import LinkGauge.Measurement.Bench
import LinkGauge.Throughput.Reading
import LinkGauge.Word

/-!
# Throughput runs

A throughput run measures one host and submits what came of it. A measurement that fails is
submitted too, as a failure. So a run has an error only if its submission was not taken.
-/

namespace LinkGauge.Rig

def throughputCommand (r : Rig) (h : Host) (duration deadline : Span) : Command :=
  ⟨r.tools.throughput,
    ["-c", h.hostname, "-p", toString h.port.toInt, "-t", toString duration.seconds, "-J"],
    deadline⟩

/-- The seconds of a test, as submissions carry them. -/
def wholeSeconds (duration : Span) : Int32 :=
  Int32.ofNat (min duration.seconds (Word.half32 - 1))

def measure (r : Rig) (h : Host) (duration : Span) :
    Plan Measuring (Except Problem Throughput.Reading) :=
  match r.testing.deadline? duration with
  | none => Measuring.abort .deadlineTooLong
  | some deadline =>
    (Measuring.run (r.throughputCommand h duration deadline)).bind fun answer =>
      .done (answer.bind Throughput.read)

/-- What is submitted of a measurement. -/
def throughputSubmission (r : Rig) (h : Host) (duration : Span) (now : Instant) :
    Except Problem Throughput.Reading → Throughput.Submission
  | .ok reading => .ofReading reading h.id (wholeSeconds duration) r.daemon now
  | .error p => .failed h.id (wholeSeconds duration) p r.daemon now

/-- Measure a host and submit the outcome. The result is the number of the test, and whether it
succeeded. -/
def throughput (r : Rig) (h : Host) (duration : Span) :
    Plan Measuring (Except Problem (Int64 × Bool)) :=
  (r.measure h duration).bind fun outcome =>
    Measuring.now.bind fun now =>
      let s := r.throughputSubmission h duration now outcome
      (Measuring.submitThroughput s).bind fun answer => .done (answer.map (·, s.isSuccess))

/-- The length of a test, given or set. -/
def durationOr (r : Rig) (duration : Option Span) : Span :=
  duration.getD r.testing.throughputDuration

/-- Measure the host of a number among hosts, once there is a slot. -/
def throughputAmong (r : Rig) (id : Int64) (duration : Option Span) (hosts : List Host) :
    Plan Measuring (Except Problem (Int64 × Bool)) :=
  match hosts.find? (·.id == id) with
  | none => .done (.error (.unknownHost id))
  | some h => Measuring.withSlot (r.throughput h (r.durationOr duration))

/-- Measure the host of a number. -/
def throughputNow (r : Rig) (id : Int64) (duration : Option Span) :
    Plan Measuring (Except Problem (Int64 × Bool)) :=
  Measuring.hosts.andThen (r.throughputAmong id duration)

end LinkGauge.Rig
