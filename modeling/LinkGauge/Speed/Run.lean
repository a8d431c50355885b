import LinkGauge.Measurement.Bench
import LinkGauge.Speed.Reading

/-!
# Speed runs

A speed run runs the tool once. Only a reading is submitted; a run that came to nothing leaves no
trace.
-/

namespace LinkGauge.Rig

def speedCommand (r : Rig) : Command :=
  ⟨r.tools.speed, ["--format=json", "--accept-license", "--accept-gdpr"], r.testing.speedTimeout⟩

/-- Submit what was read, if it was a reading. -/
def submitReading (r : Rig) : Except Problem Speed.Reading → Plan Measuring (Except Problem Int64)
  | .error p => .done (.error p)
  | .ok reading => Measuring.submitSpeed (.ofReading reading r.daemon)

/-- Measure the speed and submit the reading. The result is the number of the test. -/
def speed (r : Rig) : Plan Measuring (Except Problem Int64) :=
  (Measuring.run r.speedCommand).andThen fun raw =>
    Measuring.now.bind fun now =>
      r.submitReading (Speed.read raw r.testing.speedUnit now)

/-- `speed`, once there is a slot. -/
def speedNow (r : Rig) : Plan Measuring (Except Problem Int64) :=
  Measuring.withSlot r.speed

end LinkGauge.Rig
