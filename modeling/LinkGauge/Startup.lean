import LinkGauge.Delivery.Basic
import LinkGauge.Measurement.Bench
import LinkGauge.Store.Opening

/-!
# Starting up

A process that runs on consists of the daemon, the service, or both. It opens the database if
either needs it. Runs that the service makes on demand take the slots of the daemon where both
write to the same database.
-/

namespace LinkGauge

/-- What a process consists of. -/
structure Parts where
  rig : Rig
  daemon : Bool
  service : Bool
  /-- The service takes the slots of the daemon. -/
  sharedSlots : Bool

/-- Why a process does not start. -/
inductive Startup.Failure where
  | store (f : Store.Opening.Failure)
  | delivery (reason : String)
  | abort (reason : Abort)
  deriving DecidableEq, Repr

namespace Startup

/-- Put the parts together, with or without a database. -/
def assemble (s : Settings) (id : DaemonId) (connected : Bool) : Except Failure Parts := do
  let rig : Rig := ⟨s.testing, s.tools, id⟩
  if s.daemon then (Delivery.ready s.destination connected).mapError .delivery
  if s.daemon || s.service then rig.check.mapError .abort
  .ok
    { rig
      daemon := s.daemon
      service := s.service && connected
      sharedSlots := s.daemon && s.service && s.destination.isDirect }

/-- Start a process. -/
def start (s : Settings) (id : DaemonId) : Plan Store.Opening (Except Failure Parts) :=
  if s.needsDatabase then
    (Store.establish s.database).bind fun
      | .ok () => .done (assemble s id true)
      | .error f => .done (.error (.store f))
  else .done (assemble s id false)

end Startup

end LinkGauge
