/-!
# Identity of a daemon

Every record carries the name of the process that made it.
-/

namespace LinkGauge

/-- The name of a process, made of the machine's host name and the process number. -/
structure DaemonId where
  hostname : String
  process : UInt32
  deriving DecidableEq, Repr

/-- The name as records carry it. -/
def DaemonId.text (d : DaemonId) : String :=
  "daemon-" ++ d.hostname ++ "-" ++ toString d.process.toNat

end LinkGauge
