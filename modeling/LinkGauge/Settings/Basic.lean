import LinkGauge.Measurement.Bandwidth
import LinkGauge.Text.Blank
import LinkGauge.Time.Json
import LinkGauge.Url.Basic

/-!
# Settings

What can be set, and what holds where nothing is. Settings are written as a JSON object with the
same members they are read from.
-/

namespace LinkGauge.Settings

def seconds (n : UInt64) : Span := .ofSeconds n

/-- The connection to the database. -/
structure Database where
  url : Option String
  maxConnections : UInt32
  minConnections : UInt32
  /-- How long to wait for a connection. -/
  acquireTimeout : Span

/-- Schedules and limits of the daemon. -/
structure Testing where
  /-- From one speed test to the next. -/
  speedInterval : Span
  /-- From one round of throughput tests to the next. -/
  throughputInterval : Span
  /-- The length of a throughput test. -/
  throughputDuration : Span
  /-- What a throughput test gets on top of its length before it is killed. -/
  throughputGrace : Span
  /-- The deadline of a speed test. -/
  speedTimeout : Span
  /-- How many runs may go on at once; others wait. -/
  maxConcurrentRuns : UInt64
  speedUnit : BandwidthUnit

/-- The programs that measure. -/
structure Tools where
  speed : String
  throughput : String

/-- A remote service that takes submissions. -/
structure Remote where
  endpoint : Url
  /-- How long a request may take. -/
  timeout : Span

/-- Where submissions go. -/
inductive Destination where
  /-- Into the database. -/
  | direct
  /-- To a remote service. -/
  | remote (r : Remote)

end Settings

/-- The settings of a process. -/
structure Settings where
  /-- The address the service listens on. -/
  host : String
  port : UInt16
  /-- A database address of its own, which comes before the one among the database's settings. -/
  databaseUrl : Option String
  database : Settings.Database
  testing : Settings.Testing
  tools : Settings.Tools
  destination : Settings.Destination
  /-- Whether the daemon runs. -/
  daemon : Bool
  /-- Whether the service runs. -/
  service : Bool
  /-- Whether traces are exported. -/
  exportTraces : Bool

namespace Settings

/-! ### Defaults -/

def Database.default : Database := ⟨none, 10, 0, seconds 30⟩

def Testing.default : Testing :=
  ⟨seconds 900, seconds 600, seconds 10, seconds 30, seconds 120, 4, .bytesPerSecond⟩

def Tools.default : Tools := ⟨"speedtest", "iperf3"⟩

def Remote.defaultTimeout : Span := seconds 30

/-- What holds where nothing is set. -/
def default : Settings where
  host := "0.0.0.0"
  port := 8080
  databaseUrl := none
  database := .default
  testing := .default
  tools := .default
  destination := .direct
  daemon := true
  service := false
  exportTraces := false

/-! ### Text -/

def Database.toJson (d : Database) : Json :=
  .object
    [ ("url", .ofOption .text d.url),
      ("max_connections", .nat d.maxConnections.toNat),
      ("min_connections", .nat d.minConnections.toNat),
      ("acquire_timeout", d.acquireTimeout.toJson) ]

def Testing.toJson (t : Testing) : Json :=
  .object
    [ ("speedtest_interval", t.speedInterval.toJson),
      ("throughput_interval", t.throughputInterval.toJson),
      ("throughput_duration", t.throughputDuration.toJson),
      ("throughput_grace", t.throughputGrace.toJson),
      ("speedtest_timeout", t.speedTimeout.toJson),
      ("max_concurrent_runs", .nat t.maxConcurrentRuns.toNat),
      ("speedtest_bandwidth_unit", t.speedUnit.toJson) ]

def Tools.toJson (t : Tools) : Json :=
  .object [("speedtest_binary", .text t.speed), ("iperf_binary", .text t.throughput)]

def Destination.toJson : Destination → Json
  | .direct => .object [("mode", .text "direct")]
  | .remote r =>
    .object
      [("mode", .text "api"), ("endpoint", .text r.endpoint.text), ("timeout", r.timeout.toJson)]

/-- A service that can be switched on. -/
def switchJson (on : Bool) : Json := .object [("enabled", .bool on)]

def toJson (s : Settings) : Json :=
  .object
    ([("host", .text s.host), ("port", .nat s.port.toNat)] ++
     Json.memberIf "database_url" .text s.databaseUrl ++
     [ ("database", s.database.toJson),
       ("testing", s.testing.toJson),
       ("tools", s.tools.toJson),
       ("submission", s.destination.toJson),
       ("background_services", .object
         [("daemon", switchJson s.daemon), ("ingest_api", switchJson s.service)]),
       ("enable_otel_export", .bool s.exportTraces) ])

/-! ### What follows from settings -/

/-- The deadline of a throughput test of a given length, unless it is too long. -/
def Testing.deadline? (t : Testing) (duration : Span) : Option Span :=
  duration.add? t.throughputGrace

/-- The most runs that can go on at once. There is always room for one. -/
def Testing.slots (t : Testing) : Nat := max 1 t.maxConcurrentRuns.toNat

def Destination.isDirect : Destination → Bool
  | .direct => true
  | .remote _ => false

/-- Something in the process uses the database. -/
def needsDatabase (s : Settings) : Bool :=
  (s.daemon && s.destination.isDirect) || s.service

/-- The address the service listens on, with its port. -/
def bindAddress (s : Settings) : String := s.host ++ ":" ++ toString s.port.toNat

/-! ### Consistency -/

/-- Refuse if a condition holds. -/
def refuseIf (refused : Bool) (reason : String) : Except String Unit :=
  if refused then .error ("Config validation: " ++ reason) else .ok ()

/-- What the daemon needs of the settings. -/
def checkDaemon (s : Settings) : Except String Unit := do
  let t := s.testing
  refuseIf (t.speedInterval.isZero || t.throughputInterval.isZero)
    "testing intervals must be greater than zero"
  refuseIf (t.throughputDuration.seconds == 0) "testing.throughput_duration must be at least 1s"
  refuseIf t.speedTimeout.isZero "testing.speedtest_timeout must be greater than zero"
  refuseIf (t.maxConcurrentRuns == 0) "testing.max_concurrent_runs must be at least 1"
  refuseIf (isBlank s.tools.speed || isBlank s.tools.throughput) "tool binaries cannot be empty"

/-- What a remote service needs of the settings. -/
def Remote.check (r : Remote) : Except String Unit := do
  refuseIf (r.endpoint.scheme != "http" && r.endpoint.scheme != "https")
    ("submission.endpoint must be an http(s) URL, got '" ++ r.endpoint.text ++ "'")
  refuseIf r.timeout.isZero "submission.timeout must be greater than zero"

/-- Whether the settings fit together, or the first reason why not. -/
def check (s : Settings) : Except String Unit := do
  refuseIf (!s.daemon && !s.service)
    "neither the daemon nor the ingest API is enabled, nothing to run"
  if s.daemon then s.checkDaemon
  if let .remote r := s.destination then r.check
  refuseIf (s.needsDatabase && s.database.url.all isBlank)
    ("a database URL is required for direct submission or the ingest API. " ++
      "Set DATABASE_URL or database.url.")
  refuseIf (s.database.maxConnections < s.database.minConnections)
    ("database.min_connections (" ++ toString s.database.minConnections.toNat ++
      ") cannot be greater than max_connections (" ++
      toString s.database.maxConnections.toNat ++ ")")

end Settings

end LinkGauge
