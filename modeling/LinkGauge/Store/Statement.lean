import LinkGauge.Host.Administration
import LinkGauge.Speed.Submission
import LinkGauge.Store.Value
import LinkGauge.Throughput.Submission

/-!
# Statements

What the program asks of the database, with the values that go along.
-/

namespace LinkGauge.Store

/-- A statement to be executed. -/
inductive Statement where
  | createHost (r : Host.Registration)
  | getHost (id : Int64)
  /-- Hosts by name, those that are active or not, and those of a category. -/
  | listHosts (active : Option Bool) (category : Option Category)
  | changeHost (id : Int64) (c : Host.Change)
  | deleteHost (id : Int64)
  | createSpeed (s : Speed.Submission)
  | getSpeed (id : Int64)
  | deleteSpeed (id : Int64)
  /-- The latest tests first. -/
  | recentSpeed (limit : Int64)
  /-- The slowest tests first. -/
  | slowestSpeed (limit : Int64)
  /-- The tests from one instant to another, the earliest first. -/
  | speedBetween (start stop : Instant)
  | countSpeed
  | createThroughput (r : Throughput.Record)
  | getThroughput (id : Int64)
  | deleteThroughput (id : Int64)
  | recentThroughput (limit : Int64)
  /-- The slowest tests that succeeded first. -/
  | slowestThroughput (limit : Int64)
  /-- The latest tests of a category's hosts first. -/
  | throughputOf (category : Category) (limit : Int64)
  | countThroughput

namespace Statement

/-- The statement changes what is stored. -/
def isWrite : Statement → Bool
  | .createHost _ | .changeHost _ _ | .deleteHost _ | .createSpeed _ | .deleteSpeed _
  | .createThroughput _ | .deleteThroughput _ => true
  | _ => false

/-- The statement adds a row. -/
def isInsert : Statement → Bool
  | .createHost _ | .createSpeed _ | .createThroughput _ => true
  | _ => false

/-- What a statement does, in a word. -/
def name : Statement → String
  | .createHost _ => "hosts.create"
  | .getHost _ => "hosts.get"
  | .listHosts _ _ => "hosts.list"
  | .changeHost _ _ => "hosts.update"
  | .deleteHost _ => "hosts.delete"
  | .createSpeed _ => "speed_tests.create"
  | .getSpeed _ => "speed_tests.get"
  | .deleteSpeed _ => "speed_tests.delete"
  | .recentSpeed _ => "speed_tests.recent"
  | .slowestSpeed _ => "speed_tests.slowest"
  | .speedBetween _ _ => "speed_tests.in_range"
  | .countSpeed => "speed_tests.count"
  | .createThroughput _ => "throughput_tests.create"
  | .getThroughput _ => "throughput_tests.get"
  | .deleteThroughput _ => "throughput_tests.delete"
  | .recentThroughput _ => "throughput_tests.recent"
  | .slowestThroughput _ => "throughput_tests.slowest"
  | .throughputOf _ _ => "throughput_tests.by_category"
  | .countThroughput => "throughput_tests.count"

/-- The values of a new host's columns. A port and whether it is active are always given. -/
def hostColumns (r : Host.Registration) : Row :=
  [ ("name", .text r.name),
    ("hostname", .text r.hostname),
    ("port", .ofInt32 (r.port.getD Host.defaultPort)),
    ("category", .text r.category.name),
    ("active", .bool (r.active.getD true)),
    ("description", .ofOption .text r.description) ]

/-- The values of a new speed test's columns. -/
def speedColumns (s : Speed.Submission) : Row :=
  [ ("timestamp", .ofInstant s.timestamp),
    ("download_mbps", .real s.downloadMbps),
    ("upload_mbps", .real s.uploadMbps),
    ("ping_ms", .real s.pingMs),
    ("jitter_ms", .ofOption .real s.jitterMs),
    ("server_name", .ofOption .text s.serverName),
    ("server_id", .ofOption .text s.serverId),
    ("isp", .ofOption .text s.isp),
    ("external_ip", .ofOption .text s.externalIp),
    ("result_url", .ofOption .text s.resultUrl),
    ("daemon_id", .text s.daemon) ]

/-- The values of a new throughput test's columns. -/
def throughputColumns (r : Throughput.Record) : Row :=
  [ ("timestamp", .ofInstant r.timestamp),
    ("sent_mbps", .real r.sentMbps),
    ("received_mbps", .real r.receivedMbps),
    ("retransmits", .ofOption .real r.retransmits),
    ("mean_rtt_ms", .ofOption .real r.meanRttMs),
    ("duration_seconds", .ofInt32 r.durationSeconds),
    ("protocol", .text r.transport.name),
    ("success", .bool r.success),
    ("error_message", .ofOption .text r.error),
    ("daemon_id", .text r.daemon),
    ("host_id", .integer r.hostId) ]

/-- The values that go along with a statement. -/
def parameters : Statement → List Value
  | .createHost r => (hostColumns r).map Prod.snd
  | .createSpeed s => (speedColumns s).map Prod.snd
  | .createThroughput r => (throughputColumns r).map Prod.snd
  | .changeHost id c =>
    [ .integer id, .ofOption .text c.name, .ofOption .text c.hostname,
      .ofOption .ofInt32 c.port, .ofOption (fun k => .text k.name) c.category,
      .ofOption .bool c.active, .bool c.description.isSome,
      .ofOption .text c.description.join ]
  | .listHosts active category =>
    [.ofOption .bool active, .ofOption (fun k => .text k.name) category]
  | .getHost id | .deleteHost id | .getSpeed id | .deleteSpeed id | .getThroughput id
  | .deleteThroughput id => [.integer id]
  | .recentSpeed limit | .slowestSpeed limit | .recentThroughput limit
  | .slowestThroughput limit => [.integer limit]
  | .speedBetween start stop => [.ofInstant start, .ofInstant stop]
  | .throughputOf category limit => [.text category.name, .integer limit]
  | .countSpeed | .countThroughput => []

end Statement

end LinkGauge.Store
