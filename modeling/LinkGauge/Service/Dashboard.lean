import LinkGauge.Host.Basic
import LinkGauge.Speed.Submission
import LinkGauge.Throughput.Submission

/-!
# The dashboard

The latest and the slowest tests, the hosts that are measured, and a few figures over them.
-/

namespace LinkGauge.Service

/-- How many of the latest tests are shown. -/
def recentCount : Int64 := 10

/-- How many of the slowest tests are shown. -/
def slowestCount : Int64 := 5

/-- The mean of numbers, added from the first to the last. -/
def mean? : List Float → Option Float
  | [] => none
  | xs => some (xs.foldl (· + ·) (-0.0) / Float.ofNat xs.length)

/-- Figures over all tests and over the latest ones. -/
structure Statistics where
  speedTests : Int64
  throughputTests : Int64
  activeHosts : Nat
  meanDownloadMbps : Option Float
  meanUploadMbps : Option Float

/-- The figures of numbers of tests and hosts, and the latest speed tests. -/
def Statistics.of (speedTests throughputTests : Int64) (activeHosts : Nat)
    (recent : List Speed.Test) : Statistics :=
  ⟨speedTests, throughputTests, activeHosts, mean? (recent.map (·.downloadMbps)),
    mean? (recent.map (·.uploadMbps))⟩

def Statistics.toJson (s : Statistics) : Json :=
  .object
    [ ("total_speed_tests", .int64 s.speedTests),
      ("total_throughput_tests", .int64 s.throughputTests),
      ("active_hosts", .nat s.activeHosts),
      ("avg_download_mbps", .ofOption .real s.meanDownloadMbps),
      ("avg_upload_mbps", .ofOption .real s.meanUploadMbps) ]

/-- What the dashboard shows. -/
structure Dashboard where
  recentSpeed : List Speed.Test
  recentThroughput : List Throughput.Test
  slowestSpeed : List Speed.Test
  slowestThroughput : List Throughput.Test
  hosts : List Host
  statistics : Statistics

def Dashboard.toJson (d : Dashboard) : Json :=
  .object
    [ ("recent_speed_tests", .list (d.recentSpeed.map Speed.Test.toJson)),
      ("recent_throughput_tests", .list (d.recentThroughput.map Throughput.Test.toJson)),
      ("slowest_speed_tests", .list (d.slowestSpeed.map Speed.Test.toJson)),
      ("slowest_throughput_tests", .list (d.slowestThroughput.map Throughput.Test.toJson)),
      ("active_hosts", .list (d.hosts.map Host.toJson)),
      ("statistics", d.statistics.toJson) ]

end LinkGauge.Service
