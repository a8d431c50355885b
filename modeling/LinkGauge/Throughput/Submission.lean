import LinkGauge.Measurement.Rules
import LinkGauge.Throughput.Reading
import LinkGauge.Time.Json

/-!
# Throughput submissions

A submission is what is sent to the service; a record is what is stored of it. A test succeeded
only if it moved data. What is stored of a failed test is why it failed, and nothing measured.
-/

namespace LinkGauge.Throughput

/-- The outcome of a throughput test against a host, as it is sent. -/
structure Submission where
  timestamp : Instant
  hostId : Int64
  sentMbps : Float
  receivedMbps : Float
  retransmits : Option Float
  meanRttMs : Option Float
  durationSeconds : Int32
  transport : Transport
  /-- What the sender says of the outcome, if anything. -/
  success : Option Bool
  error : Option String
  daemon : String

namespace Submission

/-- A test that ended with a reading. -/
def ofReading (r : Reading) (hostId : Int64) (durationSeconds : Int32) (daemon : DaemonId)
    (now : Instant) : Submission :=
  { timestamp := now, hostId, sentMbps := r.sentMbps, receivedMbps := r.receivedMbps,
    retransmits := r.retransmits, meanRttMs := r.meanRttMs, durationSeconds,
    transport := r.transport, success := some true, error := none, daemon := daemon.text }

/-- A test that came to nothing because of a problem. -/
def failed (hostId : Int64) (durationSeconds : Int32) (problem : Problem) (daemon : DaemonId)
    (now : Instant) : Submission :=
  { timestamp := now, hostId, sentMbps := 0, receivedMbps := 0, retransmits := none,
    meanRttMs := none, durationSeconds, transport := .tcp, success := some false,
    error := some problem.detail, daemon := daemon.text }

/-- The submission as it is sent. What is absent is left out. -/
def toJson (s : Submission) : Json :=
  .object
    ([ ("timestamp", s.timestamp.toJson),
       ("host_id", .int64 s.hostId),
       ("sent_mbps", .real s.sentMbps),
       ("received_mbps", .real s.receivedMbps) ] ++
     Json.memberIf "retransmits" .real s.retransmits ++
     Json.memberIf "mean_rtt_ms" .real s.meanRttMs ++
     [ ("duration_seconds", .int32 s.durationSeconds),
       ("protocol", s.transport.toJson) ] ++
     Json.memberIf "success" .bool s.success ++
     Json.memberIf "error_message" .text s.error ++
     [("daemon_id", .text s.daemon)])

def layout : Layout Submission :=
  Submission.mk <$> .required "timestamp" Decoder.instant
    <*> .required "host_id" Decoder.int64
    <*> .required "sent_mbps" Decoder.float
    <*> .required "received_mbps" Decoder.float
    <*> .defaulted "retransmits" (Decoder.option Decoder.float) none
    <*> .defaulted "mean_rtt_ms" (Decoder.option Decoder.float) none
    <*> .required "duration_seconds" Decoder.int32
    <*> .defaulted "protocol" Transport.decoder .tcp
    <*> .defaulted "success" (Decoder.option Decoder.bool) none
    <*> .defaulted "error_message" (Decoder.option Decoder.string) none
    <*> .required "daemon_id" Decoder.string

def decoder : Decoder Submission := layout.decoder "ThroughputTestSubmission" false

/-- Data went in at least one direction. -/
def movedData (s : Submission) : Bool := 0 < s.sentMbps || 0 < s.receivedMbps

/-- The outcome as it will be stored. -/
def isSuccess (s : Submission) : Bool := s.success.getD true && s.movedData

/-- Whether the submission may be stored. -/
def check (s : Submission) : Except Problem Unit := do
  requireDaemon s.daemon
  requireBandwidth "sent_mbps" s.sentMbps
  requireBandwidth "received_mbps" s.receivedMbps
  if 0 < s.durationSeconds then .ok ()
  else .error (.badRequest "duration_seconds must be positive")

end Submission

/-- A throughput test as it is stored. -/
structure Record where
  timestamp : Instant
  hostId : Int64
  sentMbps : Float
  receivedMbps : Float
  retransmits : Option Float
  meanRttMs : Option Float
  durationSeconds : Int32
  transport : Transport
  success : Bool
  error : Option String
  daemon : String

namespace Record

/-- A failed test. A reason of blanks only is no reason. -/
def failed (hostId : Int64) (durationSeconds : Int32) (error daemon : String) (now : Instant) :
    Record :=
  { timestamp := now, hostId, sentMbps := 0, receivedMbps := 0, retransmits := none,
    meanRttMs := none, durationSeconds, transport := .tcp, success := false,
    error := some (if isBlank error then "throughput test failed" else error), daemon }

/-- What is stored of a submission. -/
def ofSubmission (s : Submission) : Record :=
  if s.isSuccess then
    { timestamp := s.timestamp, hostId := s.hostId, sentMbps := s.sentMbps,
      receivedMbps := s.receivedMbps, retransmits := s.retransmits, meanRttMs := s.meanRttMs,
      durationSeconds := s.durationSeconds, transport := s.transport, success := true,
      error := none, daemon := s.daemon }
  else
    { failed s.hostId s.durationSeconds (s.error.getD "no data transferred") s.daemon s.timestamp
        with transport := s.transport }

end Record

/-- A stored throughput test. Its host may have been deleted since. -/
structure Test where
  id : Int64
  timestamp : Instant
  sentMbps : Float
  receivedMbps : Float
  retransmits : Option Float
  meanRttMs : Option Float
  durationSeconds : Int32
  transport : Transport
  success : Bool
  error : Option String
  daemon : String
  hostId : Option Int64

/-- The stored test as it is shown. -/
def Test.toJson (t : Test) : Json :=
  .object
    [ ("id", .int64 t.id),
      ("timestamp", t.timestamp.toJson),
      ("sent_mbps", .real t.sentMbps),
      ("received_mbps", .real t.receivedMbps),
      ("retransmits", .ofOption .real t.retransmits),
      ("mean_rtt_ms", .ofOption .real t.meanRttMs),
      ("duration_seconds", .int32 t.durationSeconds),
      ("protocol", t.transport.toJson),
      ("success", .bool t.success),
      ("error_message", .ofOption .text t.error),
      ("daemon_id", .text t.daemon),
      ("host_id", .ofOption .int64 t.hostId) ]

end LinkGauge.Throughput
