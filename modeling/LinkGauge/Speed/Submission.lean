import LinkGauge.Measurement.Rules
import LinkGauge.Speed.Reading

/-!
# Speed submissions

A reading with the name of the process that made it: what is sent to the service and what is
stored.
-/

namespace LinkGauge.Speed

/-- A reading and the process that made it. -/
structure Submission extends Reading where
  daemon : String

namespace Submission

def ofReading (r : Reading) (daemon : DaemonId) : Submission :=
  { r with daemon := daemon.text }

/-- The submission as it is sent. What is absent is left out. -/
def toJson (s : Submission) : Json :=
  .object
    ([ ("timestamp", s.timestamp.toJson),
       ("download_mbps", .real s.downloadMbps),
       ("upload_mbps", .real s.uploadMbps),
       ("ping_ms", .real s.pingMs) ] ++
     Json.memberIf "jitter_ms" .real s.jitterMs ++
     Json.memberIf "server_name" .text s.serverName ++
     Json.memberIf "server_id" .text s.serverId ++
     Json.memberIf "isp" .text s.isp ++
     Json.memberIf "external_ip" .text s.externalIp ++
     Json.memberIf "result_url" .text s.resultUrl ++
     [("daemon_id", .text s.daemon)])

def layout : Layout Submission :=
  (fun timestamp downloadMbps uploadMbps pingMs jitterMs serverName serverId isp externalIp
      resultUrl daemon =>
    { timestamp, downloadMbps, uploadMbps, pingMs, jitterMs, serverName, serverId, isp, externalIp,
      resultUrl, daemon })
    <$> .required "timestamp" Decoder.instant
    <*> .required "download_mbps" Decoder.float
    <*> .required "upload_mbps" Decoder.float
    <*> .required "ping_ms" Decoder.float
    <*> .defaulted "jitter_ms" (Decoder.option Decoder.float) none
    <*> .defaulted "server_name" (Decoder.option Decoder.string) none
    <*> .defaulted "server_id" (Decoder.option Decoder.string) none
    <*> .defaulted "isp" (Decoder.option Decoder.string) none
    <*> .defaulted "external_ip" (Decoder.option Decoder.string) none
    <*> .defaulted "result_url" (Decoder.option Decoder.string) none
    <*> .required "daemon_id" Decoder.string

def decoder : Decoder Submission := layout.decoder "SpeedTestSubmission" false

/-- Whether the submission may be stored. -/
def check (s : Submission) : Except Problem Unit := do
  requireDaemon s.daemon
  requireBandwidth "download_mbps" s.downloadMbps
  requireBandwidth "upload_mbps" s.uploadMbps
  if s.pingMs.isFinite then .ok () else .error (.badRequest "ping_ms must be a finite number")

end Submission

/-- A stored speed test. -/
structure Test extends Submission where
  id : Int64

/-- The stored test as it is shown. -/
def Test.toJson (t : Test) : Json :=
  .object
    [ ("id", .int64 t.id),
      ("timestamp", t.timestamp.toJson),
      ("download_mbps", .real t.downloadMbps),
      ("upload_mbps", .real t.uploadMbps),
      ("ping_ms", .real t.pingMs),
      ("jitter_ms", .ofOption .real t.jitterMs),
      ("server_name", .ofOption .text t.serverName),
      ("server_id", .ofOption .text t.serverId),
      ("isp", .ofOption .text t.isp),
      ("external_ip", .ofOption .text t.externalIp),
      ("result_url", .ofOption .text t.resultUrl),
      ("daemon_id", .text t.daemon) ]

end LinkGauge.Speed
