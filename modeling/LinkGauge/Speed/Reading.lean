import LinkGauge.Daemon.Identity
import LinkGauge.Json.Reading
import LinkGauge.Measurement.Bandwidth
import LinkGauge.Problem
import LinkGauge.Text.Blank
import LinkGauge.Time.Json

/-!
# Readings of the speed tool

The speed tool writes one JSON object. Bandwidths in both directions must be there; of the rest,
what is empty or zero is dropped.
-/

namespace LinkGauge.Speed

/-- What one run of the speed tool measured. -/
structure Reading where
  timestamp : Instant
  downloadMbps : Float
  uploadMbps : Float
  pingMs : Float
  jitterMs : Option Float
  serverName : Option String
  serverId : Option String
  isp : Option String
  externalIp : Option String
  resultUrl : Option String

namespace Reading

def toJson (r : Reading) : Json :=
  .object
    [ ("timestamp", r.timestamp.toJson),
      ("download_mbps", .real r.downloadMbps),
      ("upload_mbps", .real r.uploadMbps),
      ("ping_ms", .real r.pingMs),
      ("jitter_ms", .ofOption .real r.jitterMs),
      ("server_name", .ofOption .text r.serverName),
      ("server_id", .ofOption .text r.serverId),
      ("isp", .ofOption .text r.isp),
      ("external_ip", .ofOption .text r.externalIp),
      ("result_url", .ofOption .text r.resultUrl) ]

end Reading

/-! ### The output of the tool -/

/-- Round trips of the tool's probes. -/
structure Ping where
  jitter : Float
  latency : Float

def Ping.decoder : Decoder Ping :=
  Layout.decoder
    (Ping.mk <$> .defaulted "jitter" Decoder.float 0 <*> .defaulted "latency" Decoder.float 0)
    "Ping" false

/-- The bandwidth of one direction. -/
def transfer : Decoder Float :=
  Layout.decoder (.required "bandwidth" Decoder.float) "Transfer" false

/-- The address seen from outside. -/
def interface : Decoder (Option String) :=
  Layout.decoder (.defaulted "externalIp" (Decoder.option Decoder.string) none) "Interface" false

/-- The identity of a server, as the tool gives it: some versions put the number in quotes. -/
inductive ServerId where
  | number (n : Number)
  | text (s : String)
  | other

/-- An identity may be of any type. -/
def ServerId.decoder : Decoder ServerId := fun n =>
  match n.readFault? with
  | some fault => .error (.here (.malformed fault))
  | none =>
    match n with
    | .number n => .ok (.number n)
    | .text (.ok s) => .ok (.text s)
    | _ => .ok .other

/-- The server that was measured against. -/
structure Server where
  name : Option String
  id : Option ServerId

def Server.decoder : Decoder Server :=
  Layout.decoder
    (Server.mk <$> .defaulted "name" (Decoder.option Decoder.string) none
      <*> .defaulted "id" (Decoder.option ServerId.decoder) none)
    "Server" false

/-- The page that shows the result. -/
def resultLink : Decoder (Option String) :=
  Layout.decoder (.defaulted "url" (Decoder.option Decoder.string) none) "ResultLink" false

/-- The output of the tool, as far as it is looked at. -/
structure Output where
  timestamp : Option Instant
  ping : Ping
  download : Float
  upload : Float
  isp : Option String
  externalIp : Option String
  server : Server
  resultUrl : Option String

namespace Output

def layout : Layout Output :=
  Output.mk <$> .optional "timestamp" Decoder.instant
    <*> .defaulted "ping" Ping.decoder ⟨0, 0⟩
    <*> .required "download" transfer
    <*> .required "upload" transfer
    <*> .defaulted "isp" (Decoder.option Decoder.string) none
    <*> .defaulted "interface" interface none
    <*> .defaulted "server" Server.decoder ⟨none, none⟩
    <*> .defaulted "result" resultLink none

def decoder : Decoder Output := layout.decoder "SpeedtestOutput" false

end Output

/-! ### Reading the output -/

/-- A text, if there is more to it than blanks. -/
def meaningful (s : Option String) : Option String := s.filter fun s => !isBlank s

/-- A server's identity, if it is a number other than zero or a text. -/
def ServerId.meaningful : ServerId → Option String
  | .number n => if n.toFloat == 0 then none else some (String.ofList (Json.writeNumber n))
  | .text s => Speed.meaningful (some s)
  | .other => none

/-- The name of the tool in messages. -/
def tool : String := "speedtest"

/-- What the output of a run at the instant `now` says. -/
def Output.reading (o : Output) (unit : BandwidthUnit) (now : Instant) : Reading where
  timestamp := o.timestamp.getD now
  downloadMbps := unit.toMegabits o.download
  uploadMbps := unit.toMegabits o.upload
  pingMs := o.ping.latency
  jitterMs := if 0 < o.ping.jitter then some o.ping.jitter else none
  serverName := meaningful o.server.name
  serverId := o.server.id.bind ServerId.meaningful
  isp := meaningful o.isp
  externalIp := meaningful o.externalIp
  resultUrl := meaningful o.resultUrl

/-- Read the output of the speed tool. A reading without a timestamp is from `now`. -/
def read (raw : Json.Bytes) (unit : BandwidthUnit) (now : Instant) : Except Problem Reading :=
  match Json.read Output.decoder raw with
  | .ok output => .ok (output.reading unit now)
  | .error failure => .error (.unreadable tool failure.cause.jsonMessage raw)

end LinkGauge.Speed
