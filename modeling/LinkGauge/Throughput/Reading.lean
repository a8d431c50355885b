import LinkGauge.Daemon.Identity
import LinkGauge.Json.Reading
import LinkGauge.Measurement.Bandwidth
import LinkGauge.Measurement.Transport
import LinkGauge.Problem

/-!
# Readings of the throughput tool

The throughput tool writes one JSON object, also when it fails: then the object says why.
-/

namespace LinkGauge.Throughput

/-- What one run of the throughput tool measured. -/
structure Reading where
  sentMbps : Float
  receivedMbps : Float
  retransmits : Option Float
  /-- The mean round trip, if the run had a stream that told it. -/
  meanRttMs : Option Float
  transport : Transport

def Reading.toJson (r : Reading) : Json :=
  .object
    [ ("sent_mbps", .real r.sentMbps),
      ("received_mbps", .real r.receivedMbps),
      ("retransmits", .ofOption .real r.retransmits),
      ("mean_rtt_ms", .ofOption .real r.meanRttMs),
      ("protocol", r.transport.toJson) ]

/-! ### The output of the tool -/

/-- The protocol, by the tool's name for it. -/
def testStart : Decoder (Option String) :=
  Layout.decoder (.defaulted "protocol" (Decoder.option Decoder.string) none) "TestStart" false

def start : Decoder (Option String) :=
  Layout.decoder (.defaulted "test_start" testStart none) "Start" false

/-- The total of one direction. -/
structure Total where
  bitsPerSecond : Float
  retransmits : Option Float

def Total.decoder : Decoder Total :=
  Layout.decoder
    (Total.mk <$> .required "bits_per_second" Decoder.float
      <*> .optional "retransmits" Decoder.float)
    "Sum" false

/-- The mean round trip of the sender, in microseconds. -/
def sender : Decoder (Option Float) :=
  Layout.decoder (.defaulted "mean_rtt" (Decoder.option Decoder.float) none) "Sender" false

def stream : Decoder (Option Float) :=
  Layout.decoder (.defaulted "sender" sender none) "Stream" false

/-- What the tool sums up when a run is over. -/
structure Summary where
  sent : Option Total
  received : Option Total
  /-- The mean round trip of each stream. -/
  meanRtts : List (Option Float)

def Summary.decoder : Decoder Summary :=
  Layout.decoder
    (Summary.mk <$> .defaulted "sum_sent" (Decoder.option Total.decoder) none
      <*> .defaulted "sum_received" (Decoder.option Total.decoder) none
      <*> .defaulted "streams" (Decoder.list stream) [])
    "End" false

/-- The output of the tool, as far as it is looked at. -/
structure Output where
  protocol : Option String
  summary : Summary
  error : Option String

namespace Output

def layout : Layout Output :=
  Output.mk <$> .defaulted "start" start none
    <*> .defaulted "end" Summary.decoder ⟨none, none, []⟩
    <*> .optional "error" Decoder.string

def decoder : Decoder Output := layout.decoder "IperfOutput" false

end Output

/-! ### Reading the output -/

/-- The name of the tool in messages. -/
def tool : String := "iperf3"

/-- What the output says, or what keeps it from saying anything. -/
def Output.reading (o : Output) : Except String Reading :=
  match o.error.filter (· ≠ "") with
  | some error => .error error
  | none =>
    match o.summary.sent, o.summary.received with
    | some sent, some received =>
      .ok
        { sentMbps := bitsToMegabits sent.bitsPerSecond
          receivedMbps := bitsToMegabits received.bitsPerSecond
          retransmits := sent.retransmits
          meanRttMs := o.summary.meanRtts.head?.join.map (· / 1000)
          transport := (o.protocol.map Transport.ofTool).getD .tcp }
    | _, _ => .error "missing end.sum_sent or end.sum_received"

/-- Read the output of the throughput tool. -/
def read (raw : Json.Bytes) : Except Problem Reading :=
  match Json.read Output.decoder raw with
  | .ok output => output.reading.mapError fun reason => .unreadable tool reason raw
  | .error failure => .error (.unreadable tool failure.cause.jsonMessage raw)

end LinkGauge.Throughput
