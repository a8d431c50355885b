import LinkGauge.Json.Value
import LinkGauge.Document.Decoder
import LinkGauge.Time.Timestamp
import LinkGauge.Time.Spelled

/-!
# Times in documents

Instants and spans stand in documents as texts.
-/

namespace LinkGauge

/-- An instant as a value of a document. -/
def Instant.toJson (t : Instant) : Json := .text t.render

/-- An instant from a timestamp. -/
def Decoder.instant : Decoder Instant :=
  Decoder.parsed "an RFC 3339 formatted date and time string" fun s =>
    (Timestamp.read s).mapError fun fault => .refused fault.message

/-- A span as a value of a document. -/
def Span.toJson (s : Span) : Json := .text s.spelled

/-- A span in units. -/
def Decoder.span : Decoder Span :=
  Decoder.parsed "a duration" fun s =>
    match Span.read? s with
    | some span => .ok span
    | none => .error (.wrongValue (.text s) "a duration")

end LinkGauge
