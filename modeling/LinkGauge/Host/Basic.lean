import LinkGauge.Host.Category
import LinkGauge.Document.Layout
import LinkGauge.Time.Json

/-!
# Hosts

The servers that throughput is measured against.
-/

namespace LinkGauge

/-- A server to measure against. -/
structure Host where
  id : Int64
  /-- A label for people. -/
  name : String
  /-- The host name or address that the tool is given. -/
  hostname : String
  port : Int32
  category : Category
  /-- Only active hosts are measured. -/
  active : Bool
  description : Option String
  createdAt : Instant
  updatedAt : Instant
  deriving DecidableEq

namespace Host

/-- The port that throughput servers listen on unless told otherwise. -/
def defaultPort : Int32 := 5201

def toJson (h : Host) : Json :=
  .object
    [ ("id", .int64 h.id),
      ("name", .text h.name),
      ("hostname", .text h.hostname),
      ("port", .int32 h.port),
      ("category", h.category.toJson),
      ("active", .bool h.active),
      ("description", .ofOption .text h.description),
      ("created_at", h.createdAt.toJson),
      ("updated_at", h.updatedAt.toJson) ]

def layout : Layout Host :=
  Host.mk <$> .required "id" Decoder.int64
    <*> .required "name" Decoder.string
    <*> .required "hostname" Decoder.string
    <*> .required "port" Decoder.int32
    <*> .required "category" Category.decoder
    <*> .required "active" Decoder.bool
    <*> .optional "description" Decoder.string
    <*> .required "created_at" Decoder.instant
    <*> .required "updated_at" Decoder.instant

def decoder : Decoder Host := layout.decoder "Host" false

end Host

end LinkGauge
