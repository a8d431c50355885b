import LinkGauge.Document.Decoder
import LinkGauge.Json.Value

/-!
# Transport protocols

The protocol a throughput test ran over.
-/

namespace LinkGauge

/-- The protocol of a throughput test. -/
inductive Transport where
  | tcp
  | udp
  deriving DecidableEq, Repr

namespace Transport

def name : Transport → String
  | .tcp => "TCP"
  | .udp => "UDP"

def named : List (String × Transport) := [tcp, udp].map fun t => (t.name, t)

def ofName? (s : String) : Option Transport := named.lookup s

@[simp] theorem ofName?_name (t : Transport) : ofName? t.name = some t := by
  cases t <;> rfl

/-- The protocol that the tool names. The case of ASCII letters does not count, and what is not
UDP is TCP. -/
def ofTool (s : String) : Transport :=
  if s.toList.map Char.toLower = ['u', 'd', 'p'] then .udp else .tcp

def toJson (t : Transport) : Json := .text t.name

def decoder : Decoder Transport := Decoder.variant named

end Transport

end LinkGauge
