import LinkGauge.Json.Value
import LinkGauge.Document.Decoder

/-!
# Categories of hosts

The network a host is reached through. A round of throughput tests visits the categories in a
fixed order.
-/

namespace LinkGauge

/-- The network a host is reached through. -/
inductive Category where
  | lan
  | vpn
  | remote
  deriving DecidableEq, Repr

namespace Category

/-- The categories in the order in which a round visits them. -/
def all : List Category := [.lan, .vpn, .remote]

def name : Category → String
  | .lan => "lan"
  | .vpn => "vpn"
  | .remote => "remote"

def named : List (String × Category) := all.map fun c => (c.name, c)

def ofName? (s : String) : Option Category := named.lookup s

@[simp] theorem ofName?_name (c : Category) : ofName? c.name = some c := by
  cases c <;> rfl

theorem mem_all (c : Category) : c ∈ all := by
  cases c <;> decide

def toJson (c : Category) : Json := .text c.name

def decoder : Decoder Category := Decoder.variant named

end Category

end LinkGauge
