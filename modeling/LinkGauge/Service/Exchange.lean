import LinkGauge.Delivery.Remote
import LinkGauge.Service.Respond
import LinkGauge.Web.Exchange

/-!
# The service at the other end of an exchange

A call is turned into the request that arrives at a service, and the response into the reply that
comes back. Nothing stands between the two: no call is sent elsewhere and none is lost.
-/

namespace LinkGauge

/-- The request that a call arrives as. A body says that it is JSON. -/
def Web.Call.request (c : Web.Call) : Web.Request :=
  ⟨c.method, c.url.target, c.body.map fun _ => "application/json", c.content⟩

/-- The reply that a response comes back as. A service names no charset but
UTF-8. -/
def Web.Response.reply (r : Web.Response) : Web.Reply :=
  .response r.status none (.ok ⟨r.contentType, r.body.bytes, none⟩)

namespace Service

def answer (rig : Rig) (c : Web.Call) : Plan Serving Web.Reply :=
  (respond rig c.request).bind fun response => .done response.reply

/-- The API of the service lies under the address of a remote place. -/
def LiesUnder (r : Settings.Remote) : Prop :=
  (r.endpoint.scheme = "http" ∨ r.endpoint.scheme = "https") ∧
    r.base.path = .segments ["api", "v1", ""]

end Service

end LinkGauge
