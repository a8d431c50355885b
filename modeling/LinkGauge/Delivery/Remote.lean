import LinkGauge.Delivery.Basic
import LinkGauge.Json.Reading
import LinkGauge.Settings.Basic
import LinkGauge.Web.Exchange

/-!
# Delivery to a remote service

Results are posted to a service, which answers with what it stored. Of that only the number counts.
A result counts as taken only if the last answer is a success with a number in it.
-/

namespace LinkGauge

/-! ### Addresses -/

namespace Settings.Remote

/-- The address under which everything else lies. -/
def base (r : Remote) : Url := r.endpoint.withSlash

/-- The address of a resource. -/
def place (r : Remote) (path : String) : Except Problem Url :=
  (r.base.join path).mapError fun fault =>
    .other ("Failed to construct submission URL for " ++ path ++ ": " ++ fault.message) []

/-- The problem of not getting through. -/
def unreachable (r : Remote) (causes : List String) : Problem :=
  .unreachable r.base.text causes

end Settings.Remote

/-! ### Calls -/

namespace Delivery

open Settings (Remote)

def isSuccess (status : Nat) : Bool := 200 ≤ status && status < 300

/-- What a reply has to say. -/
def receive {α : Type} (r : Remote) (d : Decoder α) : Web.Reply → Except Problem α
  | .unreached causes => .error (r.unreachable causes)
  | .response status _ body =>
    if isSuccess status then
      match body with
      | .error causes => .error (r.unreachable causes)
      | .ok body =>
        (Json.read d (Utf8.encode body.text)).mapError fun failure =>
          .other ("error decoding submission API response: " ++ failure.cause.jsonMessage) []
    else
      .error (.rejected status
        (match body with
          | .error _ => ""
          | .ok body => body.text))

/-- Make a call to a resource and read the reply. -/
def call {α : Type} (r : Remote) (d : Decoder α) (path : String) (make : Url → Web.Call) :
    Plan Web.Exchange (Except Problem α) :=
  match r.place path with
  | .error p => .done (.error p)
  | .ok url => (Web.send (make url)).bind fun reply => .done (receive r d reply)

/-- The number in what a service stored. -/
def number : Decoder Int64 := Layout.decoder (.required "id" Decoder.int64) "Created" false

def post (r : Remote) (path : String) (body : Json) : Plan Web.Exchange (Except Problem Int64) :=
  call r number path fun url => ⟨"POST", url, some body, r.timeout⟩

/-- Delivery to a remote service. -/
def remote (r : Remote) : (q : Delivery.Question) → Plan Web.Exchange (Delivery.Answer q)
  | .hosts =>
    call r (Decoder.list Host.decoder) "hosts" fun url =>
      ⟨"GET", { url with query := some "active=true" }, none, r.timeout⟩
  | .speed s => post r "speedtest/results" s.toJson
  | .throughput s => post r "iperf/results" s.toJson

end Delivery

end LinkGauge
