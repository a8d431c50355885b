import LinkGauge.Proofs.Delivery.Addresses
import LinkGauge.Proofs.Delivery.Documents
import LinkGauge.Proofs.Plans
import LinkGauge.Service.Exchange

/-!
# Requests of those who deliver

Where the calls of delivery to a service arrive, and what the service does about them.
-/

namespace LinkGauge

open Json (spelled)

/-! ### Calls -/

namespace Service

/-- The address of a resource of the service. -/
def resource (r : Settings.Remote) (names : List String) : Url :=
  { r.base with path := .segments ("api" :: "v1" :: names), query := none, fragment := none }

lemma scheme_base (r : Settings.Remote) : r.base.scheme = r.endpoint.scheme := rfl

/-- Each resource has its place under the address of the service. -/
lemma place_resource {r : Settings.Remote} (lies : LiesUnder r) (q : Delivery.Question) :
    r.place q.resource = .ok (resource r q.names) := by
  have special : Url.isSpecialScheme r.endpoint.scheme = true := by
    rcases lies.1 with scheme | scheme <;> rw [scheme] <;> decide
  have base : r.base.path = .segments (["api", "v1"] ++ [""]) := lies.2
  exact Delivery.place_resource special base q

/-- The service answers a call itself: it sends nobody elsewhere. -/
lemma translate_attempt (rig : Rig) {c : Web.Call}
    (carried : c.url.scheme = "http" ∨ c.url.scheme = "https")
    (next : Web.Call → Plan Web.Exchange Web.Reply) :
    (Web.attempt c next).translate (answer rig) =
      (respond rig c.request).bind fun response => .done response.reply := by
  rw [Web.attempt, if_pos carried]
  exact Plan.bind_assoc (respond rig c.request) _ _

/-- A call to a service is the service's response, as it is received. -/
lemma translate_call {α : Type} {r : Settings.Remote} (lies : LiesUnder r) (rig : Rig)
    (d : Decoder α) {path : String} {url : Url} (place : r.place path = .ok url)
    (make : Url → Web.Call) (scheme : (make url).url.scheme = r.base.scheme) :
    (Delivery.call r d path make).translate (answer rig) =
      (respond rig (make url).request).bind fun response =>
        .done (Delivery.receive r d response.reply) := by
  have carried : (make url).url.scheme = "http" ∨ (make url).url.scheme = "https" := by
    rw [scheme, scheme_base]
    exact lies.1
  have sent : Delivery.call r d path make =
      (Web.attempt (make url) (Web.follow 9)).bind fun reply =>
        .done (Delivery.receive r d reply) := by
    rw [Delivery.call, place]
    rfl
  calc (Delivery.call r d path make).translate (answer rig)
      = ((Web.attempt (make url) (Web.follow 9)).translate (answer rig)).bind fun reply =>
          .done (Delivery.receive r d reply) := by
        rw [sent]
        exact Plan.translate_bind _ _ _
    _ = ((respond rig (make url).request).bind fun response => .done response.reply).bind
          fun reply => .done (Delivery.receive r d reply) := by
        rw [translate_attempt rig carried]
    _ = (respond rig (make url).request).bind fun response =>
          .done (Delivery.receive r d response.reply) := Plan.bind_assoc _ _ _

/-! ### Requests -/

variable (rig : Rig)

/-- The hosts that may be measured are listed from the store. -/
lemma respond_hosts (contentType : Option String) (body : Json.Bytes) :
    respond rig ⟨"GET", "/api/v1/hosts?active=true", contentType, body⟩ =
      report 200 (listJson Host.toJson) (stored (Delivery.direct .hosts)) := by
  have path : ("/api/v1/hosts?active=true".toList.takeWhile (· != '#')).takeWhile (· != '?') =
      "/api/v1/hosts".toList := by simp
  have query : (("/api/v1/hosts?active=true".toList.takeWhile (· != '#')).dropWhile
      (· != '?')).drop 1 = "active=true".toList := by simp
  have found : Resource.ofPath? "/api/v1/hosts" = some .hosts := by decide
  have method : Method.ofName? "GET" = some .get := by decide
  have asked : HostsQuery.decoder (queryNode "active=true") = .ok ⟨some true, none⟩ := by rfl
  rw [respond, Web.Request.path, Web.Request.resource, path, String.ofList_toList, found, method]
  simp only [respondTo, listHosts, readQuery, Web.Request.query, Web.Request.resource, query,
    String.ofList_toList, asked, mapError_ok, orComplain]
  rfl

/-- A body that says it is JSON and is not too long is read. -/
lemma readBody_render {α : Type} {d : Decoder α} (method target : String) {j : Json} {a : α}
    (short : (Utf8.encode j.render).length ≤ maxBody) (deep : Json.nesting j ≤ Json.maxDepth)
    (value : d (spelled j) = .ok a) :
    readBody d ⟨method, target, some "application/json", Utf8.encode j.render⟩ = .ok a := by
  have json : (("application/json" : String) |> Web.MediaType.parse?).any Web.MediaType.isJson := by
    decide
  have type : ((some "application/json").bind Web.MediaType.parse?).any Web.MediaType.isJson :=
    json
  simp only [readBody, type, Bool.not_true, Bool.false_eq_true, if_false,
    if_neg (Nat.not_lt.mpr short), Json.read_render d j deep, value, mapError_ok]

/-- A posted speed test is checked and stored. -/
lemma respond_speed {s : Speed.Submission} (back : ∀ x ∈ s.reals, Json.ReadsBack x)
    (short : (Utf8.encode s.toJson.render).length ≤ maxBody) :
    respond rig ⟨"POST", "/api/v1/speedtest/results", some "application/json",
        Utf8.encode s.toJson.render⟩ =
      report 201 Speed.Test.toJson (stored (Store.keepSpeed s)) := by
  have path : ("/api/v1/speedtest/results".toList.takeWhile (· != '#')).takeWhile (· != '?') =
      "/api/v1/speedtest/results".toList := by simp
  have found : Resource.ofPath? "/api/v1/speedtest/results" = some .speedTests := by decide
  have method : Method.ofName? "POST" = some .post := by decide
  have deep : Json.nesting s.toJson ≤ Json.maxDepth := by
    rw [s.nesting_toJson]
    decide
  have body := readBody_render "POST" "/api/v1/speedtest/results" short deep
    (Speed.Submission.decode_toJson back)
  rw [respond, Web.Request.path, Web.Request.resource, path, String.ofList_toList, found, method]
  simp only [respondTo, submitSpeed, body, orComplain]

/-- A posted throughput test is checked and stored. -/
lemma respond_throughput {s : Throughput.Submission} (back : ∀ x ∈ s.reals, Json.ReadsBack x)
    (short : (Utf8.encode s.toJson.render).length ≤ maxBody) :
    respond rig ⟨"POST", "/api/v1/iperf/results", some "application/json",
        Utf8.encode s.toJson.render⟩ =
      report 201 Throughput.Test.toJson (stored (Store.keepThroughput s)) := by
  have path : ("/api/v1/iperf/results".toList.takeWhile (· != '#')).takeWhile (· != '?') =
      "/api/v1/iperf/results".toList := by simp
  have found : Resource.ofPath? "/api/v1/iperf/results" = some .throughputTests := by decide
  have method : Method.ofName? "POST" = some .post := by decide
  have deep : Json.nesting s.toJson ≤ Json.maxDepth := by
    rw [s.nesting_toJson]
    decide
  have body := readBody_render "POST" "/api/v1/iperf/results" short deep
    (Throughput.Submission.decode_toJson back)
  rw [respond, Web.Request.path, Web.Request.resource, path, String.ofList_toList, found, method]
  simp only [respondTo, submitThroughput, body, orComplain]

end Service

end LinkGauge
