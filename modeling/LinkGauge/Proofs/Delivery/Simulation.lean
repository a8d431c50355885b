import LinkGauge.Proofs.Delivery.Replies
import LinkGauge.Proofs.Service.Requests

/-!
# Delivery to a service is delivery into its store

Results that are posted to a service end up in its store exactly as if they had been put there
directly, and the poster learns the same, but for errors: of those only a status and what clients
may be told comes back.
-/

namespace LinkGauge

/-! ### What is seen from afar -/

namespace Delivery

/-- A result as it is seen through a service: of a problem only its status and its public message
are left. -/
def seen {α : Type} : Except Problem α → Except Problem α
  | .ok a => .ok a
  | .error p => .error (.rejected p.status p.publicMessage)

/-- The answer to a question as it is seen through a service. -/
def seenAnswer : (q : Delivery.Question) → Delivery.Answer q → Delivery.Answer q
  | .hosts => seen
  | .speed _ => seen
  | .throughput _ => seen

/-- Doubles and their text, as a submission needs them: the doubles are finite, and what is written
of a finite double is read as that double. -/
def Exact (xs : List Float) : Prop :=
  (∀ x ∈ xs, x.isFinite) ∧ ∀ x ∈ xs, x.isFinite → Json.ReadsBack x

lemma Exact.readsBack {xs : List Float} (h : Exact xs) : ∀ x ∈ xs, Json.ReadsBack x :=
  fun x mem => h.2 x mem (h.1 x mem)

/-- A body that a service reads. -/
def Short (j : Json) : Prop := (Utf8.encode j.render).length ≤ Service.maxBody

/-- What can be delivered to a service. -/
def Deliverable : Delivery.Question → Prop
  | .hosts => True
  | .speed s => Exact s.reals ∧ Short s.toJson
  | .throughput s => Exact s.reals ∧ Short s.toJson

end Delivery

namespace Service

open Delivery (seen seenAnswer Deliverable)

/-- A report is received as the result that it reports. -/
lemma receive_report {α β : Type} {r : Settings.Remote} {d : Decoder β} {status : ℕ}
    {toJson : α → Json} {f : α → β} {p : Plan Serving (Except Problem α)}
    (plain : p.Yields Delivery.Plain)
    (value : ∀ a, Delivery.receive r d (Web.Response.json status (toJson a)).reply = .ok (f a)) :
    (report status toJson p).bind (fun response => .done (Delivery.receive r d response.reply)) =
      p.bind fun a => .done (seen (a.map f)) := by
  rw [report, Plan.bind_assoc]
  apply Plan.bind_congr plain
  intro a told
  cases a with
  | ok a =>
    change Plan.done _ = Plan.done _
    rw [value]
    rfl
  | error p =>
    change Plan.done _ = Plan.done _
    rw [Delivery.receive_ofProblem r d p.isSuccess_status (told p rfl)]
    rfl

/-- A stored test is answered with a document in which its number is found. -/
lemma receive_test {r : Settings.Remote} {j : Json} {members : List (String × Json)}
    (object : j = .object members) (flat : Json.nesting j = 1) {n : Int64}
    (number : Delivery.number j.spelled = .ok n) :
    Delivery.receive r Delivery.number (Web.Response.json 201 j).reply = .ok n := by
  apply Delivery.receive_json r _ (by decide)
  · rw [object]
    exact Delivery.unmarked_object members
  · exact Nat.le_trans flat.le (by decide)
  · exact number

/-- A plan over the database has the same results for the service. -/
lemma yields_stored {α : Type} {P : α → Prop} {p : Plan Store.Access α} (h : p.Yields P) :
    (stored p).Yields P := h.translate _

variable {r : Settings.Remote} (lies : LiesUnder r) (rig : Rig)

include lies

/-- A call to which the service reports what comes of its store is that, as it is seen through the
service. -/
lemma translate_reported {α β : Type} {d : Decoder β} {path : String} {url : Url}
    (place : r.place path = .ok url) (make : Url → Web.Call)
    (scheme : (make url).url.scheme = r.base.scheme) {status : ℕ} {toJson : α → Json} {f : α → β}
    {p : Plan Store.Access (Except Problem α)}
    (response : respond rig (make url).request = report status toJson (stored p))
    (plain : p.Yields Delivery.Plain)
    (value : ∀ a, Delivery.receive r d (Web.Response.json status (toJson a)).reply = .ok (f a)) :
    (Delivery.call r d path make).translate (answer rig) =
      (stored p).bind fun a => .done (seen (a.map f)) := by
  rw [translate_call lies rig d place make scheme, response]
  exact receive_report (yields_stored plain) value

/-- The hosts of a service are those of its store. -/
lemma translate_hosts :
    (Delivery.remote r .hosts).translate (answer rig) =
      (stored (Delivery.direct .hosts)).bind fun a => .done (seen a) := by
  have received (hosts : List Host) : Delivery.receive r (Decoder.list Host.decoder)
      (Web.Response.json 200 (listJson Host.toJson hosts)).reply = .ok hosts := by
    apply Delivery.receive_json r _ (by decide) (Delivery.unmarked_list _)
    · exact Nat.le_trans (Json.nesting_list_map (fun h => h.nesting_toJson.le) hosts) (by decide)
    · exact Json.decode_list fun h _ => h.decode_toJson
  have reported := translate_reported (f := id) lies rig (place_resource lies .hosts)
    (fun url => ⟨"GET", { url with query := some "active=true" }, none, r.timeout⟩) rfl
    (respond_hosts rig none []) Delivery.yields_hosts received
  refine reported.trans ?_
  congr 1
  funext a
  cases a <;> rfl

/-- A speed test that is posted to a service is kept in its store. -/
lemma translate_speed {s : Speed.Submission} (exact : Delivery.Exact s.reals)
    (short : Delivery.Short s.toJson) :
    (Delivery.remote r (.speed s)).translate (answer rig) =
      (stored (Delivery.direct (.speed s))).bind fun a => .done (seen a) := by
  have reported := translate_reported lies rig (place_resource lies (.speed s))
    (fun url => ⟨"POST", url, some s.toJson, r.timeout⟩) rfl
    (respond_speed rig exact.readsBack short) (Delivery.yields_keepSpeed s)
    fun t => receive_test rfl t.nesting_toJson t.number_toJson
  refine reported.trans ?_
  rw [Delivery.direct, stored, stored, Plan.translate_bind, Plan.bind_assoc]
  rfl

/-- A throughput test that is posted to a service is kept in its store. -/
lemma translate_throughput {s : Throughput.Submission} (exact : Delivery.Exact s.reals)
    (short : Delivery.Short s.toJson) :
    (Delivery.remote r (.throughput s)).translate (answer rig) =
      (stored (Delivery.direct (.throughput s))).bind fun a => .done (seen a) := by
  have reported := translate_reported lies rig (place_resource lies (.throughput s))
    (fun url => ⟨"POST", url, some s.toJson, r.timeout⟩) rfl
    (respond_throughput rig exact.readsBack short) (Delivery.yields_keepThroughput s)
    fun t => receive_test rfl t.nesting_toJson t.number_toJson
  refine reported.trans ?_
  rw [Delivery.direct, stored, stored, Plan.translate_bind, Plan.bind_assoc]
  rfl

/-- Delivery to a service asks the same of the database behind it, step for step, as delivery into
that database does. The result is the same as it is seen through a service. -/
lemma translate_remote {q : Delivery.Question} (deliverable : Deliverable q) :
    (Delivery.remote r q).translate (answer rig) =
      (stored (Delivery.direct q)).bind fun a => .done (seenAnswer q a) := by
  cases q with
  | hosts => exact translate_hosts lies rig
  | speed s => exact translate_speed lies rig deliverable.1 deliverable.2
  | throughput s => exact translate_throughput lies rig deliverable.1 deliverable.2

/-- Delivery to a service and delivery into its database are the same plan over the database, up to
how results are seen. In every world, whatever it answers and whatever it records of what it is
asked, both leave the world in the same state. -/
theorem remote_simulates_direct {q : Delivery.Question} (deliverable : Deliverable q) :
    (Delivery.remote r q).translate (answer rig) =
        (stored (Delivery.direct q)).bind (fun a => .done (seenAnswer q a)) ∧
      ∀ {σ : Type} (world : (q : Serving.Question) → σ → Serving.Answer q × σ) (start : σ),
        ((Delivery.remote r q).translate (answer rig)).run world start =
          (seenAnswer q ((Delivery.direct q).run (fun q => world (.inr (.inr q))) start).1,
            ((Delivery.direct q).run (fun q => world (.inr (.inr q))) start).2) := by
  have same := translate_remote lies rig deliverable
  refine ⟨same, ?_⟩
  intro σ world start
  have asked : (stored (Delivery.direct q)).run world start =
      (Delivery.direct q).run (fun q => world (.inr (.inr q))) start :=
    Plan.run_translate_ask (J := Serving) (fun q => .inr (.inr q)) (fun _ a => a) world _ start
  rw [same, Plan.run_bind, asked]
  rfl

omit lies

/-- A service on the same machine. -/
def nearby : Settings.Remote where
  endpoint := ⟨"http", "", "", some "127.0.0.1", some 8080, .segments ["api", "v1"], none, none⟩
  timeout := Settings.seconds 10

/-- The rig of that service, with the usual settings. -/
def nearbyRig : Rig := ⟨.default, .default, ⟨"probe", 7⟩⟩

/-- A throughput test with an answer in quotes. -/
def measured : Throughput.Submission where
  timestamp := ⟨1700000000, 500000000, by decide⟩
  hostId := 3
  sentMbps := 93.75
  receivedMbps := 0
  retransmits := some 12
  meanRttMs := none
  durationSeconds := 10
  transport := .tcp
  success := some false
  error := some "the server said \"busy\""
  daemon := "daemon-probe-7"

theorem remote_simulates_direct_measured :
    LiesUnder nearby ∧ Deliverable (.throughput measured) ∧
      (Delivery.remote nearby (.throughput measured)).translate (answer nearbyRig) =
        (stored (Delivery.direct (.throughput measured))).bind fun a => .done (seen a) := by
  have lies : LiesUnder nearby := ⟨.inl rfl, by decide⟩
  have exact : Delivery.Exact measured.reals := by
    simp only [Delivery.Exact]
    decide +kernel
  have short : Delivery.Short measured.toJson := by
    rw [Delivery.Short, Json.render, Utf8.encode_ofList]
    decide +kernel
  have deliverable : Deliverable (.throughput measured) := ⟨exact, short⟩
  exact ⟨lies, deliverable, (remote_simulates_direct lies nearbyRig deliverable).1⟩

end Service

end LinkGauge
