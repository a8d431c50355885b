import LinkGauge.Delivery.Direct
import LinkGauge.Proofs.Json.Documents
import LinkGauge.Proofs.Plans
import LinkGauge.Proofs.Web.Contents
import LinkGauge.Service.Exchange

/-!
# Replies of a service

What is received of a response: the value that was answered, or the status and the message of the
problem. The messages that delivery into the store can lead to begin with a letter, so nothing of
them is taken for a mark of the byte order.
-/

namespace LinkGauge

open Json (spelled)

/-! ### Replies -/

namespace Delivery

open Web (Unmarked)

lemma unmarked_list (items : List Json) : Unmarked (Json.list items).chars := by
  intro c mem
  obtain rfl : '[' = c := Option.some.inj mem
  decide

lemma unmarked_object (members : List (String × Json)) : Unmarked (Json.object members).chars := by
  intro c mem
  obtain rfl : '\x7b' = c := Option.some.inj mem
  decide

variable {α : Type} (r : Settings.Remote) (d : Decoder α)

/-- A success with the text of a value is decoded, whatever charset the text came in. -/
lemma receive_text {status : ℕ} (success : isSuccess status) {content : Web.Content} {j : Json}
    (text : content.text = j.render) (deep : Json.nesting j ≤ Json.maxDepth) {a : α}
    (value : d (spelled j) = .ok a) (location : Option String) :
    receive r d (.response status location (.ok content)) = .ok a := by
  have body : Json.read d (Utf8.encode content.text) = .ok a := by
    rw [text, Json.read_render d j deep, value]
  simp only [receive, success, if_true, body, mapError_ok]

/-- A value that a service answers with is decoded. -/
lemma receive_json {status : ℕ} (success : isSuccess status) {j : Json}
    (unmarked : Unmarked j.chars) (deep : Json.nesting j ≤ Json.maxDepth) {a : α}
    (value : d (spelled j) = .ok a) :
    receive r d (Web.Response.json status j).reply = .ok a := by
  have starts : Unmarked j.render.toList := by rwa [Json.render, String.toList_ofList]
  have text : Web.Content.text ⟨some "application/json", Utf8.encode j.render, none⟩ = j.render :=
    Web.Content.text_encode _ (by decide) starts
  exact receive_text r d success text deep value none

/-- A problem that a service reports is told by its status and its public message. -/
lemma receive_ofProblem {p : Problem} (failure : isSuccess p.status = false)
    (unmarked : Unmarked p.publicMessage.toList) :
    receive r d (Web.Response.ofProblem p).reply = .error (.rejected p.status p.publicMessage) := by
  have text : Web.Content.text
      ⟨some "text/plain; charset=utf-8", Utf8.encode p.publicMessage, none⟩ = p.publicMessage :=
    Web.Content.text_encode _ (by decide) unmarked
  simp only [receive, Web.Response.reply, Web.Response.ofProblem, Web.Response.text, Web.Body.bytes,
    failure, text]
  rfl

end Delivery

/-! ### Problems -/

/-- No problem is reported as a success. -/
lemma Store.Problem.isSuccess_status (p : Store.Problem) : Delivery.isSuccess p.status = false := by
  cases p <;> rfl

lemma Problem.isSuccess_status (p : Problem) : Delivery.isSuccess p.status = false := by
  cases p with
  | notStored entity source => exact source.isSuccess_status
  | store source => exact source.isSuccess_status
  | _ => rfl

/-! ### Plain messages -/

namespace Delivery

open Web (Unmarked)

variable {α : Type}

/-- A problem, if there is one, is told in a text that begins with a letter. -/
def Plain (a : Except Problem α) : Prop := ∀ p, a = .error p → Unmarked p.publicMessage.toList

lemma plain_ok (a : α) : Plain (.ok a) := fun _ eq => nomatch eq

lemma plain_error {p : Problem} (h : Unmarked p.publicMessage.toList) :
    Plain (.error p : Except Problem α) := by
  intro q eq
  obtain rfl := Except.error.inj eq
  exact h

lemma unmarked_append {s : String} (t : String) (some : s.toList ≠ []) (h : Unmarked s.toList) :
    Unmarked (s ++ t).toList := by
  intro c mem
  rw [String.toList_append, List.head?_append_of_ne_nil _ some] at mem
  exact h c mem

/-- What the store says to clients. -/
lemma unmarked_store (p : Store.Problem) : Unmarked p.publicMessage.toList := by
  cases p <;> simp only [Store.Problem.publicMessage] <;> decide

lemma unmarked_throughputProblem (host : Int64) (p : Store.Problem) :
    Unmarked (Store.throughputProblem host p).publicMessage.toList := by
  cases p with
  | foreignKey v =>
    change Unmarked ("host " ++ toString host.toInt ++ " not found").toList
    rw [String.append_assoc]
    exact unmarked_append _ (by simp) (by decide)
  | _ => exact unmarked_store _

lemma plain_requireDaemon (daemon : String) : Plain (requireDaemon daemon) := by
  simp only [requireDaemon]
  split
  · exact plain_error (by decide)
  · exact plain_ok ()

lemma plain_requireBandwidth {field : String} (some : field.toList ≠ [])
    (h : Unmarked field.toList) (x : Float) : Plain (requireBandwidth field x) := by
  simp only [requireBandwidth]
  split
  · exact plain_error (unmarked_append _ some h)
  · exact plain_ok ()

lemma plain_bind {β : Type} {a : Except Problem α} {f : α → Except Problem β} (h : Plain a)
    (hf : ∀ b, Plain (f b)) : Plain (a >>= f) := by
  cases a with
  | ok a => exact hf a
  | error p => exact plain_error (h p rfl)

lemma plain_checkSpeed (s : Speed.Submission) : Plain s.check := by
  simp only [Speed.Submission.check]
  apply plain_bind (plain_requireDaemon s.daemon)
  intro _
  apply plain_bind (plain_requireBandwidth (by simp) (by decide) _)
  intro _
  apply plain_bind (plain_requireBandwidth (by simp) (by decide) _)
  intro _
  split
  · exact plain_ok ()
  · exact plain_error (by decide)

lemma plain_checkThroughput (s : Throughput.Submission) : Plain s.check := by
  simp only [Throughput.Submission.check]
  apply plain_bind (plain_requireDaemon s.daemon)
  intro _
  apply plain_bind (plain_requireBandwidth (by simp) (by decide) _)
  intro _
  apply plain_bind (plain_requireBandwidth (by simp) (by decide) _)
  intro _
  split
  · exact plain_ok ()
  · exact plain_error (by decide)

/-- Work over a connection has plain problems if the store's are told plainly. -/
lemma yields_withConnection (fail tell : Store.Problem → Problem)
    (hfail : ∀ p, Unmarked (fail p).publicMessage.toList)
    (htell : ∀ p, Unmarked (tell p).publicMessage.toList)
    (work : Plan Store.Access (Except Store.Problem α)) :
    (Store.withConnection fail (Store.telling tell work)).Yields Plain := by
  refine .ask ?_
  intro answer
  cases answer with
  | error p => exact .done (plain_error (hfail p))
  | ok _ =>
    apply (Plan.Yields.trivial work).bind
    intro a _
    cases a with
    | ok a => exact .done (plain_ok a)
    | error p => exact .done (plain_error (htell p))

lemma yields_keepSpeed (s : Speed.Submission) : (Store.keepSpeed s).Yields Plain := by
  simp only [Store.keepSpeed]
  cases h : s.check with
  | error p => exact .done (plain_error (plain_checkSpeed s p h))
  | ok _ =>
    exact yields_withConnection (.notStored "speed test") (.notStored "speed test") unmarked_store
      unmarked_store _

lemma yields_keepThroughput (s : Throughput.Submission) :
    (Store.keepThroughput s).Yields Plain := by
  simp only [Store.keepThroughput]
  cases h : s.check with
  | error p => exact .done (plain_error (plain_checkThroughput s p h))
  | ok _ =>
    exact yields_withConnection (.notStored "throughput test") _ unmarked_store
      (unmarked_throughputProblem s.hostId) _

lemma yields_hosts : (direct .hosts).Yields Plain :=
  yields_withConnection .store .store unmarked_store unmarked_store _

end Delivery

end LinkGauge
