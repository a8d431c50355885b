import LinkGauge.Proofs.Delivery.Replies
import LinkGauge.Proofs.Service.Admission

/-!
# What the service writes

What is posted is inserted once, or not at all. What is deleted by its number is deleted once. A
speed run inserts nothing but the reading of a tool that was run before.
-/

namespace LinkGauge.Service

open Plan (Turn)
open Store (Statement Reply)

variable {rig : Rig} {r : Web.Request} {turns : List (Turn Serving)} {response : Web.Response}

/-! ### Turns -/

/-- A connection was asked for. -/
def connection (answer : Except Store.Problem Unit) : Turn Serving :=
  ⟨.inr (.inr .connect), answer⟩

/-- A statement was executed. -/
def execution (s : Statement) (reply : Reply) : Turn Serving := ⟨.inr (.inr (.execute s)), reply⟩

section Single

variable {α : Type} {s : Statement} {read : Reply → Except Store.Problem α}
  {fail tell : Store.Problem → Problem} {a : Except Problem α}

/-- A single statement: there is no connection, or the statement is executed once. -/
lemma single_of_ends
    (ends : (stored (Store.withConnection fail (Store.telling tell (Store.asking s read)))).Ends
      turns a) :
    (∃ p, turns = [connection (.error p)] ∧ a = .error (fail p)) ∨
      ∃ reply, turns = [connection (.ok ()), execution s reply] ∧
        a = (read reply).mapError tell := by
  obtain ⟨answer, rest, rfl, going⟩ := Plan.ends_ask.mp ends
  cases answer with
  | error p =>
    obtain ⟨rfl, rfl⟩ := Plan.ends_done.mp going
    exact .inl ⟨p, rfl, rfl⟩
  | ok _ =>
    obtain ⟨reply, none, rfl, done⟩ := Plan.ends_ask.mp going
    obtain ⟨rfl, rfl⟩ := Plan.ends_done.mp done
    exact .inr ⟨reply, rfl, rfl⟩

end Single

/-! ### Posting -/

/-- What can be posted: how it is read, which rule it must keep, how it is inserted, and how the row
that comes of it is read and shown. -/
structure Posting where
  Body : Type
  Stored : Type
  decoder : Decoder Body
  check : Body → Except Problem Unit
  insert : Body → Statement
  read : Store.Row → Except Store.Problem Stored
  toJson : Stored → Json

namespace Posting

def host : Posting :=
  ⟨Host.Registration, Host, Host.Registration.decoder, Host.Registration.check,
    fun given => .createHost given.trimmed, Store.readHost, Host.toJson⟩

def speed : Posting :=
  ⟨Speed.Submission, Speed.Test, Speed.Submission.decoder, Speed.Submission.check, .createSpeed,
    Store.readSpeed, Speed.Test.toJson⟩

def throughput : Posting :=
  ⟨Throughput.Submission, Throughput.Test, Throughput.Submission.decoder,
    Throughput.Submission.check, fun s => .createThroughput (.ofSubmission s),
    Store.readThroughput, Throughput.Test.toJson⟩

/-- What can be posted to a resource to be stored. -/
def of? : Resource → Option Posting
  | .hosts => some host
  | .speedTests => some speed
  | .throughputTests => some throughput
  | _ => none

/-- What comes of posting. Either nothing was executed, or the insert of what was posted was. The
answer is that it was created if a row came of it, and then the row; else it is another one. -/
def Outcome (p : Posting) (r : Web.Request) (turns : List (Turn Serving))
    (response : Web.Response) : Prop :=
  (turns = [] ∨ ∃ e, turns = [connection (.error e)]) ∧ response.status ≠ 201 ∨
    ∃ body reply, Json.read p.decoder r.body = .ok body ∧ p.check body = .ok () ∧
      (p.insert body).isInsert ∧
      turns = [connection (.ok ()), execution (p.insert body) reply] ∧
      ((∃ row rest stored, reply = .rows (row :: rest) ∧ p.read row = .ok stored ∧
          response = .json 201 (p.toJson stored)) ∨
        (∀ row rest stored, reply = .rows (row :: rest) → p.read row ≠ .ok stored) ∧
          response.status ≠ 201)

end Posting

lemma first_rows {α : Type} (read : Store.Row → Except Store.Problem α) (row : Store.Row)
    (rest : List Store.Row) : Reply.first read (.rows (row :: rest)) = read row := by
  simp only [Reply.first, Reply.first?, Reply.rows?, ok_bind]
  cases read row <;> rfl

lemma first_eq_ok {α : Type} {read : Store.Row → Except Store.Problem α} {reply : Reply} {a : α} :
    reply.first read = .ok a ↔ ∃ row rest, reply = .rows (row :: rest) ∧ read row = .ok a := by
  constructor
  · intro found
    cases reply with
    | rows rows =>
      cases rows with
      | nil => cases found
      | cons row rest => exact ⟨row, rest, rfl, (first_rows read row rest).symm.trans found⟩
    | affected | refused | lost => cases found
  · rintro ⟨row, rest, rfl, fits⟩
    exact (first_rows read row rest).trans fits

lemma status_ofProblem (p : Problem) {status : ℕ} (success : Delivery.isSuccess status = true) :
    (Web.Response.ofProblem p).status ≠ status := by
  rintro rfl
  exact absurd (success.symm.trans p.isSuccess_status) nofun

lemma Posting.outcome_of_ends (p : Posting) {fail tell : Store.Problem → Problem} {body : p.Body}
    (read : Json.read p.decoder r.body = .ok body) (checked : p.check body = .ok ())
    (inserts : (p.insert body).isInsert)
    (ends : (report 201 p.toJson (stored (Store.withConnection fail
      (Store.telling tell (Store.asking (p.insert body) (Reply.first p.read)))))).Ends
        turns response) : p.Outcome r turns response := by
  obtain ⟨a, first, second, rfl, storing, telling⟩ := Plan.ends_bind.mp ends
  rcases single_of_ends storing with ⟨e, rfl, rfl⟩ | ⟨reply, rfl, rfl⟩
  · obtain ⟨rfl, rfl⟩ := Plan.ends_done.mp telling
    exact .inl ⟨.inr ⟨e, rfl⟩, status_ofProblem _ rfl⟩
  · refine .inr ⟨body, reply, read, checked, inserts, ?_⟩
    cases found : reply.first p.read with
    | error e =>
      rw [found] at telling
      obtain ⟨rfl, rfl⟩ := Plan.ends_done.mp telling
      refine ⟨rfl, .inr ⟨?_, status_ofProblem _ rfl⟩⟩
      intro row rest stored rows fits
      rw [first_eq_ok.mpr ⟨row, rest, rows, fits⟩] at found
      cases found
    | ok stored =>
      rw [found] at telling
      obtain ⟨rfl, rfl⟩ := Plan.ends_done.mp telling
      obtain ⟨row, rest, rows, fits⟩ := first_eq_ok.mp found
      exact ⟨rfl, .inl ⟨row, rest, stored, rows, fits, rfl⟩⟩

lemma Posting.outcome_of_refuses (p : Posting) {plan : Plan Serving Web.Response}
    (refuses : Refuses plan) (ends : plan.Ends turns response) : p.Outcome r turns response := by
  obtain ⟨complaint, rfl, low, high⟩ := refuses
  obtain ⟨rfl, rfl⟩ := Plan.ends_done.mp ends
  exact .inl ⟨.inl rfl, fun created => by omega⟩

lemma readBody_of_read {α : Type} {d : Decoder α} {a : α}
    (json : (r.contentType.bind Web.MediaType.parse?).any Web.MediaType.isJson)
    (short : r.body.length ≤ maxBody) (read : Json.read d r.body = .ok a) :
    readBody d r = .ok a := by
  simp only [readBody, json, Bool.not_true, Bool.false_eq_true, if_false,
    if_neg (Nat.not_lt.mpr short), read, mapError_ok]

lemma outcome_createHost (carries : Carries Host.Registration.decoder Host.Registration.check r)
    (ends : (createHost r).Ends turns response) : Posting.host.Outcome r turns response := by
  obtain ⟨json, short, given, read, checked⟩ := carries
  rw [createHost, readBody_of_read json short read, orComplain, checked] at ends
  exact Posting.host.outcome_of_ends read checked rfl ends

lemma outcome_submitSpeed (carries : Carries Speed.Submission.decoder Speed.Submission.check r)
    (ends : (submitSpeed r).Ends turns response) : Posting.speed.Outcome r turns response := by
  obtain ⟨json, short, s, read, checked⟩ := carries
  rw [submitSpeed, readBody_of_read json short read, orComplain, Store.keepSpeed, checked] at ends
  exact Posting.speed.outcome_of_ends read checked rfl ends

lemma outcome_submitThroughput
    (carries : Carries Throughput.Submission.decoder Throughput.Submission.check r)
    (ends : (submitThroughput r).Ends turns response) :
    Posting.throughput.Outcome r turns response := by
  obtain ⟨json, short, s, read, checked⟩ := carries
  rw [submitThroughput, readBody_of_read json short read, orComplain, Store.keepThroughput,
    checked] at ends
  exact Posting.throughput.outcome_of_ends read checked rfl ends

/-- What comes of posting to a resource. What is not as it should be is refused. -/
lemma outcome_of_posted {resource : Resource} {posting : Posting}
    (posted : Posting.of? resource = some posting) (routed : Routed r resource .post)
    (ends : (respond rig r).Ends turns response) : posting.Outcome r turns response := by
  by_cases carries : Carries posting.decoder posting.check r
  · rw [respond_routed routed (by decide)] at ends
    cases resource with
    | hosts =>
      cases posted
      exact outcome_createHost carries ends
    | speedTests =>
      cases posted
      exact outcome_submitSpeed carries ends
    | throughputTests =>
      cases posted
      exact outcome_submitThroughput carries ends
    | _ => cases posted
  · have wants : Wants r resource .post (Carries posting.decoder posting.check r) := by
      cases resource with
      | hosts =>
        cases posted
        exact .registration
      | speedTests =>
        cases posted
        exact .speed
      | throughputTests =>
        cases posted
        exact .throughput
      | _ => cases posted
    exact posting.outcome_of_refuses (refuses_respond routed wants carries) ends

/-! ### Deleting -/

/-- What is deleted under a number, and where the number stands. -/
def deletion? : Resource → Option (String × (Int64 → Statement))
  | .host written => some (written, .deleteHost)
  | .speedTest written => some (written, .deleteSpeed)
  | .throughputTest written => some (written, .deleteThroughput)
  | _ => none

/-- What comes of deleting. If there is a connection, the statement is executed once, and the answer
is whether there was something to delete. -/
def Deleted (s : Statement) (turns : List (Turn Serving)) (response : Web.Response) : Prop :=
  (∃ e, turns = [connection (.error e)] ∧ response.status ≠ 204) ∨
    ∃ reply, turns = [connection (.ok ()), execution s reply] ∧
      (response.status = 204 ↔ ∃ n, reply.count = .ok n ∧ 0 < n) ∧
      (reply.count = .ok 0 → response.status = 404)

lemma deleted_of_ends {resource : String} {id : Int64} {s : Statement}
    (ends : (reportDone (removed resource id (Store.delete s))).Ends turns response) :
    Deleted s turns response := by
  obtain ⟨a, first, second, rfl, deleting, telling⟩ := Plan.ends_bind.mp ends
  obtain ⟨found, first, third, rfl, asking, finding⟩ := Plan.ends_bind.mp deleting
  rcases single_of_ends asking with ⟨e, rfl, rfl⟩ | ⟨reply, rfl, rfl⟩
  · obtain ⟨rfl, rfl⟩ := Plan.ends_done.mp finding
    obtain ⟨rfl, rfl⟩ := Plan.ends_done.mp telling
    exact .inl ⟨e, rfl, status_ofProblem _ rfl⟩
  · refine .inr ⟨reply, ?_⟩
    cases count : reply.count with
    | error e =>
      rw [count] at finding
      obtain ⟨rfl, rfl⟩ := Plan.ends_done.mp finding
      obtain ⟨rfl, rfl⟩ := Plan.ends_done.mp telling
      refine ⟨rfl, ⟨fun gone => absurd gone (status_ofProblem _ rfl), ?_⟩, nofun⟩
      rintro ⟨n, no, -⟩
      cases no
    | ok n =>
      rw [count] at finding
      obtain ⟨rfl, rfl⟩ := Plan.ends_done.mp finding
      by_cases some : 0 < n
      · simp only [some, decide_true, if_true] at telling
        obtain ⟨rfl, rfl⟩ := Plan.ends_done.mp telling
        refine ⟨rfl, ⟨fun _ => ⟨n, rfl, some⟩, fun _ => rfl⟩, ?_⟩
        rintro ⟨⟩
        contradiction
      · simp only [some, decide_false] at telling
        obtain ⟨rfl, rfl⟩ := Plan.ends_done.mp telling
        refine ⟨rfl, ⟨fun gone => absurd gone (status_ofProblem _ rfl), ?_⟩, fun _ => rfl⟩
        rintro ⟨m, eq, more⟩
        cases eq
        exact absurd more some

/-- What comes of deleting what is under a number. -/
lemma deleted_of_routed {resource : Resource} {written : String} {statement : Int64 → Statement}
    {id : Int64} (deletes : deletion? resource = some (written, statement))
    (routed : Routed r resource .delete) (read : readId "id" written = .ok id)
    (ends : (respond rig r).Ends turns response) : Deleted (statement id) turns response := by
  have number : pathId "id" written = .ok id := by rw [pathId, read, mapError_ok]
  rw [respond_routed routed (by decide)] at ends
  cases resource with
  | host =>
    cases deletes
    rw [respondTo, deleteHost, number, orComplain] at ends
    exact deleted_of_ends ends
  | speedTest =>
    cases deletes
    rw [respondTo, deleteSpeed, number, orComplain] at ends
    exact deleted_of_ends ends
  | throughputTest =>
    cases deletes
    rw [respondTo, deleteThroughput, number, orComplain] at ends
    exact deleted_of_ends ends
  | _ => cases deletes

/-! ### Speed runs -/

/-- The tool was run and its output is a reading, which is what the statement inserts. -/
def ReadBefore (rig : Rig) (past : List (Turn Serving)) (s : Statement) : Prop :=
  ∃ raw now reading,
    ⟨.inr (.inl (.run rig.speedCommand)), .ok raw⟩ ∈ past ∧ ⟨.inr (.inl .now), now⟩ ∈ past ∧
      Speed.read raw rig.testing.speedUnit now = .ok reading ∧
      s = .createSpeed (.ofReading reading rig.daemon)

/-- An insert comes after a reading. -/
def InsertsRead (rig : Rig) (past : List (Turn Serving)) : Serving.Question → Prop
  | .inr (.inr (.execute s)) => s.isInsert → ReadBefore rig past s
  | _ => True

/-- A question that inserts nothing but `s`. -/
def InsertsOnly (s : Statement) : Serving.Question → Prop
  | .inr (.inr (.execute s')) => s'.isInsert → s' = s
  | _ => True

lemma asks_deliverSpeed (s : Speed.Submission) :
    (Delivery.direct (.speed s)).Asks fun q => InsertsOnly (.createSpeed s) (.inr (.inr q)) := by
  have kept : (Store.keepSpeed s).Asks fun q => InsertsOnly (.createSpeed s) (.inr (.inr q)) :=
    Store.asks_keepSpeed trivial fun _ _ => rfl
  exact kept.bind fun _ => .done _

lemma inserts_speedTest (s : Statement) (id : Int64) : (speedTest id).Asks (InsertsOnly s) :=
  asks_present trivial (Store.asks_asking nofun)

/-- A question that submits nothing but `s`. -/
def SubmitsOnly (s : Speed.Submission) : Measuring.Question → Prop
  | .inr (.inr delivery) => delivery = .speed s
  | _ => True

/-- What is left of a speed run once there is a reading. -/
lemma inserts_submission (s : Speed.Submission) :
    (report 201 Speed.Test.toJson
      ((measuring ((Measuring.submitSpeed s).bind fun a => .ask (.inl .freeSlot) fun _ =>
        .done a)).andThen speedTest)).Asks (InsertsOnly (.createSpeed s)) := by
  have asks : ((Measuring.submitSpeed s).bind fun a => Plan.ask (I := Measuring) (.inl .freeSlot)
      fun _ => .done a).Asks (SubmitsOnly s) :=
    .ask rfl fun _ => .ask trivial fun _ => .done _
  refine asks_report ((asks_measuring asks ?_ ?_ ?_).andThen (inserts_speedTest _))
  · exact fun _ _ => trivial
  · exact fun _ _ => trivial
  · rintro _ rfl
    exact asks_deliverSpeed s

lemma warranted_runSpeed : (runSpeed rig).Warranted (InsertsRead rig) [] := by
  refine .ask trivial fun _ => .ask trivial fun output => ?_
  cases output with
  | error p => exact .ask trivial fun _ => .done _ _
  | ok raw =>
    refine .ask trivial fun now => ?_
    -- What is left depends on the reading only, which is submitted and then shown.
    change Plan.Warranted _ _ (report 201 Speed.Test.toJson
      ((measuring ((rig.submitReading (Speed.read raw rig.testing.speedUnit now)).bind
        fun a => .ask (.inl .freeSlot) fun _ => .done a)).andThen speedTest))
    cases read : Speed.read raw rig.testing.speedUnit now with
    | error p => exact .ask trivial fun _ => .done _ _
    | ok reading =>
      apply (inserts_submission (.ofReading reading rig.daemon)).warranted
      rintro more (q | q | q) only
      · trivial
      · trivial
      · cases q with
        | connect => trivial
        | execute s =>
          intro inserts
          exact ⟨raw, now, reading, by simp, by simp, read, only inserts⟩

/-! ### Answers -/

/-- A question that can be answered. -/
def Answerable (q : Serving.Question) : Prop := Nonempty (Serving.Answer q)

lemma answerable_connect : Answerable (.inr (.inr .connect)) := ⟨Except.ok ()⟩

lemma answerable_execute (s : Statement) : Answerable (.inr (.inr (.execute s))) :=
  ⟨Reply.rows []⟩

lemma answerable_posted {resource : Resource} {posting : Posting}
    (posted : Posting.of? resource = some posting) (routed : Routed r resource .post) :
    (respond rig r).Asks Answerable := by
  rw [respond_routed routed (by decide)]
  cases resource with
  | hosts => exact asks_createHost answerable_connect fun _ _ => answerable_execute _
  | speedTests => exact asks_submitSpeed answerable_connect fun _ _ => answerable_execute _
  | throughputTests =>
    exact asks_submitThroughput answerable_connect fun _ _ => answerable_execute _
  | _ => cases posted

lemma answerable_deleted {resource : Resource} {deletes : String × (Int64 → Statement)}
    (deletion : deletion? resource = some deletes) (routed : Routed r resource .delete) :
    (respond rig r).Asks Answerable := by
  rw [respond_routed routed (by decide)]
  cases resource with
  | host =>
    rw [respondTo, deleteHost]
    exact asks_removed answerable_connect fun _ => answerable_execute _
  | speedTest =>
    rw [respondTo, deleteSpeed]
    exact asks_removed answerable_connect fun _ => answerable_execute _
  | throughputTest =>
    rw [respondTo, deleteThroughput]
    exact asks_removed answerable_connect fun _ => answerable_execute _
  | _ => cases deletion

/-! ### All requests -/

/-- Only what was accepted is written, whatever the request and whatever the database answers.
A request that lacks what is wanted of it is refused before anybody is asked anything. To get
something changes nothing. What is posted is inserted once, and what is deleted is deleted once.
A speed run inserts only what its tool gave. -/
theorem writes_only_what_was_accepted (rig : Rig) (r : Web.Request) :
    (∀ (resource : Resource) (method : Method) (wanted : Prop), Routed r resource method →
      Wants r resource method.acting wanted → ¬wanted → Refuses (respond rig r)) ∧
    (r.method = "GET" ∨ r.method = "HEAD" → (respond rig r).Asks OnlyReads) ∧
    (∀ (resource : Resource) (posting : Posting), Posting.of? resource = some posting →
      Routed r resource .post →
        (respond rig r).Asks Answerable ∧
        ∀ (turns : List (Turn Serving)) (response : Web.Response),
          (respond rig r).Ends turns response → posting.Outcome r turns response) ∧
    (∀ (resource : Resource) (written : String) (statement : Int64 → Statement) (id : Int64),
      deletion? resource = some (written, statement) → Routed r resource .delete →
        readId "id" written = .ok id →
          (respond rig r).Asks Answerable ∧
          ∀ (turns : List (Turn Serving)) (response : Web.Response),
            (respond rig r).Ends turns response → Deleted (statement id) turns response) ∧
    (Routed r .speedRun .post →
      ∀ (before after : List (Turn Serving)) (s : Statement) (reply : Reply)
        (rest : Plan Serving Web.Response),
        (respond rig r).Leads (before ++ execution s reply :: after) rest → s.isInsert →
          ReadBefore rig before s) := by
  refine ⟨?refused, ?get, ?post, ?delete, ?run⟩
  case refused =>
    intro resource method wanted routed wants no
    exact refuses_respond routed wants no
  case get =>
    rintro (get | head)
    · exact onlyReads_respond (.inl (by rw [get]; decide))
    · exact onlyReads_respond (.inr (by rw [head]; decide))
  case post =>
    intro resource posting posted routed
    exact ⟨answerable_posted posted routed, fun _ _ => outcome_of_posted posted routed⟩
  case delete =>
    intro resource written statement id deletes routed read
    exact ⟨answerable_deleted deletes routed, fun _ _ => deleted_of_routed deletes routed read⟩
  case run =>
    intro routed before after s reply rest leads inserts
    rw [respond_routed routed (by decide)] at leads
    exact warranted_runSpeed.of_leads leads inserts

/-- A service as it is set up at first. -/
def station : Rig := ⟨.default, .default, ⟨"probe", 7⟩⟩

/-- A host to be registered, with blanks around its name. -/
def attic : Host.Registration := ⟨" attic ", "attic.local", none, .lan, none, none⟩

/-- The host as it is stored. -/
def atticHost : Host :=
  ⟨7, "attic", "attic.local", 5201, .lan, true, none, ⟨1700000000, 0, by decide⟩,
    ⟨1700000000, 0, by decide⟩⟩

/-- The row that comes of the registration. -/
def atticRow : Store.Row :=
  [ ("id", .integer 7), ("name", .text "attic"), ("hostname", .text "attic.local"),
    ("port", .integer 5201), ("category", .text "lan"), ("active", .bool true),
    ("created_at", .instant atticHost.createdAt), ("updated_at", .instant atticHost.updatedAt) ]

/-- The request to register the host. -/
def enrolment : Web.Request :=
  ⟨"POST", "/api/v1/hosts", some "application/json", Utf8.encode attic.toJson.render⟩

lemma ends_enrolment :
    (respond station enrolment).Ends
      [ connection (.ok ()), execution (.createHost attic.trimmed) (.rows [atticRow]) ]
      (.json 201 atticHost.toJson) := by
  have routed : Routed enrolment .hosts .post := by constructor <;> decide
  have json : (enrolment.contentType.bind Web.MediaType.parse?).any Web.MediaType.isJson := by
    decide
  have short : enrolment.body.length ≤ maxBody := by decide
  have read : Json.read Host.Registration.decoder enrolment.body = .ok attic := by
    rw [enrolment, Json.read_render _ _ (by decide)]
    rfl
  have checked : attic.check = .ok () := by decide
  rw [respond_routed routed (by decide), respondTo, createHost, readBody_of_read json short read,
    orComplain, checked]
  exact .ask _ (.ask _ (.refl _))

/-- The request to delete it. -/
def dismissal : Web.Request := ⟨"DELETE", "/api/v1/hosts/7", none, []⟩

lemma ends_dismissal :
    (respond station dismissal).Ends
      [connection (.ok ()), execution (.deleteHost 7) (.affected 1)] (.bare 204) := by
  have routed : Routed dismissal (.host "7") .delete := by constructor <;> decide
  have number : pathId "id" "7" = .ok 7 := by rfl
  rw [respond_routed routed (by decide), respondTo, deleteHost, number, orComplain]
  exact .ask _ (.ask _ (.refl _))

/-- A request for a host without a number. -/
def inquiry : Web.Request := ⟨"GET", "/api/v1/hosts/attic", none, []⟩

/-- A host is registered and deleted again, and one without a number is asked for. -/
theorem writes_only_what_was_accepted_attic :
    (∃ turns, (respond station enrolment).Ends turns (.json 201 atticHost.toJson) ∧
      Posting.host.Outcome enrolment turns (.json 201 atticHost.toJson)) ∧
    (∃ turns, (respond station dismissal).Ends turns (.bare 204) ∧
      Deleted (.deleteHost 7) turns (.bare 204)) ∧
    Refuses (respond station inquiry) ∧ (respond station inquiry).Asks OnlyReads := by
  obtain ⟨-, -, post, -⟩ := writes_only_what_was_accepted station enrolment
  obtain ⟨-, -, -, delete, -⟩ := writes_only_what_was_accepted station dismissal
  obtain ⟨refused, get, -⟩ := writes_only_what_was_accepted station inquiry
  have posted := post .hosts .host rfl (by constructor <;> decide)
  have number : readId "id" "7" = .ok 7 := by decide
  have deleted := delete (.host "7") "7" .deleteHost 7 rfl (by constructor <;> decide) number
  have unread : ¬∃ id, readId "id" "attic" = .ok id := by
    rintro ⟨id, read⟩
    cases read
  refine ⟨⟨_, ends_enrolment, posted.2 _ _ ends_enrolment⟩,
    ⟨_, ends_dismissal, deleted.2 _ _ ends_dismissal⟩, ?_, get (.inl rfl)⟩
  exact refused _ .get _ (by constructor <;> decide) (.host "attic" .get) unread

end LinkGauge.Service
