import LinkGauge.Proofs.Delivery.StoredTests
import LinkGauge.Proofs.Service.Writes

/-!
# What is shown can be posted again

The document of a stored test, posted as it is to where tests are taken, is inserted with the same
values as the test was. Only a document that is too long to be read is refused.
-/

namespace LinkGauge

open Plan (Turn)
open Store (Statement Reply numbered)
open Utf8 (octets)

/-- The columns of a row that is inserted. -/
def Store.Statement.columns : Statement → Store.Row
  | .createHost r => hostColumns r
  | .createSpeed s => speedColumns s
  | .createThroughput r => throughputColumns r
  | _ => []

namespace Service

variable {rig : Rig} {r : Web.Request} {turns : List (Turn Serving)} {response : Web.Response}

/-! ### Courses of requests -/

section Courses

variable {α : Type} {status : ℕ} {toJson : α → Json}

lemma ends_report {p : Plan Serving (Except Problem α)}
    (ends : (report status toJson p).Ends turns response) : ∃ a, p.Ends turns a := by
  obtain ⟨a, first, second, rfl, done, telling⟩ := Plan.ends_bind.mp ends
  have none : second = [] := by
    cases a with
    | ok a => exact (Plan.ends_done.mp telling).1
    | error e => exact (Plan.ends_done.mp telling).1
  subst none
  rw [List.append_nil]
  exact ⟨a, done⟩

/-- A statement that is executed over a connection. -/
lemma ends_single (fail tell : Store.Problem → Problem) (s : Statement)
    (read : Reply → Except Store.Problem α) (reply : Reply) :
    (stored (Store.withConnection fail (Store.telling tell (Store.asking s read)))).Ends
      [connection (.ok ()), execution s reply] ((read reply).mapError tell) :=
  .ask _ (.ask _ (.refl _))

/-- A single row that is asked for and can be read is shown. -/
lemma ends_shown {resource : String} {id : Int64} {s : Statement}
    {read : Store.Row → Except Store.Problem α} {row : Store.Row} {a : α}
    (fits : read row = .ok a) :
    (report status toJson (present resource id (Store.asking s (Reply.first? read)))).Ends
      [connection (.ok ()), execution s (.rows [row])] (.json status (toJson a)) := by
  have found : Reply.first? read (.rows [row]) = .ok (some a) := by
    simp only [Reply.first?, Reply.rows?, ok_bind, fits, map_ok]
  have asked := ends_single .store .store s (Reply.first? read) (.rows [row])
  rw [found, mapError_ok] at asked
  have presented : (present resource id (Store.asking s (Reply.first? read))).Ends
      [connection (.ok ()), execution s (.rows [row])] (.ok a) :=
    Plan.ends_bind.mpr ⟨_, _, [], rfl, asked, .refl _⟩
  exact Plan.ends_bind.mpr ⟨_, _, [], rfl, presented, .refl _⟩

end Courses

/-! ### Replays -/

/-- Tests of a kind: how they are posted, where all of them are, where each is, and how it is looked
up. -/
structure Shelf where
  posting : Posting
  all : Resource
  one : String → Resource
  lookUp : Int64 → Statement

def Shelf.speed : Shelf := ⟨.speed, .speedTests, .speedTest, .getSpeed⟩

def Shelf.throughput : Shelf := ⟨.throughput, .throughputTests, .throughputTest, .getThroughput⟩

namespace Shelf

/-- The document `j` is inserted as `s` by whoever posts it: nothing else is executed, and it is
executed if there is a connection. A document that is too long is not even read. -/
def Inserts (k : Shelf) (j : Json) (s : Statement) : Prop :=
  ∀ (rig : Rig) (r : Web.Request), Routed r k.all .post →
    (r.contentType.bind Web.MediaType.parse?).any Web.MediaType.isJson →
    r.body = Utf8.encode j.render →
      if r.body.length ≤ maxBody then
        (respond rig r).Asks Answerable ∧
        ∀ (turns : List (Turn Serving)) (response : Web.Response),
          (respond rig r).Ends turns response →
            (∃ e, turns = [connection (.error e)]) ∨
              ∃ reply, turns = [connection (.ok ()), execution s reply]
      else
        respond rig r = .done
          (complaint 413 "Failed to buffer the request body: length limit exceeded")

/-- A test can be replayed: what is shown of the row that its insert brought about is decoded,
passes the check, and is inserted with the same values. -/
def Replays (k : Shelf) (body : k.posting.Body) : Prop :=
  ∀ id : Int64, ∃ (stored : k.posting.Stored) (again : k.posting.Body),
    k.posting.read (numbered id (k.posting.insert body).columns) = .ok stored ∧
    (∀ (rig : Rig) (r : Web.Request) (written : String), Routed r (k.one written) .get →
      readId "id" written = .ok id →
        (respond rig r).Ends
          [ connection (.ok ()),
            execution (k.lookUp id) (.rows [numbered id (k.posting.insert body).columns]) ]
          (.json 200 (k.posting.toJson stored))) ∧
    Json.read k.posting.decoder (Utf8.encode (k.posting.toJson stored).render) = .ok again ∧
    k.posting.check again = .ok () ∧
    (k.posting.insert again).isInsert ∧
    (k.posting.insert again).columns = (k.posting.insert body).columns ∧
    (k.posting.insert again).parameters = (k.posting.insert body).parameters ∧
    k.Inserts (k.posting.toJson stored) (k.posting.insert again)

end Shelf

/-- What is too long is not read. -/
lemma readBody_of_long {α : Type} (d : Decoder α)
    (json : (r.contentType.bind Web.MediaType.parse?).any Web.MediaType.isJson)
    (long : maxBody < r.body.length) :
    readBody d r =
      .error (complaint 413 "Failed to buffer the request body: length limit exceeded") := by
  simp only [readBody, json, Bool.not_true, Bool.false_eq_true, if_false, if_pos long]

/-- The insert of what was posted, in the courses of the plan that makes it. -/
lemma inserted_of_ends {α : Type} {status : ℕ} {toJson : α → Json} {s : Statement}
    {read : Reply → Except Store.Problem α} {fail tell : Store.Problem → Problem}
    (ends : (report status toJson (stored (Store.withConnection fail
      (Store.telling tell (Store.asking s read))))).Ends turns response) :
    (∃ e, turns = [connection (.error e)]) ∨
      ∃ reply, turns = [connection (.ok ()), execution s reply] := by
  obtain ⟨a, storing⟩ := ends_report ends
  rcases single_of_ends storing with ⟨e, rfl, -⟩ | ⟨reply, rfl, -⟩
  · exact .inl ⟨e, rfl⟩
  · exact .inr ⟨reply, rfl⟩

namespace Shelf

variable {k : Shelf}

/-- What is posted is inserted if it can be read and if what is done with it inserts it. -/
lemma inserts_of_reads {j : Json} {body : k.posting.Body}
    {f : k.posting.Body → Plan Serving Web.Response}
    (posted : Posting.of? k.all = some k.posting)
    (takes : ∀ rig r, respondTo rig r k.all .post = orComplain (readBody k.posting.decoder r) f)
    (read : Json.read k.posting.decoder (Utf8.encode j.render) = .ok body)
    (inserts : ∀ turns response, (f body).Ends turns response →
      (∃ e, turns = [connection (.error e)]) ∨
        ∃ reply, turns = [connection (.ok ()), execution (k.posting.insert body) reply]) :
    k.Inserts j (k.posting.insert body) := by
  intro rig r routed json same
  split
  next short =>
    refine ⟨answerable_posted posted routed, ?_⟩
    intro turns response ends
    rw [← same] at read
    rw [respond_routed routed (by decide), takes, readBody_of_read json short read] at ends
    exact inserts turns response ends
  next long =>
    rw [respond_routed routed (by decide), takes,
      readBody_of_long _ json (Nat.lt_of_not_le long), orComplain]

/-- What is looked up is shown if its row can be read. -/
lemma ends_lookUp {resource : String} {row : Store.Row} {stored : k.posting.Stored}
    (shows : ∀ rig r written, respondTo rig r (k.one written) .get =
      orComplain (pathId "id" written) fun id => report 200 k.posting.toJson
        (present resource id (Store.asking (k.lookUp id) (Reply.first? k.posting.read))))
    (fits : k.posting.read row = .ok stored) {id : Int64} {written : String}
    (routed : Routed r (k.one written) .get) (number : readId "id" written = .ok id) :
    (respond rig r).Ends [connection (.ok ()), execution (k.lookUp id) (.rows [row])]
      (.json 200 (k.posting.toJson stored)) := by
  rw [respond_routed routed (by decide), shows, pathId, number, mapError_ok, orComplain]
  exact ends_shown fits

end Shelf

lemma replays_speed {s : Speed.Submission} (checked : s.check = .ok ())
    (exact : Delivery.Exact s.reals) : Shelf.speed.Replays s := by
  intro id
  have fits := Speed.readSpeed_numbered s id
  have read : Json.read Speed.Submission.decoder (Utf8.encode (s.kept id).toJson.render) =
      .ok s.cut := by
    rw [Json.read_render _ _ (by rw [Speed.Test.nesting_toJson]; decide)]
    exact Speed.Test.decode_toJson (t := s.kept id) exact.readsBack
  have again : s.cut.check = .ok () := checked
  have columns := Speed.speedColumns_cut s
  refine ⟨s.kept id, s.cut, fits, ?shown, read, again, rfl, columns,
    congrArg (List.map Prod.snd) columns, ?inserted⟩
  case shown =>
    intro rig r written routed number
    exact Shelf.ends_lookUp (fun _ _ _ => rfl) fits routed number
  case inserted =>
    apply Shelf.inserts_of_reads rfl (fun _ _ => rfl) read
    intro turns response ends
    rw [Store.keepSpeed, again] at ends
    exact inserted_of_ends ends

lemma replays_throughput {s : Throughput.Submission} (checked : s.check = .ok ())
    (exact : Delivery.Exact s.reals) : Shelf.throughput.Replays s := by
  intro id
  have fits := Throughput.readThroughput_numbered (.ofSubmission s) id
  have read : Json.read Throughput.Submission.decoder
      (Utf8.encode ((Throughput.Record.ofSubmission s).kept id).toJson.render) =
      .ok (Throughput.Record.ofSubmission s).again := by
    rw [Json.read_render _ _ (by rw [Throughput.Test.nesting_toJson]; decide)]
    exact Throughput.Record.decode_kept id (Throughput.readsBack_again exact.readsBack)
  have again := Throughput.check_again checked
  have columns :
      Statement.throughputColumns (.ofSubmission (Throughput.Record.ofSubmission s).again) =
        Statement.throughputColumns (.ofSubmission s) := by
    rw [Throughput.ofSubmission_again, ← Throughput.throughputColumns_stored (.ofSubmission s),
      (Throughput.Record.tells_ofSubmission s).timestamp]
  refine ⟨_, _, fits, ?shown, read, again, rfl, columns,
    congrArg (List.map Prod.snd) columns, ?inserted⟩
  case shown =>
    intro rig r written routed number
    exact Shelf.ends_lookUp (fun _ _ _ => rfl) fits routed number
  case inserted =>
    apply Shelf.inserts_of_reads rfl (fun _ _ => rfl) read
    intro turns response ends
    rw [Store.keepThroughput, again] at ends
    exact inserted_of_ends ends

/-- Stored tests can be replayed. The columns are those of the insert before, so that a success
stays the same success and a failure keeps its reason to the letter. -/
theorem stored_tests_replay :
    (∀ s : Speed.Submission, s.check = .ok () → Delivery.Exact s.reals → Shelf.speed.Replays s) ∧
    ∀ s : Throughput.Submission, s.check = .ok () → Delivery.Exact s.reals →
      Shelf.throughput.Replays s :=
  ⟨fun _ => replays_speed, fun _ => replays_throughput⟩

/-- A speed test with a fraction of a second and little else. -/
def brief : Speed.Submission where
  timestamp := ⟨1740830400, 123456789, by decide⟩
  downloadMbps := 100
  uploadMbps := 0
  pingMs := 9.5
  jitterMs := none
  serverName := some "Example \"Server\""
  serverId := none
  isp := none
  externalIp := none
  resultUrl := none
  daemon := "daemon-probe-7"

/-- A failure without a reason is replayed as what it is stored as, and so is a time that is told to
the nanosecond. -/
theorem stored_tests_replay_brief :
    brief.check = .ok () ∧ Shelf.speed.Replays brief ∧
      Throughput.Submission.hollow.check = .ok () ∧
      Shelf.throughput.Replays Throughput.Submission.hollow := by
  have exact : Delivery.Exact brief.reals := by
    simp only [Delivery.Exact]
    decide +kernel
  have hollow : Delivery.Exact Throughput.Submission.hollow.reals := by
    simp only [Delivery.Exact]
    decide +kernel
  exact ⟨rfl, stored_tests_replay.1 _ rfl exact, rfl, stored_tests_replay.2 _ rfl hollow⟩

/-! ### A document that is too long -/

section Long

open Json (quotedOctets)

lemma length_quotedOctets (n : ℕ) : (quotedOctets (List.replicate n 'a')).length = n + 1 := by
  have plain : octets (Json.escapeChar 'a') = [0x61] := by decide
  induction n with
  | zero => rfl
  | succ n ih =>
    rw [List.replicate_succ, Json.quotedOctets_cons, List.length_append, ih, plain]
    exact Nat.add_comm 1 (n + 1)

/-- The text of a member is part of that of its object. -/
lemma length_lt_of_mem {members : List (String × Json)} {key : String} {j : Json}
    (mem : (key, j) ∈ members) :
    (octets j.chars).length < (octets (Json.object members).chars).length := by
  rw [Json.octets_object, List.length_cons, List.length_append]
  suffices inside : (octets j.chars).length ≤ (octets (Json.memberChars members)).length by
    omega
  induction members with
  | nil => cases mem
  | cons m members ih =>
    obtain ⟨name, value⟩ := m
    rw [Json.octets_memberChars]
    simp only [List.length_cons, List.length_append]
    rcases List.mem_cons.mp mem with eq | later
    · obtain ⟨-, rfl⟩ := Prod.mk.inj eq
      omega
    · have rest := Json.length_memberChars_le members
      have := ih later
      omega

/-- A failure that is told at length: as many letters as a body may have octets. -/
def verbose : Throughput.Submission where
  timestamp := ⟨1760000000, 0, by decide⟩
  hostId := 1
  sentMbps := 0
  receivedMbps := 0
  retransmits := none
  meanRttMs := none
  durationSeconds := 10
  transport := .tcp
  success := some false
  error := some (String.ofList (List.replicate maxBody 'a'))
  daemon := "daemon-probe-7"

lemma error_verbose :
    (Throughput.Record.ofSubmission verbose).error =
      some (String.ofList (List.replicate maxBody 'a')) := by
  have letters : isBlank (String.ofList (List.replicate maxBody 'a')) = false := by
    have first : isBlankChar 'a' = false := by decide
    rw [isBlank, String.toList_ofList, maxBody, List.replicate_succ, List.all_cons, first]
    rfl
  have outcome := (Throughput.Record.tells_ofSubmission verbose).outcome
  split at outcome
  next success =>
    have failure : (Throughput.Record.ofSubmission verbose).success = false := by
      rw [(Throughput.Record.tells_ofSubmission verbose).success]
      rfl
    rw [success] at failure
    cases failure
  next =>
    obtain ⟨reason, eq, -, own⟩ := outcome.error
    rw [eq, own _ rfl letters]

/-- The reason of a failure is shown. -/
lemma mem_toJson {r : Throughput.Record} {reason : String} (error : r.error = some reason)
    (id : Int64) : ∃ members, (r.kept id).toJson = .object members ∧
      ("error_message", Json.text reason) ∈ members := by
  refine ⟨_, rfl, ?_⟩
  simp [Throughput.Record.kept, error, Json.ofOption]

lemma length_verbose (id : Int64) : maxBody <
    (Utf8.encode ((Throughput.Record.ofSubmission verbose).kept id).toJson.render).length := by
  obtain ⟨members, object, mem⟩ := mem_toJson error_verbose id
  have long := length_lt_of_mem mem
  rw [Json.chars, Json.octets_quote, String.toList_ofList, List.length_cons,
    length_quotedOctets] at long
  rw [object, Json.render, Utf8.encode_ofList]
  omega

/-- What is shown of such a failure is too long to be posted. -/
theorem long_reason_is_not_replayed :
    verbose.check = .ok () ∧ Delivery.Exact verbose.reals ∧
      ∃ stored,
        Store.readThroughput
            (numbered 1 (Statement.createThroughput (.ofSubmission verbose)).columns) =
          .ok stored ∧
        respond station ⟨"POST", "/api/v1/iperf/results", some "application/json",
            Utf8.encode stored.toJson.render⟩ =
          .done (complaint 413 "Failed to buffer the request body: length limit exceeded") := by
  have exact : Delivery.Exact verbose.reals := by
    have reals : verbose.reals = [0, 0] := rfl
    rw [reals]
    simp only [Delivery.Exact]
    decide +kernel
  refine ⟨rfl, exact, _, Throughput.readThroughput_numbered _ 1, ?_⟩
  have routed (body : Json.Bytes) : Routed
      ⟨"POST", "/api/v1/iperf/results", some "application/json", body⟩ .throughputTests .post := by
    constructor
    · change Resource.ofPath? (String.ofList (("/api/v1/iperf/results".toList.takeWhile
        (· != '#')).takeWhile (· != '?'))) = _
      decide
    · change Method.ofName? "POST" = _
      decide
  have json : ((some "application/json").bind Web.MediaType.parse?).any
      Web.MediaType.isJson := by
    change ("application/json" |> Web.MediaType.parse?).any Web.MediaType.isJson
    decide
  have long := length_verbose 1
  generalize Utf8.encode ((Throughput.Record.ofSubmission verbose).kept 1).toJson.render = body
    at long ⊢
  rw [respond_routed (routed body) (by decide), respondTo, submitThroughput,
    readBody_of_long _ json long, orComplain]

end Long

end Service

end LinkGauge
