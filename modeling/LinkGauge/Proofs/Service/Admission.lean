import LinkGauge.Proofs.Answers
import LinkGauge.Proofs.Plans
import LinkGauge.Service.Respond

/-!
# Admission to the service

A request is read and checked before anything is done about it. One that cannot be read or is not
allowed leads to a complaint and to nothing else. What is written to the store, by whatever
request, was checked; a request to get something writes nothing.
-/

namespace LinkGauge

/-! ### Rules -/

/-- Whoever does not keep a rule is to blame: the request was bad. -/
def Blames {α : Type} (a : Except Problem α) : Prop := ∀ p, a = .error p → p.status = 400

section Blames

variable {α β : Type}

lemma blames_ok (a : α) : Blames (.ok a) := fun _ eq => nomatch eq

lemma blames_badRequest (message : String) :
    Blames (.error (.badRequest message) : Except Problem α) := by
  rintro p ⟨⟩
  rfl

lemma Blames.bind {a : Except Problem α} {f : α → Except Problem β} (h : Blames a)
    (hf : ∀ b, Blames (f b)) : Blames (a >>= f) := by
  cases a with
  | ok a => exact hf a
  | error p =>
    rintro q ⟨⟩
    exact h p rfl

lemma blames_requireDaemon (daemon : String) : Blames (requireDaemon daemon) := by
  simp only [requireDaemon]
  split
  · exact blames_badRequest _
  · exact blames_ok ()

lemma blames_requireBandwidth (field : String) (x : Float) : Blames (requireBandwidth field x) := by
  simp only [requireBandwidth]
  split
  · exact blames_badRequest _
  · exact blames_ok ()

lemma blames_requireText (field value : String) : Blames (Host.requireText field value) := by
  simp only [Host.requireText]
  split
  · exact blames_badRequest _
  · exact blames_ok ()

lemma blames_requirePort (port : Option Int32) : Blames (Host.requirePort port) := by
  cases port with
  | none => exact blames_ok ()
  | some port =>
    simp only [Host.requirePort]
    split
    · exact blames_ok ()
    · exact blames_badRequest _

lemma Host.Registration.blames_check (r : Host.Registration) : Blames r.check := by
  apply (blames_requireText _ _).bind
  intro _
  apply (blames_requireText _ _).bind
  intro _
  exact blames_requirePort _

lemma Host.Change.blames_check (c : Host.Change) : Blames c.check := by
  obtain ⟨name, hostname, port, -, -, -⟩ := c
  cases name with
  | none =>
    cases hostname with
    | none => exact blames_requirePort port
    | some hostname => exact (blames_requireText _ _).bind fun _ => blames_requirePort port
  | some name =>
    apply (blames_requireText _ _).bind
    intro _
    cases hostname with
    | none => exact blames_requirePort port
    | some hostname => exact (blames_requireText _ _).bind fun _ => blames_requirePort port

lemma Speed.Submission.blames_check (s : Speed.Submission) : Blames s.check := by
  apply (blames_requireDaemon _).bind
  intro _
  apply (blames_requireBandwidth _ _).bind
  intro _
  apply (blames_requireBandwidth _ _).bind
  intro _
  split
  · exact blames_ok ()
  · exact blames_badRequest _

lemma Throughput.Submission.blames_check (s : Throughput.Submission) : Blames s.check := by
  apply (blames_requireDaemon _).bind
  intro _
  apply (blames_requireBandwidth _ _).bind
  intro _
  apply (blames_requireBandwidth _ _).bind
  intro _
  split
  · exact blames_ok ()
  · exact blames_badRequest _

end Blames

/-! ### Statements -/

namespace Store

/-- What the statement writes was checked. What is stored of a test is what its submission says. -/
def Statement.Checked : Statement → Prop
  | .createHost r => ∃ given : Host.Registration, given.check = .ok () ∧ r = given.trimmed
  | .changeHost _ c => ∃ given : Host.Change, given.check = .ok () ∧ c = given.trimmed
  | .createSpeed s => s.check = .ok ()
  | .createThroughput r => ∃ s : Throughput.Submission, s.check = .ok () ∧ r = .ofSubmission s
  | _ => True

def Access.Question.Checked : Access.Question → Prop
  | .connect => True
  | .execute s => s.Checked

variable {α : Type} {Q : Access.Question → Prop}

lemma asks_withConnection {fail : Problem → LinkGauge.Problem}
    {p : Plan Access (Except LinkGauge.Problem α)} (connect : Q .connect) (h : p.Asks Q) :
    (withConnection fail p).Asks Q := by
  apply Plan.Asks.ask connect
  rintro (_ | _)
  · exact .done _
  · exact h

lemma asks_telling {fail : Problem → LinkGauge.Problem} {p : Plan Access (Except Problem α)}
    (h : p.Asks Q) : (telling fail p).Asks Q := h.bind fun _ => .done _

lemma asks_asking {s : Statement} {read : Reply → Except Problem α} (h : Q (.execute s)) :
    (asking s read).Asks Q := .ask h fun _ => .done _

lemma asks_keepSpeed {s : Speed.Submission} (connect : Q .connect)
    (inserts : s.check = .ok () → Q (.execute (.createSpeed s))) : (keepSpeed s).Asks Q := by
  simp only [keepSpeed]
  cases checked : s.check with
  | error p => exact .done _
  | ok _ => exact asks_withConnection connect (asks_telling (asks_asking (inserts checked)))

lemma asks_keepThroughput {s : Throughput.Submission} (connect : Q .connect)
    (inserts : s.check = .ok () → Q (.execute (.createThroughput (.ofSubmission s)))) :
    (keepThroughput s).Asks Q := by
  simp only [keepThroughput]
  cases checked : s.check with
  | error p => exact .done _
  | ok _ => exact asks_withConnection connect (asks_telling (asks_asking (inserts checked)))

end Store

/-- What is delivered into the store was checked. -/
lemma Delivery.asks_direct (q : Delivery.Question) :
    (direct q).Asks Store.Access.Question.Checked := by
  cases q with
  | hosts =>
    exact Store.asks_withConnection trivial (Store.asks_telling (Store.asks_asking trivial))
  | speed s => exact (Store.asks_keepSpeed trivial fun checked => checked).bind fun _ => .done _
  | throughput s =>
    refine (Store.asks_keepThroughput trivial ?_).bind fun _ => .done _
    exact fun checked => ⟨s, checked, rfl⟩

namespace Service

lemma blames_checkRange (start stop : Instant) : Blames (checkRange start stop) := by
  simp only [checkRange]
  split
  · exact blames_badRequest _
  · exact blames_ok ()

lemma blames_runDuration (asked : Option UInt64) : Blames (runDuration asked) := by
  cases asked with
  | none => exact blames_ok none
  | some seconds =>
    simp only [runDuration]
    split
    · exact blames_ok _
    · exact blames_badRequest _

variable {rig : Rig} {r : Web.Request} {α β : Type}

/-! ### Refusals -/

/-- The client is told that the request is at fault. -/
def Complains (response : Web.Response) : Prop := 400 ≤ response.status ∧ response.status < 500

/-- Nobody is asked anything, and the client is told that the request is at fault. -/
def Refuses (p : Plan Serving Web.Response) : Prop :=
  ∃ response, p = .done response ∧ Complains response

lemma complains_complaint {status : ℕ} (low : 400 ≤ status) (high : status < 500)
    (message : String) : Complains (complaint status message) := ⟨low, high⟩

lemma complains_mapError {ε : Type} {answer : Except ε α} {tell : ε → Web.Response}
    {response : Web.Response} (h : answer.mapError tell = .error response)
    (complains : ∀ e, answer = .error e → Complains (tell e)) : Complains response := by
  cases answer with
  | ok a => cases h
  | error e =>
    cases h
    exact complains e rfl

lemma complains_pathId {name written : String} {response : Web.Response}
    (h : pathId name written = .error response) : Complains response :=
  complains_mapError h fun _ _ => complains_complaint (by decide) (by decide) _

lemma complains_readQuery {d : Decoder α} {response : Web.Response}
    (h : readQuery d r = .error response) : Complains response :=
  complains_mapError h fun _ _ => complains_complaint (by decide) (by decide) _

lemma complains_readBody {d : Decoder α} {response : Web.Response}
    (h : readBody d r = .error response) : Complains response := by
  simp only [readBody] at h
  split at h
  · cases h
    exact complains_complaint (by decide) (by decide) _
  split at h
  · cases h
    exact complains_complaint (by decide) (by decide) _
  apply complains_mapError h
  intro failure _
  simp only [bodyComplaint]
  split
  · exact complains_complaint (by decide) (by decide) _
  · exact complains_complaint (by decide) (by decide) _

lemma complains_ofProblem {p : Problem} (h : p.status = 400) : Complains (.ofProblem p) :=
  ⟨h.ge, h.trans_lt (by decide)⟩

lemma complains_allowed {answer : Except Problem α} (blames : Blames answer)
    {response : Web.Response} (h : allowed answer = .error response) : Complains response :=
  complains_mapError h fun p eq => complains_ofProblem (blames p eq)

/-- Whoever cannot go on complains. -/
lemma refuses_orComplain {read : Except Web.Response α} {f : α → Plan Serving Web.Response}
    (complains : ∀ response, read = .error response → Complains response)
    (refuses : ∀ a, read = .ok a → Refuses (f a)) : Refuses (orComplain read f) := by
  cases read with
  | ok a => exact refuses a rfl
  | error response => exact ⟨response, rfl, complains response rfl⟩

lemma refuses_notAllowed (resource : Resource) : Refuses (.done (notAllowed resource)) :=
  ⟨_, rfl, (by decide : 400 ≤ 405), (by decide : 405 < 500)⟩

/-! ### What is wanted -/

/-- The body says that it is JSON, is not too long, and holds a value that a rule allows. -/
def Carries (d : Decoder α) (check : α → Except Problem Unit) (r : Web.Request) : Prop :=
  (r.contentType.bind Web.MediaType.parse?).any Web.MediaType.isJson ∧ r.body.length ≤ maxBody ∧
    ∃ a, Json.read d r.body = .ok a ∧ check a = .ok ()

/-- What a request must bring before a method does anything about a resource. -/
inductive Wants (r : Web.Request) : Resource → Method → Prop → Prop where
  | host (written : String) (method : Method) :
      Wants r (.host written) method (∃ id, readId "id" written = .ok id)
  | speedTest (written : String) (method : Method) :
      Wants r (.speedTest written) method (∃ id, readId "id" written = .ok id)
  | throughputTest (written : String) (method : Method) :
      Wants r (.throughputTest written) method (∃ id, readId "id" written = .ok id)
  | hostRun (written : String) (method : Method) :
      Wants r (.hostRun written) method (∃ id, readId "host_id" written = .ok id)
  | hostsQuery : Wants r .hosts .get (∃ q, HostsQuery.decoder (queryNode r.query) = .ok q)
  | speedQuery : Wants r .speedTests .get (∃ q, ResultsQuery.decoder (queryNode r.query) = .ok q)
  | throughputQuery :
      Wants r .throughputTests .get (∃ q, ResultsQuery.decoder (queryNode r.query) = .ok q)
  | range :
      Wants r .speedRange .get
        (∃ q, RangeQuery.decoder (queryNode r.query) = .ok q ∧ ¬q.stop.before q.start)
  | roundQuery :
      Wants r .round .post
        (∃ q, RunQuery.decoder (queryNode r.query) = .ok q ∧
          ∀ seconds, q.duration = some seconds → 1 ≤ seconds ∧ seconds ≤ 300)
  | hostRunQuery (written : String) :
      Wants r (.hostRun written) .post
        (∃ q, RunQuery.decoder (queryNode r.query) = .ok q ∧
          ∀ seconds, q.duration = some seconds → 1 ≤ seconds ∧ seconds ≤ 300)
  | registration :
      Wants r .hosts .post (Carries Host.Registration.decoder Host.Registration.check r)
  | change (written : String) :
      Wants r (.host written) .patch (Carries Host.Change.decoder Host.Change.check r)
  | speed :
      Wants r .speedTests .post (Carries Speed.Submission.decoder Speed.Submission.check r)
  | throughput :
      Wants r .throughputTests .post
        (Carries Throughput.Submission.decoder Throughput.Submission.check r)

lemma carries_of_readBody {d : Decoder α} {check : α → Except Problem Unit} {a : α}
    (read : readBody d r = .ok a) (checked : check a = .ok ()) : Carries d check r := by
  simp only [readBody] at read
  split at read
  · cases read
  split at read
  · cases read
  next json short =>
    cases body : Json.read d r.body with
    | error failure =>
      rw [body] at read
      cases read
    | ok b =>
      rw [body] at read
      cases read
      exact ⟨by simpa using json, Nat.le_of_not_lt short, a, body, checked⟩

lemma refuses_pathId {name written : String} (no : ¬∃ id, readId name written = .ok id)
    (f : Int64 → Plan Serving Web.Response) : Refuses (orComplain (pathId name written) f) := by
  apply refuses_orComplain fun _ => complains_pathId
  intro id read
  exact absurd ⟨id, mapError_eq_ok.mp read⟩ no

lemma refuses_unread {d : Decoder α} (no : ¬∃ q, d (queryNode r.query) = .ok q)
    (f : α → Plan Serving Web.Response) : Refuses (orComplain (readQuery d r) f) := by
  apply refuses_orComplain fun _ => complains_readQuery
  intro q read
  exact absurd ⟨q, mapError_eq_ok.mp read⟩ no

/-- A query that is not as it should be is refused, if `f` refuses what is not allowed. -/
lemma refuses_readQuery {d : Decoder α} {Allows : α → Prop}
    (no : ¬∃ q, d (queryNode r.query) = .ok q ∧ Allows q) {f : α → Plan Serving Web.Response}
    (refuses : ∀ q, ¬Allows q → Refuses (f q)) : Refuses (orComplain (readQuery d r) f) := by
  apply refuses_orComplain fun _ => complains_readQuery
  intro q read
  exact refuses q fun allows => no ⟨q, mapError_eq_ok.mp read, allows⟩

lemma refuses_allowed {answer : Except Problem α} (blames : Blames answer)
    (no : ∀ a, answer ≠ .ok a) (f : α → Plan Serving Web.Response) :
    Refuses (orComplain (allowed answer) f) := by
  apply refuses_orComplain fun _ => complains_allowed blames
  intro a eq
  exact absurd (mapError_eq_ok.mp eq) (no a)

lemma refuses_runDuration {asked : Option UInt64}
    (no : ¬∀ seconds, asked = some seconds → 1 ≤ seconds ∧ seconds ≤ 300)
    (f : Option Span → Plan Serving Web.Response) :
    Refuses (orComplain (allowed (runDuration asked)) f) := by
  apply refuses_allowed (blames_runDuration asked)
  intro duration eq
  apply no
  rintro seconds rfl
  simp only [runDuration] at eq
  split at eq
  case isTrue fits => exact fits
  case isFalse => cases eq

/-- A body that is not as it should be is refused, if `f` refuses what the rule does not allow. -/
lemma refuses_readBody {d : Decoder α} {check : α → Except Problem Unit} (no : ¬Carries d check r)
    {f : α → Plan Serving Web.Response} (refuses : ∀ a, check a ≠ .ok () → Refuses (f a)) :
    Refuses (orComplain (readBody d r) f) := by
  apply refuses_orComplain fun _ => complains_readBody
  intro a read
  exact refuses a fun checked => no (carries_of_readBody read checked)

lemma refuses_keepSpeed {s : Speed.Submission} (no : s.check ≠ .ok ()) :
    Refuses (report 201 Speed.Test.toJson (stored (Store.keepSpeed s))) := by
  cases checked : s.check with
  | ok _ => exact absurd checked no
  | error p =>
    simp only [Store.keepSpeed, checked]
    exact ⟨.ofProblem p, rfl, complains_ofProblem (s.blames_check p checked)⟩

lemma refuses_keepThroughput {s : Throughput.Submission} (no : s.check ≠ .ok ()) :
    Refuses (report 201 Throughput.Test.toJson (stored (Store.keepThroughput s))) := by
  cases checked : s.check with
  | ok _ => exact absurd checked no
  | error p =>
    simp only [Store.keepThroughput, checked]
    exact ⟨.ofProblem p, rfl, complains_ofProblem (s.blames_check p checked)⟩

/-- A request that lacks what is wanted is refused. -/
lemma refuses_respondTo {resource : Resource} {method : Method} {wanted : Prop}
    (wants : Wants r resource method wanted) (no : ¬wanted) :
    Refuses (respondTo rig r resource method) := by
  cases wants with
  | host written =>
    cases method with
    | get | patch | delete => exact refuses_pathId no _
    | head | post => exact refuses_notAllowed _
  | speedTest written =>
    cases method with
    | get | delete => exact refuses_pathId no _
    | head | post | patch => exact refuses_notAllowed _
  | throughputTest written =>
    cases method with
    | get | delete => exact refuses_pathId no _
    | head | post | patch => exact refuses_notAllowed _
  | hostRun written =>
    cases method with
    | post => exact refuses_pathId no _
    | get | head | patch | delete => exact refuses_notAllowed _
  | hostsQuery =>
    rw [respondTo, listHosts]
    exact refuses_unread no _
  | speedQuery =>
    rw [respondTo, listSpeed]
    exact refuses_unread no _
  | throughputQuery =>
    rw [respondTo, listThroughput]
    exact refuses_unread no _
  | range =>
    rw [respondTo, speedBetween]
    apply refuses_readQuery no
    intro q late
    apply refuses_allowed (blames_checkRange _ _)
    intro _ eq
    simp [checkRange, not_not.mp late] at eq
  | roundQuery =>
    rw [respondTo, runRound]
    exact refuses_readQuery no fun q long => refuses_runDuration long _
  | hostRunQuery written =>
    rw [respondTo, runHost]
    apply refuses_orComplain fun _ => complains_pathId
    intro id _
    exact refuses_readQuery no fun q long => refuses_runDuration long _
  | registration =>
    rw [respondTo, createHost]
    apply refuses_readBody no
    intro registration unchecked
    exact refuses_allowed registration.blames_check (fun _ => unchecked) _
  | change written =>
    rw [respondTo, changeHost]
    apply refuses_orComplain fun _ => complains_pathId
    intro id _
    apply refuses_readBody no
    intro change unchecked
    exact refuses_allowed change.blames_check (fun _ => unchecked) _
  | speed =>
    rw [respondTo, submitSpeed]
    exact refuses_readBody no fun _ => refuses_keepSpeed
  | throughput =>
    rw [respondTo, submitThroughput]
    exact refuses_readBody no fun _ => refuses_keepThroughput

/-- A request is for a resource, by a method. -/
def Routed (r : Web.Request) (resource : Resource) (method : Method) : Prop :=
  Resource.ofPath? r.path = some resource ∧ Method.ofName? r.method = some method

/-- The method by which a resource is treated: a head is that of what one would get. -/
def Method.acting : Method → Method
  | .head => .get
  | method => method

lemma respond_routed {resource : Resource} {method : Method} (routed : Routed r resource method)
    (acts : method ≠ .head) : respond rig r = respondTo rig r resource method := by
  rw [respond, routed.1]
  simp only [routed.2]

lemma respond_head (rig : Rig) {resource : Resource} (routed : Routed r resource .head) :
    respond rig r = .done (notAllowed resource) ∨
      respond rig r =
        (respondTo rig r resource .get).bind fun response => .done response.headOnly := by
  rw [respond, routed.1]
  simp only [routed.2]
  split
  · exact .inr rfl
  · exact .inl rfl

lemma refuses_respond {resource : Resource} {method : Method} {wanted : Prop}
    (routed : Routed r resource method) (wants : Wants r resource method.acting wanted)
    (no : ¬wanted) : Refuses (respond rig r) := by
  by_cases acts : method = .head
  · subst acts
    rcases respond_head rig routed with eq | eq
    · rw [eq]
      exact refuses_notAllowed resource
    · obtain ⟨response, done, complains⟩ : Refuses (respondTo rig r resource .get) :=
        refuses_respondTo wants no
      rw [eq, done]
      exact ⟨response.headOnly, rfl, complains⟩
  · have acting : method.acting = method := by
      cases method with
      | head => contradiction
      | get | post | patch | delete => rfl
    rw [acting] at wants
    rw [respond_routed routed acts]
    exact refuses_respondTo wants no

/-! ### Questions -/

section Questions

variable {Q : Serving.Question → Prop}

lemma asks_stored {p : Plan Store.Access α} (h : p.Asks fun q => Q (.inr (.inr q))) :
    (stored p).Asks Q := h.translate fun _ here => .ask here fun _ => .done _

lemma asks_single {p : Plan Store.Access (Except Store.Problem α)}
    (connect : Q (.inr (.inr .connect))) (h : p.Asks fun q => Q (.inr (.inr q))) :
    (single p).Asks Q :=
  asks_stored (Store.asks_withConnection connect (Store.asks_telling h))

lemma asks_present {resource : String} {id : Int64}
    {p : Plan Store.Access (Except Store.Problem (Option α))} (connect : Q (.inr (.inr .connect)))
    (h : p.Asks fun q => Q (.inr (.inr q))) : (present resource id p).Asks Q := by
  apply (asks_single connect h).andThen
  rintro (_ | a)
  · exact .done _
  · exact .done _

lemma asks_orComplain {read : Except Web.Response α} {f : α → Plan Serving Web.Response}
    (h : ∀ a, read = .ok a → (f a).Asks Q) : (orComplain read f).Asks Q := by
  cases read with
  | ok a => exact h a rfl
  | error response => exact .done _

lemma asks_report {status : ℕ} {toJson : α → Json} {p : Plan Serving (Except Problem α)}
    (h : p.Asks Q) : (report status toJson p).Asks Q := by
  apply h.bind
  rintro (_ | _)
  · exact .done _
  · exact .done _

lemma asks_reportDone {p : Plan Serving (Except Problem Unit)} (h : p.Asks Q) :
    (reportDone p).Asks Q := by
  apply h.bind
  rintro (_ | _)
  · exact .done _
  · exact .done _

/-- Delete what is under a number in a path. -/
lemma asks_removed {resource written : String} {statement : Int64 → Store.Statement}
    (connect : Q (.inr (.inr .connect))) (h : ∀ id, Q (.inr (.inr (.execute (statement id))))) :
    (orComplain (pathId "id" written) fun id =>
      reportDone (removed resource id (Store.delete (statement id)))).Asks Q :=
  asks_orComplain fun id _ =>
    asks_reportDone ((asks_single connect (Store.asks_asking (h id))).andThen fun _ => .done _)

lemma asks_createHost (connect : Q (.inr (.inr .connect)))
    (inserts : ∀ given : Host.Registration, given.check = .ok () →
      Q (.inr (.inr (.execute (.createHost given.trimmed))))) : (createHost r).Asks Q := by
  apply asks_orComplain
  intro given _
  apply asks_orComplain
  intro _ checked
  have here := inserts given (mapError_eq_ok.mp checked)
  exact asks_report (asks_single connect (Store.asks_asking here))

lemma asks_submitSpeed (connect : Q (.inr (.inr .connect)))
    (inserts : ∀ s : Speed.Submission, s.check = .ok () →
      Q (.inr (.inr (.execute (.createSpeed s))))) : (submitSpeed r).Asks Q :=
  asks_orComplain fun s _ => asks_report (asks_stored (Store.asks_keepSpeed connect (inserts s)))

lemma asks_submitThroughput (connect : Q (.inr (.inr .connect)))
    (inserts : ∀ s : Throughput.Submission, s.check = .ok () →
      Q (.inr (.inr (.execute (.createThroughput (.ofSubmission s)))))) :
    (submitThroughput r).Asks Q :=
  asks_orComplain fun s _ =>
    asks_report (asks_stored (Store.asks_keepThroughput connect (inserts s)))

/-- Measuring asks what it asks of the process and the bench, and what its deliveries ask of the
store. -/
lemma asks_measuring {p : Plan Measuring α} {D : Measuring.Question → Prop} (h : p.Asks D)
    (control : ∀ q, D (.inl q) → Q (.inl q)) (bench : ∀ q, D (.inr (.inl q)) → Q (.inr (.inl q)))
    (delivers : ∀ q, D (.inr (.inr q)) → (Delivery.direct q).Asks fun q => Q (.inr (.inr q))) :
    (measuring p).Asks Q := by
  apply h.translate
  rintro (q | q | q) here
  · exact .ask (control q here) fun _ => .done _
  · exact .ask (bench q here) fun _ => .done _
  · have inner : (Plan.translateRight Delivery.direct (.inr q)).Asks fun q => Q (.inr q) :=
      (delivers q here).translate fun _ here => .ask here fun _ => .done _
    exact inner.translate fun _ here => .ask here fun _ => .done _

end Questions

/-! ### Reading -/

/-- Nothing is run, and nothing that is stored is changed. -/
def OnlyReads : Serving.Question → Prop
  | .inr (.inr .connect) => True
  | .inr (.inr (.execute s)) => s.isWrite = false
  | _ => False

lemma asks_reading {s : Store.Statement} {read : Store.Reply → Except Store.Problem α}
    {f : α → Plan Store.Access (Except Store.Problem β)} (reads : s.isWrite = false)
    (h : ∀ a, (f a).Asks fun q => OnlyReads (.inr (.inr q))) :
    ((Store.asking s read).andThen f).Asks fun q => OnlyReads (.inr (.inr q)) :=
  (Store.asks_asking reads).andThen h

lemma asks_dashboard : dashboard.Asks fun q => OnlyReads (.inr (.inr q)) := by
  apply Store.asks_withConnection trivial
  apply Store.asks_telling
  exact asks_reading rfl fun _ => asks_reading rfl fun _ => asks_reading rfl fun _ =>
    asks_reading rfl fun _ => asks_reading rfl fun _ => asks_reading rfl fun _ =>
    asks_reading rfl fun _ => .done _

lemma asks_get (resource : Resource) : (respondTo rig r resource .get).Asks OnlyReads := by
  cases resource with
  | health | speedRun | round | hostRun => exact .done _
  | hosts =>
    rw [respondTo, listHosts]
    exact asks_orComplain fun _ _ => asks_report (asks_single trivial (Store.asks_asking rfl))
  | host written =>
    rw [respondTo, getHost]
    exact asks_orComplain fun _ _ => asks_report (asks_present trivial (Store.asks_asking rfl))
  | speedTests =>
    rw [respondTo, listSpeed]
    exact asks_orComplain fun _ _ => asks_report (asks_single trivial (Store.asks_asking rfl))
  | speedRange =>
    rw [respondTo, speedBetween]
    apply asks_orComplain
    intro _ _
    exact asks_orComplain fun _ _ => asks_report (asks_single trivial (Store.asks_asking rfl))
  | speedTest written =>
    rw [respondTo, getSpeed]
    exact asks_orComplain fun _ _ => asks_report (asks_present trivial (Store.asks_asking rfl))
  | throughputTests =>
    rw [respondTo, listThroughput]
    apply asks_orComplain
    intro q _
    cases q.category with
    | none => exact asks_report (asks_single trivial (Store.asks_asking rfl))
    | some category => exact asks_report (asks_single trivial (Store.asks_asking rfl))
  | throughputTest written =>
    rw [respondTo, getThroughput]
    exact asks_orComplain fun _ _ => asks_report (asks_present trivial (Store.asks_asking rfl))
  | dashboard =>
    rw [respondTo, getDashboard]
    exact asks_report (asks_stored asks_dashboard)

lemma onlyReads_respond (asked : Method.ofName? r.method = some .get ∨
    Method.ofName? r.method = some .head) : (respond rig r).Asks OnlyReads := by
  cases found : Resource.ofPath? r.path with
  | none =>
    rw [respond, found]
    exact .done _
  | some resource =>
    rcases asked with get | head
    · rw [respond_routed ⟨found, get⟩ (by decide)]
      exact asks_get resource
    · rcases respond_head rig ⟨found, head⟩ with eq | eq
      · rw [eq]
        exact .done _
      · rw [eq]
        exact (asks_get resource).bind fun _ => .done _

/-! ### Writing -/

/-- Only the store is asked, and what is written to it was checked. -/
def OnlyStores : Serving.Question → Prop
  | .inr (.inr q) => q.Checked
  | _ => False

lemma OnlyReads.onlyStores {q : Serving.Question} (h : OnlyReads q) : OnlyStores q := by
  rcases q with q | q | q
  · exact h
  · exact h
  · cases q with
    | connect => trivial
    | execute s =>
      have reads : s.isWrite = false := h
      cases s with
      | createHost | changeHost | deleteHost | createSpeed | deleteSpeed | createThroughput
      | deleteThroughput => cases reads
      | _ => trivial

/-- A resource by which something is measured. -/
def Resource.IsRun : Resource → Prop
  | .speedRun | .round | .hostRun _ => True
  | _ => False

lemma onlyStores_post {resource : Resource} (none : ¬resource.IsRun) :
    (respondTo rig r resource .post).Asks OnlyStores := by
  cases resource with
  | health | host | speedRange | speedTest | throughputTest | dashboard => exact .done _
  | hosts => exact asks_createHost trivial fun given checked => ⟨given, checked, rfl⟩
  | speedTests => exact asks_submitSpeed trivial fun _ checked => checked
  | throughputTests => exact asks_submitThroughput trivial fun s checked => ⟨s, checked, rfl⟩
  | speedRun | round | hostRun => exact absurd trivial none

/-- Unless something is measured, only the store is asked. -/
lemma onlyStores_respondTo (resource : Resource) (method : Method)
    (none : method = .post → ¬resource.IsRun) :
    (respondTo rig r resource method).Asks OnlyStores := by
  cases method with
  | get => exact (asks_get resource).mono fun _ => OnlyReads.onlyStores
  | head =>
    cases resource <;> exact .done _
  | post => exact onlyStores_post (none rfl)
  | patch =>
    cases resource with
    | host written =>
      rw [respondTo, changeHost]
      apply asks_orComplain
      intro _ _
      apply asks_orComplain
      intro change _
      apply asks_orComplain
      intro _ checked
      exact asks_report (asks_single trivial
        (Store.asks_asking ⟨change, mapError_eq_ok.mp checked, rfl⟩))
    | _ => exact .done _
  | delete =>
    cases resource with
    | host written =>
      rw [respondTo, deleteHost]
      exact asks_removed trivial fun _ => trivial
    | speedTest written =>
      rw [respondTo, deleteSpeed]
      exact asks_removed trivial fun _ => trivial
    | throughputTest written =>
      rw [respondTo, deleteThroughput]
      exact asks_removed trivial fun _ => trivial
    | _ => exact .done _

/-- Where something is written, it was checked. -/
def Admitted : Serving.Question → Prop
  | .inr (.inr q) => q.Checked
  | _ => True

lemma OnlyStores.admitted {q : Serving.Question} (h : OnlyStores q) : Admitted q := by
  rcases q with q | q | q
  · trivial
  · trivial
  · exact h

/-- Measurements are delivered through the check. -/
lemma admitted_measuring (p : Plan Measuring α) : (measuring p).Asks Admitted :=
  asks_measuring (.trivial p) (fun _ _ => trivial) (fun _ _ => trivial)
    fun q _ => Delivery.asks_direct q

lemma onlyStores_speedTest (id : Int64) : (speedTest id).Asks OnlyStores :=
  asks_present trivial (Store.asks_asking trivial)

lemma onlyStores_throughputTest (id : Int64) : (throughputTest id).Asks OnlyStores :=
  asks_present trivial (Store.asks_asking trivial)

lemma admitted_run {resource : Resource} (run : resource.IsRun) :
    (respondTo rig r resource .post).Asks Admitted := by
  cases resource with
  | speedRun =>
    rw [respondTo, runSpeed]
    exact asks_report ((admitted_measuring _).andThen fun id =>
      (onlyStores_speedTest id).mono fun _ => OnlyStores.admitted)
  | round =>
    rw [respondTo, runRound]
    apply asks_orComplain
    intro _ _
    apply asks_orComplain
    intro _ _
    exact (admitted_measuring _).bind fun _ => .done _
  | hostRun written =>
    rw [respondTo, runHost]
    apply asks_orComplain
    intro _ _
    apply asks_orComplain
    intro _ _
    apply asks_orComplain
    intro _ _
    exact asks_report ((admitted_measuring _).andThen fun found =>
      (onlyStores_throughputTest found.1).mono fun _ => OnlyStores.admitted)
  | _ => exact run.elim

lemma admitted_respondTo (resource : Resource) (method : Method) :
    (respondTo rig r resource method).Asks Admitted := by
  by_cases runs : method = .post ∧ resource.IsRun
  · obtain ⟨rfl, run⟩ := runs
    exact admitted_run run
  · refine (onlyStores_respondTo resource method ?_).mono fun _ => OnlyStores.admitted
    exact fun post run => runs ⟨post, run⟩

/-- Whatever is requested, what is written was checked. -/
lemma admitted_respond (rig : Rig) (r : Web.Request) : (respond rig r).Asks Admitted := by
  rw [respond]
  cases Resource.ofPath? r.path with
  | none => exact .done _
  | some resource =>
    cases Method.ofName? r.method with
    | none => exact .done _
    | some method =>
      cases method with
      | head =>
        simp only
        split
        · exact (admitted_respondTo resource .get).bind fun _ => .done _
        · exact .done _
      | get | post | patch | delete => exact admitted_respondTo resource _

end Service

end LinkGauge
