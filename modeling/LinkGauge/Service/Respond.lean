import LinkGauge.Delivery.Direct
import LinkGauge.Service.Dashboard
import LinkGauge.Service.Query
import LinkGauge.Speed.Run
import LinkGauge.Throughput.Round
import LinkGauge.Web.MediaType
import LinkGauge.Web.Message

/-!
# Responses of the service

Each request leads to a plan over the database and the bench. What is wrong with a request is found
before anything is asked of either.
-/

namespace LinkGauge.Service

/-- What the service has at hand besides the process itself. -/
abbrev Backstage : Interface := Bench.sum Store.Access

/-- What the service needs. -/
abbrev Serving : Interface := Control.sum Backstage

variable {α β : Type}

/-- A plan over the database. -/
def stored (p : Plan Store.Access α) : Plan Serving α :=
  p.translate fun q => .ask (.inr (.inr q)) .done

/-- Measuring with delivery into the database. -/
def measuring (p : Plan Measuring α) : Plan Serving α :=
  p.translate (Plan.translateRight (Plan.translateRight Delivery.direct))

/-! ### Parts of a request -/

/-- A complaint about a request. -/
def complaint (status : Nat) (message : String) : Web.Response := .text status message

/-- Go on with what was read, or answer with the complaint about it. -/
def orComplain (read : Except Web.Response α) (f : α → Plan Serving Web.Response) :
    Plan Serving Web.Response :=
  match read with
  | .ok a => f a
  | .error response => .done response

def pathId (name written : String) : Except Web.Response Int64 :=
  (readId name written).mapError (complaint 400)

def readQuery (d : Decoder α) (r : Web.Request) : Except Web.Response α :=
  (d (queryNode r.query)).mapError fun failure =>
    complaint 400 ("Failed to deserialize query string: " ++ failure.jsonText)

/-- The longest body that is read, in octets. -/
def maxBody : Nat := 2097152

/-- The complaint about a body that cannot be read. -/
def bodyComplaint (failure : Failure) : Web.Response :=
  if failure.cause.isMalformed then
    complaint 400 ("Failed to parse the request body as JSON: " ++ failure.jsonText)
  else
    complaint 422
      ("Failed to deserialize the JSON body into the target type: " ++ failure.jsonText)

/-- The body of a request that says it is JSON. -/
def readBody (d : Decoder α) (r : Web.Request) : Except Web.Response α :=
  if !(r.contentType.bind Web.MediaType.parse?).any Web.MediaType.isJson then
    .error (complaint 415 "Expected request with `Content-Type: application/json`")
  else if maxBody < r.body.length then
    .error (complaint 413 "Failed to buffer the request body: length limit exceeded")
  else (Json.read d r.body).mapError bodyComplaint

/-- What a rule of the program allows. -/
def allowed (answer : Except Problem α) : Except Web.Response α :=
  answer.mapError .ofProblem

/-! ### Answers -/

/-- Answer with what was found, or with the problem. -/
def report (status : Nat) (toJson : α → Json) (p : Plan Serving (Except Problem α)) :
    Plan Serving Web.Response :=
  p.bind fun
    | .ok a => .done (.json status (toJson a))
    | .error e => .done (.ofProblem e)

/-- Answer with nothing but success, or with the problem. -/
def reportDone (p : Plan Serving (Except Problem Unit)) : Plan Serving Web.Response :=
  p.bind fun
    | .ok () => .done (.bare 204)
    | .error e => .done (.ofProblem e)

/-- A plan over the database that needs a connection. -/
def connected (p : Plan Store.Access (Except Problem α)) : Plan Serving (Except Problem α) :=
  stored (Store.withConnection .store p)

/-- A single question to the database. -/
def single (p : Plan Store.Access (Except Store.Problem α)) : Plan Serving (Except Problem α) :=
  connected (Store.telling .store p)

/-- The problem of a resource that is not there. -/
def missing (resource : String) (id : Int64) : Problem :=
  .notFound resource (toString id.toInt)

/-- What is stored under a number must be there. -/
def present (resource : String) (id : Int64)
    (p : Plan Store.Access (Except Store.Problem (Option α))) : Plan Serving (Except Problem α) :=
  (single p).andThen fun
    | some a => .done (.ok a)
    | none => .done (.error (missing resource id))

/-- What is deleted must have been there. -/
def removed (resource : String) (id : Int64)
    (p : Plan Store.Access (Except Store.Problem Bool)) : Plan Serving (Except Problem Unit) :=
  (single p).andThen fun found =>
    .done (if found then .ok () else .error (missing resource id))

def listJson (toJson : α → Json) (items : List α) : Json := .list (items.map toJson)

/-! ### Hosts -/

def listHosts (r : Web.Request) : Plan Serving Web.Response :=
  orComplain (readQuery HostsQuery.decoder r) fun q =>
    report 200 (listJson Host.toJson) (single (Store.listHosts q.active q.category))

def createHost (r : Web.Request) : Plan Serving Web.Response :=
  orComplain (readBody Host.Registration.decoder r) fun registration =>
    orComplain (allowed registration.check) fun _ =>
      report 201 Host.toJson (single (Store.createHost registration.trimmed))

def getHost (written : String) : Plan Serving Web.Response :=
  orComplain (pathId "id" written) fun id =>
    report 200 Host.toJson (present "Host" id (Store.getHost id))

def changeHost (written : String) (r : Web.Request) : Plan Serving Web.Response :=
  orComplain (pathId "id" written) fun id =>
    orComplain (readBody Host.Change.decoder r) fun change =>
      orComplain (allowed change.check) fun _ =>
        report 200 Host.toJson (single (Store.changeHost id change.trimmed))

def deleteHost (written : String) : Plan Serving Web.Response :=
  orComplain (pathId "id" written) fun id =>
    reportDone (removed "Host" id (Store.delete (.deleteHost id)))

/-! ### Speed tests -/

def listSpeed (r : Web.Request) : Plan Serving Web.Response :=
  orComplain (readQuery ResultsQuery.decoder r) fun q =>
    report 200 (listJson Speed.Test.toJson)
      (single (Store.listSpeed (.recentSpeed (resultLimit q.limit))))

def submitSpeed (r : Web.Request) : Plan Serving Web.Response :=
  orComplain (readBody Speed.Submission.decoder r) fun s =>
    report 201 Speed.Test.toJson (stored (Store.keepSpeed s))

def speedBetween (r : Web.Request) : Plan Serving Web.Response :=
  orComplain (readQuery RangeQuery.decoder r) fun q =>
    orComplain (allowed (checkRange q.start q.stop)) fun _ =>
      report 200 (listJson Speed.Test.toJson)
        (single (Store.listSpeed (.speedBetween q.start q.stop)))

/-- The speed test under a number. -/
def speedTest (id : Int64) : Plan Serving (Except Problem Speed.Test) :=
  present "Speed test" id (Store.getSpeed id)

def getSpeed (written : String) : Plan Serving Web.Response :=
  orComplain (pathId "id" written) fun id => report 200 Speed.Test.toJson (speedTest id)

def deleteSpeed (written : String) : Plan Serving Web.Response :=
  orComplain (pathId "id" written) fun id =>
    reportDone (removed "Speed test" id (Store.delete (.deleteSpeed id)))

/-- Measure the speed and answer with what was stored. -/
def runSpeed (rig : Rig) : Plan Serving Web.Response :=
  report 201 Speed.Test.toJson ((measuring rig.speedNow).andThen speedTest)

/-! ### Throughput tests -/

def listThroughput (r : Web.Request) : Plan Serving Web.Response :=
  orComplain (readQuery ResultsQuery.decoder r) fun q =>
    let limit := resultLimit q.limit
    let statement := match q.category with
      | some category => .throughputOf category limit
      | none => .recentThroughput limit
    report 200 (listJson Throughput.Test.toJson) (single (Store.listThroughput statement))

def submitThroughput (r : Web.Request) : Plan Serving Web.Response :=
  orComplain (readBody Throughput.Submission.decoder r) fun s =>
    report 201 Throughput.Test.toJson (stored (Store.keepThroughput s))

/-- The throughput test under a number. -/
def throughputTest (id : Int64) : Plan Serving (Except Problem Throughput.Test) :=
  present "Throughput test" id (Store.getThroughput id)

def getThroughput (written : String) : Plan Serving Web.Response :=
  orComplain (pathId "id" written) fun id => report 200 Throughput.Test.toJson (throughputTest id)

def deleteThroughput (written : String) : Plan Serving Web.Response :=
  orComplain (pathId "id" written) fun id =>
    reportDone (removed "Throughput test" id (Store.delete (.deleteThroughput id)))

/-- Measure a host of each category and answer with what came of it. -/
def runRound (rig : Rig) (r : Web.Request) : Plan Serving Web.Response :=
  orComplain (readQuery RunQuery.decoder r) fun q =>
    orComplain (allowed (runDuration q.duration)) fun duration =>
      (measuring (rig.roundNow duration)).bind fun outcomes =>
        .done (.json 200 (.list (outcomes.map fun (category, o) => o.toJson category)))

/-- Measure a host and answer with what was stored. -/
def runHost (rig : Rig) (written : String) (r : Web.Request) : Plan Serving Web.Response :=
  orComplain (pathId "host_id" written) fun id =>
    orComplain (readQuery RunQuery.decoder r) fun q =>
      orComplain (allowed (runDuration q.duration)) fun duration =>
        report 201 Throughput.Test.toJson
          ((measuring (rig.throughputNow id duration)).andThen fun (test, _) =>
            throughputTest test)

/-! ### The dashboard -/

/-- All that the dashboard shows, over one connection. -/
def dashboard : Plan Store.Access (Except Problem Dashboard) :=
  Store.withConnection .store <| Store.telling .store <|
    (Store.listSpeed (.recentSpeed recentCount)).andThen fun recentSpeed =>
    (Store.listSpeed (.slowestSpeed slowestCount)).andThen fun slowestSpeed =>
    (Store.count .countSpeed).andThen fun speedTests =>
    (Store.listThroughput (.recentThroughput recentCount)).andThen fun recentThroughput =>
    (Store.listThroughput (.slowestThroughput slowestCount)).andThen fun slowestThroughput =>
    (Store.count .countThroughput).andThen fun throughputTests =>
    (Store.listHosts (some true) none).andThen fun hosts =>
      .done (.ok
        { recentSpeed, recentThroughput, slowestSpeed, slowestThroughput, hosts,
          statistics := .of speedTests throughputTests hosts.length recentSpeed })

def getDashboard : Plan Serving Web.Response :=
  report 200 Dashboard.toJson (stored dashboard)

/-! ### Routing -/

/-- The answer to a method that a resource does not take. -/
def notAllowed (resource : Resource) : Web.Response :=
  { Web.Response.bare 405 with allow := some resource.allow }

/-- Answer a request for a resource. -/
def respondTo (rig : Rig) (r : Web.Request) (resource : Resource) (method : Method) :
    Plan Serving Web.Response :=
  match resource, method with
  | .health, .get => .done (.text 200 "OK")
  | .hosts, .get => listHosts r
  | .hosts, .post => createHost r
  | .host id, .get => getHost id
  | .host id, .patch => changeHost id r
  | .host id, .delete => deleteHost id
  | .speedTests, .get => listSpeed r
  | .speedTests, .post => submitSpeed r
  | .speedRange, .get => speedBetween r
  | .speedTest id, .get => getSpeed id
  | .speedTest id, .delete => deleteSpeed id
  | .speedRun, .post => runSpeed rig
  | .throughputTests, .get => listThroughput r
  | .throughputTests, .post => submitThroughput r
  | .throughputTest id, .get => getThroughput id
  | .throughputTest id, .delete => deleteThroughput id
  | .round, .post => runRound rig r
  | .hostRun id, .post => runHost rig id r
  | .dashboard, .get => getDashboard
  | resource, _ => .done (notAllowed resource)

/-- Answer a request. -/
def respond (rig : Rig) (r : Web.Request) : Plan Serving Web.Response :=
  match Resource.ofPath? r.path with
  | none => .done (.bare 404)
  | some resource =>
    match Method.ofName? r.method with
    | none => .done (notAllowed resource)
    | some .head =>
      if .head ∈ resource.methods then
        (respondTo rig r resource .get).bind fun response => .done response.headOnly
      else .done (notAllowed resource)
    | some method => respondTo rig r resource method

end LinkGauge.Service
