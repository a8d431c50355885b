import LinkGauge.Decimal.Reading
import LinkGauge.Text.Percent
import LinkGauge.Text.Utf8
import LinkGauge.Word

/-!
# Routes

The paths of the service, and the methods that each of them takes.
-/

namespace LinkGauge.Service

/-- How a resource is treated. -/
inductive Method where
  | get
  | head
  | post
  | patch
  | delete
  deriving DecidableEq, Repr

namespace Method

def name : Method → String
  | .get => "GET"
  | .head => "HEAD"
  | .post => "POST"
  | .patch => "PATCH"
  | .delete => "DELETE"

def ofName? (s : String) : Option Method :=
  [get, head, post, patch, delete].find? fun m => m.name = s

end Method

/-- What the service has. Names in a path are kept as they are written. -/
inductive Resource where
  | health
  | hosts
  | host (id : String)
  | speedTests
  | speedRange
  | speedTest (id : String)
  | speedRun
  | throughputTests
  | throughputTest (id : String)
  | round
  | hostRun (id : String)
  | dashboard
  deriving DecidableEq, Repr

namespace Resource

/-- A resource with a name in its path, which is not empty. -/
def named? (make : String → Resource) (id : String) : Option Resource :=
  if id = "" then none else some (make id)

/-- The resource under segments. -/
def ofSegments? : List String → Option Resource
  | ["", "healthz"] => some .health
  | ["", "api", "v1", "hosts"] => some .hosts
  | ["", "api", "v1", "hosts", id] => named? .host id
  | ["", "api", "v1", "speedtest", "results"] => some .speedTests
  | ["", "api", "v1", "speedtest", "results", "range"] => some .speedRange
  | ["", "api", "v1", "speedtest", "results", id] => named? .speedTest id
  | ["", "api", "v1", "speedtest", "run"] => some .speedRun
  | ["", "api", "v1", "iperf", "results"] => some .throughputTests
  | ["", "api", "v1", "iperf", "results", id] => named? .throughputTest id
  | ["", "api", "v1", "iperf", "run"] => some .round
  | ["", "api", "v1", "iperf", "run", id] => named? .hostRun id
  | ["", "api", "v1", "dashboard"] => some .dashboard
  | _ => none

def ofPath? (path : String) : Option Resource :=
  ofSegments? ((path.toList.splitOn '/').map String.ofList)

/-- The methods that a resource takes, as they are listed for clients. -/
def methods : Resource → List Method
  | .health | .speedRange | .dashboard => [.get, .head]
  | .hosts | .speedTests | .throughputTests => [.get, .head, .post]
  | .host _ => [.get, .head, .patch, .delete]
  | .speedTest _ | .throughputTest _ => [.get, .head, .delete]
  | .speedRun | .round | .hostRun _ => [.post]

/-- The methods as one text. -/
def allow (r : Resource) : String := String.intercalate "," (r.methods.map Method.name)

end Resource

/-! ### Numbers in paths -/

/-- The number in a path, called `name` in complaints. -/
def readId (name written : String) : Except String Int64 :=
  match Utf8.decode? (Percent.decodeBytes (Utf8.encode written)) with
  | none => .error ("Invalid URL: Invalid UTF-8 in `" ++ name ++ "`")
  | some text =>
    match Decimal.integer? text.toList with
    | some n =>
      if Word.isInt64 n then .ok (Int64.ofInt n)
      else .error ("Invalid URL: Cannot parse `" ++ text ++ "` to a `i64`")
    | none => .error ("Invalid URL: Cannot parse `" ++ text ++ "` to a `i64`")

end LinkGauge.Service
