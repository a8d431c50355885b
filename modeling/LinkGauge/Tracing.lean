import LinkGauge.Environment.Basic
import LinkGauge.Text.Blank

/-!
# Export of traces

Traces can be exported over HTTP. Where to, and how, is said by the environment alone.
-/

namespace LinkGauge

inductive Encoding where
  | binary
  | json
  deriving DecidableEq, Repr

/-- The name of an encoding in the program's output. -/
def Encoding.name : Encoding → String
  | .binary => "HttpBinary"
  | .json => "HttpJson"

structure TraceExport where
  service : String
  endpoint : String
  encoding : Encoding
  /-- What is sent with every request, no name twice. -/
  headers : List (String × String)
  deriving DecidableEq, Repr

namespace TraceExport

/-! ### Headers -/

/-- Spaces that were written as `%20` are put back. -/
def spaced : List Char → List Char
  | '%' :: '2' :: '0' :: rest => ' ' :: spaced rest
  | c :: rest => c :: spaced rest
  | [] => []

/-- A header written as a name, an equals sign and a text. It must have a name. -/
def header? (cs : List Char) : Option (String × String) :=
  match cs.dropWhile (· ≠ '=') with
  | [] => none
  | _ :: value =>
    match trimChars (cs.takeWhile (· ≠ '=')) with
    | [] => none
    | name => some (String.ofList name, String.ofList (trimChars value))

/-- Headers with one more. It comes instead of one with the same name. -/
def putHeader (headers : List (String × String)) (h : String × String) : List (String × String) :=
  headers.filter (·.1 ≠ h.1) ++ [h]

/-- Headers separated by commas. What is no header does not count. -/
def readHeaders (s : String) : List (String × String) :=
  (((spaced s.toList).splitOn ',').filterMap header?).foldl putHeader []

/-! ### The environment -/

/-- The export that the environment describes. -/
def ofEnvironment (env : Environment) : TraceExport where
  service := (env.get? "OTEL_SERVICE_NAME").getD "speedctl"
  endpoint := (env.get? "OTEL_EXPORTER_OTLP_ENDPOINT").getD "http://localhost:4318"
  encoding :=
    if env.get? "OTEL_EXPORTER_OTLP_PROTOCOL" = some "http/json" then .json else .binary
  headers := readHeaders ((env.get? "OTEL_EXPORTER_OTLP_HEADERS").getD "")

/-- The line that announces an export. -/
def announcement (e : TraceExport) : String :=
  "[OTLP] service=" ++ e.service ++ " endpoint=" ++ e.endpoint ++ " protocol=" ++
    e.encoding.name ++ " headers=" ++ toString e.headers.length

end TraceExport

/-- What is announced when a process starts to trace. -/
def tracingAnnouncement (exporting : Bool) (env : Environment) : Option String :=
  if exporting then some (TraceExport.ofEnvironment env).announcement else none

end LinkGauge
