import LinkGauge.Host.Category
import LinkGauge.Store.Problem
import LinkGauge.Time.Span
import LinkGauge.Json.Scan

/-!
# Problems

Everything that can keep a measurement from being made or kept, how it is told to those who run
the service, and what of it clients may see.
-/

namespace LinkGauge

/-- Why something was not done. -/
inductive Problem where
  /-- A tool ran past its deadline and was killed. -/
  | timedOut (command : String) (deadline : Span)
  /-- A tool could not be started, was cancelled, or ended with a failure. -/
  | toolFailed (command detail : String) (stderr : Option String)
  /-- The output of a tool is no measurement. The output is kept. -/
  | unreadable (tool reason : String) (raw : Json.Bytes)
  /-- No active host of a category. A round skips the category. -/
  | noHosts (category : Category)
  /-- The remote service answered with another status than success. -/
  | rejected (status : Nat) (body : String)
  /-- The remote service cannot be reached; the last part tells the causes. -/
  | unreachable (endpoint : String) (causes : List String)
  /-- The database did not keep a measurement. -/
  | notStored (entity : String) (source : Store.Problem)
  | unknownHost (id : Int64)
  | notFound (resource id : String)
  | badRequest (message : String)
  | store (source : Store.Problem)
  /-- Anything else, told by a chain of messages from the outermost to the innermost. -/
  | other (message : String) (causes : List String)
  deriving DecidableEq, Repr

namespace Problem

/-- The problem as a message for those who run the service. -/
def message : Problem → String
  | .timedOut command deadline =>
    command ++ " timed out after " ++ toString deadline.seconds ++ "s"
  | .toolFailed command detail _ => command ++ " failed: " ++ detail
  | .unreadable tool reason _ => "failed to parse " ++ tool ++ " output: " ++ reason
  | .noHosts category => "no eligible " ++ category.name ++ " hosts"
  | .rejected status body =>
    "submission rejected with status " ++ toString status ++ ": " ++ body
  | .unreachable endpoint _ => "submission endpoint " ++ endpoint ++ " unreachable"
  | .notStored entity _ => "failed to persist " ++ entity
  | .unknownHost id => "host " ++ toString id.toInt ++ " not found"
  | .notFound resource id => resource ++ " with ID " ++ id ++ " not found"
  | .badRequest message => message
  | .store source => source.message
  | .other message _ => message

/-- The messages of what lies behind the problem, from the outermost to the innermost. -/
def causes : Problem → List String
  | .unreachable _ causes => causes
  | .notStored _ source => source.message :: source.causes
  | .store source => source.causes
  | .other _ causes => causes
  | _ => []

/-- The message with all that lies behind it. -/
def chain (p : Problem) : List String := p.message :: p.causes

/-- The message, with what a failed tool wrote to its error output. -/
def detail (p : Problem) : String :=
  match p with
  | .toolFailed _ _ (some stderr) => p.message ++ ": " ++ stderr
  | _ => p.message

/-- The output that could not be understood. -/
def rawOutput? : Problem → Option String
  | .unreadable _ _ raw => some (Utf8.decodeLossy raw)
  | _ => none

/-- The status of a response that reports the problem. -/
def status : Problem → Nat
  | .unknownHost _ | .notFound _ _ | .noHosts _ => 404
  | .badRequest _ => 400
  | .timedOut _ _ => 504
  | .toolFailed _ _ _ | .unreadable _ _ _ | .rejected _ _ | .unreachable _ _ => 502
  | .notStored _ source | .store source => source.status
  | .other _ _ => 500

/-- The problem as it is told to clients. Error output, raw output and what the database or
another service said stay inside. -/
def publicMessage (p : Problem) : String :=
  match p with
  | .unknownHost _ | .notFound _ _ | .badRequest _ | .noHosts _
  | .timedOut _ _ | .toolFailed _ _ _ | .unreadable _ _ _ => p.message
  | .notStored _ source | .store source => source.publicMessage
  | .rejected _ _ | .unreachable _ _ | .other _ _ => "Internal server error"

end Problem

end LinkGauge
