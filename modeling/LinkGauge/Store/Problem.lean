/-!
# Problems of the store

What a database can answer instead of doing what it was asked.
-/

namespace LinkGauge.Store

/-- What the database tells about a violated constraint. -/
structure Violation where
  constraint : Option String
  table : Option String
  message : String
  deriving DecidableEq, Repr

/-- Why the database did not do what it was asked. -/
inductive Problem where
  | notFound
  | unique (v : Violation)
  | foreignKey (v : Violation)
  | check (v : Violation)
  /-- Anything else, told by a chain of messages from the outermost to the innermost. -/
  | other (message : String) (causes : List String)
  deriving DecidableEq, Repr

namespace Problem

/-- The problem as a message for those who run the service. -/
def message : Problem → String
  | .notFound => "Entity not found"
  | .unique _ => "Unique constraint violation"
  | .foreignKey _ => "Foreign key constraint violation"
  | .check _ => "Check constraint violation"
  | .other message _ => message

/-- The messages of what lies behind the problem. -/
def causes : Problem → List String
  | .other _ causes => causes
  | _ => []

/-- The problem as it is told to clients. -/
def publicMessage : Problem → String
  | .notFound => "Resource not found"
  | .unique _ => "Resource already exists"
  | .foreignKey _ => "Invalid reference to related resource"
  | .check _ => "Invalid data provided"
  | .other _ _ => "Database error occurred"

/-- The status of a response that reports the problem. -/
def status : Problem → Nat
  | .notFound => 404
  | .unique _ => 409
  | .foreignKey _ | .check _ => 400
  | .other _ _ => 500

/-- A connection was asked of a pool that is closed. -/
def poolClosed : Problem :=
  .other "attempted to acquire a connection on a closed pool" []

/-- No connection became free in time. -/
def poolTimedOut : Problem :=
  .other "pool timed out while waiting for an open connection" []

/-- The worker behind a connection is gone. -/
def workerCrashed : Problem :=
  .other "attempted to communicate with a crashed background worker" []

/-- The connection cannot be made or broke off; `reason` is what the system says. -/
def disconnected (reason : String) : Problem :=
  .other ("error communicating with database: " ++ reason) [reason]

/-- The problem that the database reports under a code, in words of its own. -/
def ofCode (code : String) (v : Violation) : Problem :=
  if code = "23505" then .unique v
  else if code = "23503" then .foreignKey v
  else if code = "23514" then .check v
  else .other ("error returned from database: " ++ v.message) [v.message]

end Problem

end LinkGauge.Store
