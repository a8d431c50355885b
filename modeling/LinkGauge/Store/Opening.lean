import LinkGauge.Plan
import LinkGauge.Settings.Basic
import LinkGauge.Store.Migration
import LinkGauge.Url.Parse

/-!
# Opening the store

Before the database is used, the program connects to it and brings it to the shape it expects.
-/

namespace LinkGauge.Store

/-- What is asked to open the database. -/
inductive Opening.Question where
  /-- Connect to an address. -/
  | connect (d : Settings.Database) (address : String)
  /-- Take a step, unless it was taken before. -/
  | migrate (m : Migration)

/-- What it takes to open the database. What fails tells why, from the outermost cause to the
innermost. -/
def Opening : Interface where
  Question := Opening.Question
  Answer _ := Except (List String) Unit

/-- Why the database is not open. -/
inductive Opening.Failure where
  | noAddress
  | unconnected (causes : List String)
  | unmigrated (causes : List String)
  deriving DecidableEq, Repr

/-- The messages of a failure, from the outermost to the innermost. -/
def Opening.Failure.chain : Opening.Failure → List String
  | .noAddress => ["database URL is required for direct submission or the ingest API"]
  | .unconnected causes => "Failed to connect to database" :: causes
  | .unmigrated causes => "Failed to run database migrations" :: causes

/-- The causes of a failure at an address that is none. -/
def notAnAddress (fault : Url.Fault) : List String :=
  ["error with configuration: " ++ fault.message, fault.message]

/-- Connect to an address, which must be a URL. -/
def connectTo (d : Settings.Database) (address : String) :
    Plan Opening (Except Opening.Failure Unit) :=
  match Url.parse address with
  | .error fault => .done (.error (.unconnected (notAnAddress fault)))
  | .ok _ =>
    .ask (.connect d address) fun (answer : Except (List String) Unit) =>
      .done (answer.mapError .unconnected)

/-- Take steps one after the other. -/
def migrateAll : List Migration → Plan Opening (Except Opening.Failure Unit)
  | [] => .done (.ok ())
  | m :: rest =>
    .ask (.migrate m) fun (answer : Except (List String) Unit) =>
      match answer with
      | .ok () => migrateAll rest
      | .error causes => .done (.error (.unmigrated causes))

/-- Connect to the database and take all steps. -/
def establish (d : Settings.Database) : Plan Opening (Except Opening.Failure Unit) :=
  match d.url with
  | none => .done (.error .noAddress)
  | some address => (connectTo d address).andThen fun () => migrateAll migrations

end LinkGauge.Store
