import LinkGauge.Delivery.Basic
import LinkGauge.Store.Access

/-!
# Delivery into the store

Results go straight into the database. They are checked before a connection is taken, and a
throughput test of a host that is not there is refused as such.
-/

namespace LinkGauge.Store

/-- Go on with a connection. `fail` tells what it means not to have one. -/
def withConnection {α : Type} (fail : Problem → LinkGauge.Problem)
    (p : Plan Access (Except LinkGauge.Problem α)) : Plan Access (Except LinkGauge.Problem α) :=
  connect.bind fun
    | .ok () => p
    | .error e => .done (.error (fail e))

/-- Tell problems of the store in terms of what was to be done. -/
def telling {α : Type} (fail : Problem → LinkGauge.Problem)
    (p : Plan Access (Except Problem α)) : Plan Access (Except LinkGauge.Problem α) :=
  p.bind fun answer => .done (answer.mapError fail)

/-- Check and store a speed test. -/
def keepSpeed (s : Speed.Submission) : Plan Access (Except LinkGauge.Problem Speed.Test) :=
  match s.check with
  | .error p => .done (.error p)
  | .ok () =>
    withConnection (.notStored "speed test")
      (telling (.notStored "speed test") (createSpeed s))

/-- What it means that a throughput test was not stored. -/
def throughputProblem (host : Int64) : Problem → LinkGauge.Problem
  | .foreignKey _ => .unknownHost host
  | e => .notStored "throughput test" e

/-- Check and store a throughput test. -/
def keepThroughput (s : Throughput.Submission) :
    Plan Access (Except LinkGauge.Problem Throughput.Test) :=
  match s.check with
  | .error p => .done (.error p)
  | .ok () =>
    withConnection (.notStored "throughput test")
      (telling (throughputProblem s.hostId) (createThroughput (.ofSubmission s)))

end LinkGauge.Store

namespace LinkGauge.Delivery

/-- Delivery into the database. -/
def direct : (q : Delivery.Question) → Plan Store.Access (Delivery.Answer q)
  | .hosts => Store.withConnection .store (Store.telling .store (Store.listHosts (some true) none))
  | .speed s => (Store.keepSpeed s).bind fun answer => .done (answer.map (·.id))
  | .throughput s => (Store.keepThroughput s).bind fun answer => .done (answer.map (·.id))

end LinkGauge.Delivery
