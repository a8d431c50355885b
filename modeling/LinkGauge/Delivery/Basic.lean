import LinkGauge.Host.Basic
import LinkGauge.Plan
import LinkGauge.Problem
import LinkGauge.Settings.Basic
import LinkGauge.Speed.Submission
import LinkGauge.Throughput.Submission

/-!
# Delivery

What measuring needs of the place where results go: the hosts to measure, and that results are
taken. The place is the database or a remote service; measuring does not know which.
-/

namespace LinkGauge

/-- What is asked of the place where results go. -/
inductive Delivery.Question where
  /-- The hosts that may be measured. -/
  | hosts
  /-- Take a speed test. The answer is its number. -/
  | speed (s : Speed.Submission)
  /-- Take a throughput test. The answer is its number. -/
  | throughput (s : Throughput.Submission)

/-- What the place where results go offers. -/
def Delivery : Interface where
  Question := Delivery.Question
  Answer
    | .hosts => Except Problem (List Host)
    | .speed _ => Except Problem Int64
    | .throughput _ => Except Problem Int64

/-- Whether results can go where the settings say; `connected` tells that there is a database. -/
def Delivery.ready (d : Settings.Destination) (connected : Bool) : Except String Unit :=
  if d.isDirect && !connected then .error "direct submission requires a database connection"
  else .ok ()

end LinkGauge
