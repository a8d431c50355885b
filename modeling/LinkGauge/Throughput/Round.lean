import LinkGauge.Host.Selection
import LinkGauge.Throughput.Run

/-!
# Rounds

A round asks for the hosts once and visits the categories in order, measuring one drawn host of
each. What goes wrong in one category stays there. A cancelled round visits no further category.
-/

namespace LinkGauge

/-- What came of a category. -/
inductive Outcome where
  | recorded (host test : Int64) (success : Bool)
  /-- There was no host to measure. -/
  | skipped
  | notSubmitted (p : Problem)

/-- What a client is told of a category. -/
def Outcome.toJson (category : Category) (o : Outcome) : Json :=
  .object (("category", category.toJson) ::
    match o with
    | .recorded host test success =>
      [ ("status", .text "recorded"), ("host_id", .int64 host), ("test_id", .int64 test),
        ("success", .bool success) ]
    | .skipped => [("status", .text "skipped")]
    | .notSubmitted p => [("status", .text "submit_failed"), ("error", .text p.publicMessage)])

namespace Rig

/-- Draw a host of a category. -/
def selectHost (hosts : List Host) (category : Category) :
    Plan Measuring (Except Problem Host) :=
  (Host.select hosts category).translate fun (last : Nat) => Measuring.draw last

/-- Measure a host of a category, if there is one. -/
def visit (r : Rig) (hosts : List Host) (duration : Span) (category : Category) :
    Plan Measuring Outcome :=
  (selectHost hosts category).bind fun
    | .error _ => .done .skipped
    | .ok h =>
      (r.throughput h duration).bind fun
        | .ok (test, success) => .done (.recorded h.id test success)
        | .error p => .done (.notSubmitted p)

/-- Visit categories until the process is to stop. -/
def visits (r : Rig) (hosts : List Host) (duration : Span) :
    List Category → Plan Measuring (List (Category × Outcome))
  | [] => .done []
  | category :: rest =>
    Measuring.cancelled.bind fun stop =>
      if stop then .done []
      else
        (r.visit hosts duration category).bind fun outcome =>
          (r.visits hosts duration rest).bind fun outcomes =>
            .done ((category, outcome) :: outcomes)

/-- Visit all categories. Without hosts to choose from nothing is visited. -/
def round (r : Rig) (duration : Span) : Plan Measuring (List (Category × Outcome)) :=
  Measuring.hosts.bind fun
    | .error _ => .done []
    | .ok hosts => r.visits hosts duration Category.all

/-- `round`, once there is a slot. -/
def roundNow (r : Rig) (duration : Option Span) : Plan Measuring (List (Category × Outcome)) :=
  Measuring.withSlot (r.round (r.durationOr duration))

end Rig

end LinkGauge
