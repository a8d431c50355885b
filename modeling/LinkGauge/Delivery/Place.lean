import LinkGauge.Delivery.Direct
import LinkGauge.Delivery.Remote
import LinkGauge.Measurement.Bench

/-!
# Delivery to where the settings say

The database and the remote service side by side. Which of them results go to is a setting.
-/

namespace LinkGauge

/-- The database and the network. -/
abbrev Places : Interface := Store.Access.sum Web.Exchange

/-- Delivery to a destination. -/
def Delivery.into (d : Settings.Destination) (q : Delivery.Question) :
    Plan Places (Delivery.Answer q) :=
  match d with
  | .direct => (Delivery.direct q).translate fun (q : Store.Access.Question) => .ask (.inl q) .done
  | .remote r =>
    (Delivery.remote r q).translate fun (q : Web.Exchange.Question) => .ask (.inr q) .done

/-- What measuring with delivery needs. -/
abbrev Fieldwork : Interface := Control.sum (Bench.sum Places)

/-- Measure and deliver to a destination. -/
def Delivery.toward {α : Type} (d : Settings.Destination) (p : Plan Measuring α) :
    Plan Fieldwork α :=
  p.translate (Plan.translateRight (Plan.translateRight (Delivery.into d)))

end LinkGauge
