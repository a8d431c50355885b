import LinkGauge.Host.Basic
import LinkGauge.Plan
import LinkGauge.Problem

/-!
# Choice of a host

A round measures one active host of each category. All of them are equally likely: a number is
drawn, and it tells the position among them.
-/

namespace LinkGauge.Host

/-- The host may be measured in a category. -/
def isEligible (category : Category) (h : Host) : Bool :=
  h.active && h.category == category

/-- The hosts that may be measured in a category. -/
def eligible (hosts : List Host) (category : Category) : List Host :=
  hosts.filter (isEligible category)

/-- Draws of a position in a list that is not empty, given by the last position. -/
def Draws : Interface where
  Question := Nat
  Answer := fun last => Fin (last + 1)

/-- Draw one of the eligible hosts. -/
def select (hosts : List Host) (category : Category) : Plan Draws (Except Problem Host) :=
  match eligible hosts category with
  | [] => .done (.error (.noHosts category))
  | first :: others =>
    .ask others.length fun (draw : Fin (others.length + 1)) => .done (.ok ((first :: others).get draw))

end LinkGauge.Host
