import LinkGauge.Proofs.Plans
import LinkGauge.Speed.Run
import LinkGauge.Throughput.Round

/-!
# What measuring asks

A property of the questions that speed runs, visits and rounds have of their own, and of those of
the tests they make, holds of everything they ask.
-/

namespace LinkGauge.Rig

variable {r : Rig} {Q : Measuring.Question → Prop} {duration : Span}

lemma asks_speed (runs : Q (.inr (.inl (.run r.speedCommand)))) (looks : Q (.inr (.inl .now)))
    (stores : ∀ s, Q (.inr (.inr (.speed s)))) : r.speed.Asks Q := by
  refine .andThen (.ask runs fun _ => .done _) ?_
  intro raw
  refine .bind (.ask looks fun _ => .done _) ?_
  intro now
  cases Speed.read raw r.testing.speedUnit now with
  | error p => exact .done _
  | ok reading => exact .ask (stores _) fun _ => .done _

/-- A test breaks off without a deadline. With one it runs the tool, looks at the clock, and submits
what came of it. -/
lemma asks_throughput (h : Host)
    (breaks : r.testing.deadline? duration = none → Q (.inl (.abort .deadlineTooLong)))
    (runs : ∀ deadline, r.testing.deadline? duration = some deadline →
      Q (.inr (.inl (.run (r.throughputCommand h duration deadline)))))
    (looks : Q (.inr (.inl .now)))
    (stores : ∀ now outcome,
      Q (.inr (.inr (.throughput (r.throughputSubmission h duration now outcome))))) :
    (r.throughput h duration).Asks Q := by
  have measures : (r.measure h duration).Asks Q := by
    rw [measure]
    split
    next beyond => exact .ask (breaks beyond) fun no => Empty.elim no
    next deadline fits => exact .bind (.ask (runs deadline fits) fun _ => .done _) fun _ => .done _
  refine measures.bind ?_
  intro outcome
  refine .bind (.ask looks fun _ => .done _) ?_
  intro now
  exact .bind (.ask (stores now outcome) fun _ => .done _) fun _ => .done _

variable (stop : Q (.inl .cancelled)) (draws : ∀ last, Q (.inr (.inl (.draw last))))
  (tests : ∀ h, (r.throughput h duration).Asks Q)

include draws in
lemma asks_selectHost (hosts : List Host) (category : Category) :
    (selectHost hosts category).Asks Q :=
  (Plan.Asks.trivial _).translate fun last _ => .ask (draws last) fun _ => .done _

include draws tests in
/-- A visit draws a host and tests it. -/
lemma asks_visit (hosts : List Host) (category : Category) :
    (r.visit hosts duration category).Asks Q := by
  refine .bind (asks_selectHost draws hosts category) fun
    | .error _ => .done _
    | .ok h => ?_
  refine .bind (tests h) fun
    | .ok _ => .done _
    | .error _ => .done _

include stop draws tests in
lemma asks_visits (hosts : List Host) (categories : List Category) :
    (r.visits hosts duration categories).Asks Q := by
  induction categories with
  | nil => exact .done _
  | cons category rest ih =>
    refine .bind (.ask stop fun _ => .done _) ?_
    intro stop
    split
    · exact .done _
    · exact .bind (asks_visit draws tests hosts category) fun _ => .bind ih fun _ => .done _

include stop draws tests in
/-- A round asks for the hosts, and then for what visits ask. -/
lemma asks_round (first : Q (.inr (.inr .hosts))) : (r.round duration).Asks Q := by
  refine .bind (.ask first fun _ => .done _) fun
    | .error _ => .done _
    | .ok hosts => asks_visits stop draws tests hosts _

end LinkGauge.Rig
