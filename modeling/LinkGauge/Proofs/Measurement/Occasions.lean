import LinkGauge.Daemon.Machine
import LinkGauge.Proofs.Service.Admission
import LinkGauge.Proofs.Throughput.Rounds
import LinkGauge.Trial.Basic

/-!
# Occasions to measure

Something is measured because a schedule is due, because a client asks for it, or as a trial. What
holds of all that throughput tests ask, at the lengths that an occasion can give them, holds of all
that is asked on that occasion.
-/

namespace LinkGauge

open Daemon (Schedule Source)

/-- What a process with these settings measures with. -/
def Settings.rig (s : Settings) (id : DaemonId) : Rig := ⟨s.testing, s.tools, id⟩

/-- The questions that come up beside those of throughput tests. -/
structure Rig.Allows (r : Rig) (Q : Measuring.Question → Prop) : Prop where
  cancelled : Q (.inl .cancelled)
  takeSlot : Q (.inl .takeSlot)
  mayTakeSlot : Q (.inl .takeSlotUnlessCancelled)
  freeSlot : Q (.inl .freeSlot)
  now : Q (.inr (.inl .now))
  draw : ∀ last, Q (.inr (.inl (.draw last)))
  speedRun : Q (.inr (.inl (.run r.speedCommand)))
  hosts : Q (.inr (.inr .hosts))
  speed : ∀ s, Q (.inr (.inr (.speed s)))

/-- Throughput tests of a length ask nothing else. -/
def Rig.TestsAsk (r : Rig) (Q : Measuring.Question → Prop) (duration : Span) : Prop :=
  ∀ h, (r.throughput h duration).Asks Q

namespace Rig.Allows

variable {r : Rig} {Q : Measuring.Question → Prop} {α : Type} {duration : Span}
  {given : Option Span}

section

variable (allows : r.Allows Q)

include allows

/-! ### Runs -/

lemma asks_withSlot {p : Plan Measuring α} (h : p.Asks Q) : (Measuring.withSlot p).Asks Q :=
  .ask allows.takeSlot fun _ => h.bind fun _ => .ask allows.freeSlot fun _ => .done _

lemma asks_withSlotUnlessCancelled {p : Plan Measuring Unit} (h : p.Asks Q) :
    (Measuring.withSlotUnlessCancelled p).Asks Q := by
  refine .ask allows.mayTakeSlot ?_
  rintro (_ | _)
  · exact .done _
  · exact h.bind fun _ => .ask allows.freeSlot fun _ => .done _

lemma asks_speed : r.speed.Asks Q := Rig.asks_speed allows.speedRun allows.now allows.speed

lemma asks_round (tests : r.TestsAsk Q duration) : (r.round duration).Asks Q :=
  Rig.asks_round allows.cancelled allows.draw tests allows.hosts

lemma asks_roundNow (tests : r.TestsAsk Q (r.durationOr given)) : (r.roundNow given).Asks Q :=
  allows.asks_withSlot (allows.asks_round tests)

lemma asks_throughputNow (id : Int64) (tests : r.TestsAsk Q (r.durationOr given)) :
    (r.throughputNow id given).Asks Q := by
  refine .andThen (.ask allows.hosts fun _ => .done _) ?_
  intro hosts
  rw [throughputAmong]
  split
  · exact .done _
  · exact allows.asks_withSlot (tests _)

/-! ### Schedules and trials -/

/-- What the daemon does by schedule. -/
lemma asks_tick (tests : r.TestsAsk Q r.testing.throughputDuration) (k : Schedule) (n : ℕ) :
    ((Source.tick k n).plan r).Asks Q := by
  apply allows.asks_withSlotUnlessCancelled
  cases k with
  | speed => exact allows.asks_speed.bind fun _ => .done _
  | throughput => exact (allows.asks_round tests).bind fun _ => .done _

lemma asks_trial {host : Option Int64} {seconds : Option UInt64}
    (tests : r.TestsAsk Q (r.durationOr (seconds.map .ofSeconds))) :
    (r.trial (.throughput host seconds)).Asks Q := by
  cases host with
  | none => exact (allows.asks_roundNow tests).bind fun _ => .done _
  | some id => exact (allows.asks_throughputNow id tests).bind fun _ => .done _

end

end Rig.Allows

/-! ### Requests -/

namespace Service

variable {rig : Rig} {r : Web.Request} {Q : Measuring.Question → Prop}

/-- All that is measured for a response is measured by a plan that asks nothing but `Q`. -/
def MeasuresBy (Q : Measuring.Question → Prop) (plan : Plan Serving Web.Response) : Prop :=
  ∃ (α : Type) (p : Plan Measuring α) (next : α → Plan Serving Web.Response),
    plan = (measuring p).bind next ∧ p.Asks Q ∧ ∀ a, (next a).Asks OnlyStores

/-- A length that a request gives to tests, or that it gives none. -/
def Gives (r : Web.Request) (given : Option Span) : Prop :=
  ∃ q, RunQuery.decoder (queryNode r.query) = .ok q ∧ runDuration q.duration = .ok given

/-- A request gives at least a second and at most five minutes. -/
lemma Gives.seconds {duration : Span} (h : Gives r (some duration)) :
    ∃ seconds : UInt64, 1 ≤ seconds ∧ seconds ≤ 300 ∧ duration = .ofSeconds seconds := by
  obtain ⟨⟨asked⟩, -, given⟩ := h
  cases asked with
  | none => cases given
  | some seconds =>
    simp only [runDuration] at given
    split at given
    next fits =>
      cases given
      exact ⟨seconds, fits.1, fits.2, rfl⟩
    next => cases given

lemma measuresBy_onlyStores {plan : Plan Serving Web.Response} (h : plan.Asks OnlyStores) :
    MeasuresBy Q plan := ⟨Unit, .done (), fun _ => plan, rfl, .done _, fun _ => h⟩

lemma measuresBy_orComplain {α : Type} {read : Except Web.Response α}
    {f : α → Plan Serving Web.Response} (h : ∀ a, read = .ok a → MeasuresBy Q (f a)) :
    MeasuresBy Q (orComplain read f) := by
  cases read with
  | ok a => exact h a rfl
  | error response => exact measuresBy_onlyStores (.done _)

lemma measuresBy_report {α β : Type} {status : ℕ} {toJson : β → Json}
    {p : Plan Measuring (Except Problem α)} {f : α → Plan Serving (Except Problem β)}
    (asks : p.Asks Q) (shows : ∀ a, (f a).Asks OnlyStores) :
    MeasuresBy Q (report status toJson ((measuring p).andThen f)) := by
  refine ⟨_, p, _, Plan.bind_assoc _ _ _, asks, ?_⟩
  rintro (e | a)
  · exact .done _
  · exact asks_report (shows a)

variable (allows : rig.Allows Q)
  (tests : ∀ given, Gives r given → rig.TestsAsk Q (rig.durationOr given))

include allows tests

lemma measuresBy_run {resource : Resource} (run : resource.IsRun) :
    MeasuresBy Q (respondTo rig r resource .post) := by
  cases resource with
  | speedRun =>
    exact measuresBy_report (allows.asks_withSlot allows.asks_speed) onlyStores_speedTest
  | round =>
    rw [respondTo, runRound]
    apply measuresBy_orComplain
    intro q read
    apply measuresBy_orComplain
    intro given ran
    have gives : Gives r given := ⟨q, mapError_eq_ok.mp read, mapError_eq_ok.mp ran⟩
    exact ⟨_, _, _, rfl, allows.asks_roundNow (tests given gives), fun _ => .done _⟩
  | hostRun written =>
    rw [respondTo, runHost]
    apply measuresBy_orComplain
    intro id _
    apply measuresBy_orComplain
    intro q read
    apply measuresBy_orComplain
    intro given ran
    have gives : Gives r given := ⟨q, mapError_eq_ok.mp read, mapError_eq_ok.mp ran⟩
    exact measuresBy_report (allows.asks_throughputNow id (tests given gives))
      fun found => onlyStores_throughputTest found.1
  | _ => exact run.elim

/-- Whatever is requested, tests take the length that the request gives, or that of the settings if
it gives none. -/
lemma measuresBy_respond : MeasuresBy Q (respond rig r) := by
  rw [respond]
  cases Resource.ofPath? r.path with
  | none => exact measuresBy_onlyStores (.done _)
  | some resource =>
    cases Method.ofName? r.method with
    | none => exact measuresBy_onlyStores (.done _)
    | some method =>
      cases method with
      | head =>
        simp only
        split
        · exact measuresBy_onlyStores
            ((onlyStores_respondTo resource .get (absurd · (by decide))).bind fun _ => .done _)
        · exact measuresBy_onlyStores (.done _)
      | post =>
        by_cases run : resource.IsRun
        · exact measuresBy_run allows tests run
        · exact measuresBy_onlyStores (onlyStores_post run)
      | get | patch | delete =>
        exact measuresBy_onlyStores (onlyStores_respondTo resource _ (absurd · (by decide)))

end Service

end LinkGauge
