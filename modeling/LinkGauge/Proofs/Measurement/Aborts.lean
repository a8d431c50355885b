import LinkGauge.Proofs.Measurement.Occasions
import LinkGauge.Proofs.Settings.Acceptance
import LinkGauge.Startup
import LinkGauge.Tool.Watch
import LinkGauge.Trial.Session

/-!
# What breaks a process off

Accepted settings leave three ways to break off: more slots than there can be, a deadline that is
beyond every span because what a test gets on top of its length is so long, and a deadline that is
later than the clock can tell.
-/

namespace LinkGauge

open Daemon (Schedule Source)

/-- Anything but to break off, or to run a tool whose deadline is later than the clock can tell. -/
def GoesOn : Measuring.Question → Prop
  | .inl (.abort _) => False
  | .inr (.inl (.run c)) => ∃ w, Tool.watch c = .ok w
  | _ => True

/-! ### Deadlines -/

lemma Tool.exists_watch {c : Command} (told : c.deadline.seconds < Word.half64) :
    ∃ w, watch c = .ok w := ⟨_, if_pos told⟩

namespace Settings.Testing

variable {t : Testing} {duration : Span}

/-- A test of the length has a deadline: the length with the grace is a span. -/
def Fits (t : Testing) (duration : Span) : Prop :=
  duration.nanos + t.throughputGrace.nanos < Word.size64 * nanosPerSecond

instance : Decidable (t.Fits duration) := inferInstanceAs (Decidable (_ < _))

/-- The clock can tell the deadline of a test of the length. -/
def Reaches (t : Testing) (duration : Span) : Prop :=
  duration.nanos + t.throughputGrace.nanos < Word.half64 * nanosPerSecond

instance : Decidable (t.Reaches duration) := inferInstanceAs (Decidable (_ < _))

lemma Fits.deadline (fits : t.Fits duration) : ∃ deadline, t.deadline? duration = some deadline ∧
    deadline.nanos = duration.nanos + t.throughputGrace.nanos :=
  ⟨_, dif_pos fits, rfl⟩

lemma deadline?_eq_none : t.deadline? duration = none ↔ ¬t.Fits duration := by
  constructor
  · intro none fits
    obtain ⟨deadline, some, -⟩ := fits.deadline
    cases none.symm.trans some
  · intro beyond
    exact dif_neg beyond

lemma Fits.mono {long short : Span} (fits : t.Fits long) (shorter : short.nanos ≤ long.nanos) :
    t.Fits short := by
  rw [Fits] at *
  omega

lemma Reaches.mono {long short : Span} (reaches : t.Reaches long)
    (shorter : short.nanos ≤ long.nanos) : t.Reaches short := by
  rw [Reaches] at *
  omega

lemma Reaches.fits (reaches : t.Reaches duration) : t.Fits duration := by
  rw [Reaches] at reaches
  rw [Fits]
  exact reaches.trans (by decide)

lemma Reaches.seconds_lt (reaches : t.Reaches duration) {deadline : Span}
    (some : t.deadline? duration = some deadline) : deadline.seconds < Word.half64 := by
  obtain ⟨deadline', some', sum⟩ := reaches.fits.deadline
  obtain rfl := Option.some.inj (some.symm.trans some')
  rw [Span.seconds, Nat.div_lt_iff_lt_mul (by decide), sum]
  exact reaches

/-- Slots and deadlines are such that nothing breaks off. -/
structure Modest (t : Testing) : Prop where
  slots : t.maxConcurrentRuns.toNat ≤ maxSlots
  speed : t.speedTimeout.seconds < Word.half64
  own : t.Reaches t.throughputDuration
  /-- The longest test that a request can ask for. -/
  given : t.Reaches (.ofSeconds 300)

end Settings.Testing

namespace Rig

variable {r : Rig} {duration : Span}

lemma allows_goesOn (told : r.testing.speedTimeout.seconds < Word.half64) : r.Allows GoesOn where
  cancelled := trivial
  takeSlot := trivial
  mayTakeSlot := trivial
  freeSlot := trivial
  now := trivial
  draw _ := trivial
  speedRun := Tool.exists_watch told
  hosts := trivial
  speed _ := trivial

lemma testsAsk_goesOn (reaches : r.testing.Reaches duration) : r.TestsAsk GoesOn duration := by
  intro h
  refine asks_throughput h ?_ ?_ trivial fun _ _ => trivial
  · intro beyond
    exact Settings.Testing.deadline?_eq_none.mp beyond reaches.fits
  · intro deadline some
    exact Tool.exists_watch (reaches.seconds_lt some)

/-- The clock reaches for lengths of up to five minutes, and for that of the settings. -/
lemma reaches_durationOr (modest : r.testing.Modest) (seconds : Option UInt64)
    (few : ∀ n ∈ seconds, n ≤ 300) : r.testing.Reaches (r.durationOr (seconds.map .ofSeconds)) := by
  cases seconds with
  | none => exact modest.own
  | some n =>
    refine modest.given.mono ?_
    have le : n.toNat ≤ 300 := UInt64.le_iff_toNat_le.mp (few n rfl)
    exact Nat.mul_le_mul_right nanosPerSecond le

/-- Without a deadline a test is over before it begins. -/
lemma throughput_of_not_fits (beyond : ¬r.testing.Fits duration) (h : Host) :
    ∃ next, r.throughput h duration = .ask (.inl (.abort .deadlineTooLong)) next := by
  rw [throughput, measure, Settings.Testing.deadline?_eq_none.mpr beyond]
  exact ⟨_, rfl⟩

lemma check_eq (r : Rig) : r.check =
    if r.testing.maxConcurrentRuns.toNat ≤ maxSlots then .ok () else .error .tooManySlots := by
  have one : 1 ≤ maxSlots := by decide
  have fits : r.testing.slots ≤ maxSlots ↔ r.testing.maxConcurrentRuns.toNat ≤ maxSlots := by
    simp only [Settings.Testing.slots, Nat.max_le, one, true_and]
  simp only [check, fits]

end Rig

/-! ### Starting -/

/-- A daemon has time between its runs. -/
lemma Daemon.start_eq {s : Settings} (accepted : s.check = .ok ()) (runs : s.daemon)
    (id : DaemonId) : Daemon.start (s.rig id) = (s.rig id).check.map fun _ => fresh (s.rig id) := by
  have ready := (Settings.check_eq_ok.mp accepted).daemon runs
  have intervals : ((s.rig id).testing.speedInterval.isZero ||
      (s.rig id).testing.throughputInterval.isZero) = false := by
    simp only [Settings.rig, ready.speedInterval, ready.throughputInterval, Bool.or_self]
  rw [start]
  cases (s.rig id).check with
  | error reason => rfl
  | ok _ =>
    rw [ok_bind, intervals]
    rfl

namespace Startup

variable {s : Settings}

/-- A process that starts consists of what is set. -/
def parts (s : Settings) (id : DaemonId) : Parts where
  rig := s.rig id
  daemon := s.daemon
  service := s.service
  sharedSlots := s.daemon && s.service && s.destination.isDirect

/-- Nothing but the slots keeps parts from being put together, with a database if they need one. -/
lemma assemble_needsDatabase (accepted : s.check = .ok ()) (id : DaemonId) :
    assemble s id s.needsDatabase =
      ((s.rig id).check.mapError .abort).map fun _ => parts s id := by
  have something : (s.daemon || s.service) = true := by
    simpa using (Settings.check_eq_ok.mp accepted).runs
  have delivers (runs : s.daemon) : Delivery.ready s.destination s.needsDatabase = .ok () := by
    have direct : (s.destination.isDirect && !s.needsDatabase) = false := by
      cases direct : s.destination.isDirect with
      | false => rfl
      | true => simp [Settings.needsDatabase, runs, direct]
    rw [Delivery.ready, direct]
    rfl
  have served : (s.service && s.needsDatabase) = s.service := by
    cases service : s.service <;> simp [Settings.needsDatabase, service]
  rw [assemble, something, served, parts, ← Settings.rig]
  cases daemon : s.daemon with
  | false => cases (s.rig id).check <;> rfl
  | true =>
    rw [delivers daemon]
    cases (s.rig id).check <;> rfl

/-- A process does not start if the database does not, or if there are too many slots. -/
lemma start_yields (accepted : s.check = .ok ()) (id : DaemonId) :
    (start s id).Yields fun answer => (∃ f, answer = .error (.store f)) ∨
      answer = ((s.rig id).check.mapError .abort).map fun _ => parts s id := by
  have assembled := assemble_needsDatabase accepted id
  rw [start]
  cases needs : s.needsDatabase with
  | false =>
    rw [needs] at assembled
    exact .done (.inr assembled)
  | true =>
    rw [needs] at assembled
    refine (Plan.Yields.trivial _).bind ?_
    rintro (f | _) -
    · exact .done (.inl ⟨f, rfl⟩)
    · exact .done (.inr assembled)

end Startup

/-! ### Trials -/

namespace Trial

variable {α : Type}

/-- The same for all that a process with a trial asks. -/
def GoesOn : World.Question → Prop
  | .inr (.inl (.abort _)) => False
  | .inr (.inr (.inl (.run c))) => ∃ w, Tool.watch c = .ok w
  | _ => True

lemma asks_opening (p : Plan Store.Opening α) : (opening p).Asks GoesOn :=
  (Plan.Asks.trivial p).translate fun _ _ => .ask trivial fun _ => .done _

/-- Deliveries do not break off. -/
lemma asks_fieldwork (d : Settings.Destination) {p : Plan Measuring α}
    (h : p.Asks LinkGauge.GoesOn) : (fieldwork (Delivery.toward d p)).Asks GoesOn := by
  have toward : (Delivery.toward d p).Asks fun q => GoesOn (.inr q) := by
    apply h.translate
    rintro (control | bench | delivery) goesOn
    · refine .ask ?_ fun _ => .done _
      cases control with
      | abort => exact goesOn
      | cancelled | takeSlot | takeSlotUnlessCancelled | freeSlot => trivial
    · refine .ask ?_ fun _ => .done _
      cases bench with
      | run => exact goesOn
      | now | draw => trivial
    · have delivers : (Plan.translateRight (Delivery.into d) (.inr delivery)).Asks
          fun q => GoesOn (.inr (.inr q)) :=
        (Plan.Asks.trivial _).translate fun _ _ => .ask trivial fun _ => .done _
      exact delivers.translate fun _ goesOn => .ask goesOn fun _ => .done _
  exact toward.translate fun _ goesOn => .ask goesOn fun _ => .done _

lemma asks_prepare (s : Settings) : (prepare s).Asks GoesOn := by
  rw [prepare]
  split
  · exact (asks_opening _).bind fun _ => .done _
  · exact .done _

/-- A session breaks off with the trial, or because of the slots. -/
lemma asks_session {s : Settings} {id : DaemonId} {t : Trial} (slots : (s.rig id).check = .ok ())
    (trial : ((s.rig id).trial t).Asks LinkGauge.GoesOn) : (session s id t).Asks GoesOn := by
  apply (asks_prepare s).andThen
  intro _
  have check : Rig.check ⟨s.testing, s.tools, id⟩ = .ok () := slots
  simp only [check]
  exact (asks_fieldwork s.destination trial).bind fun _ => .done _

end Trial

/-! ### All together -/

/-- Accepted settings break off only at extremes. Whether a process and its daemon start depends on
the slots, and whether a test has a deadline depends on the grace. Where the clock can tell all
deadlines as well, nothing breaks off that is measured by schedule, on request, or as a trial of up
to five minutes. -/
theorem only_extremes_break_off {s : Settings} (accepted : s.check = .ok ()) (id : DaemonId) :
    (if s.testing.maxConcurrentRuns.toNat ≤ maxSlots then
      (Startup.start s id).Yields (fun answer => (∃ f, answer = .error (.store f)) ∨
        answer = .ok (Startup.parts s id)) ∧
      (s.daemon → Daemon.start (s.rig id) = .ok (Daemon.fresh (s.rig id)))
    else
      (Startup.start s id).Yields (fun answer => (∃ f, answer = .error (.store f)) ∨
        answer = .error (.abort .tooManySlots)) ∧
      (s.daemon → Daemon.start (s.rig id) = .error .tooManySlots)) ∧
    (∀ duration, if s.testing.Fits duration then
        ∃ deadline, s.testing.deadline? duration = some deadline ∧
          deadline.nanos = duration.nanos + s.testing.throughputGrace.nanos
      else
        s.testing.deadline? duration = none ∧ ∀ h, ∃ next,
          (s.rig id).throughput h duration = .ask (.inl (.abort .deadlineTooLong)) next) ∧
    (s.testing.Modest →
      (∀ (k : Schedule) (n : ℕ), ((Source.tick k n).plan (s.rig id)).Asks GoesOn) ∧
      (∀ request : Web.Request,
        Service.MeasuresBy GoesOn (Service.respond (s.rig id) request)) ∧
      (Trial.session s id .speed).Asks Trial.GoesOn ∧
      ∀ (host : Option Int64) (seconds : Option UInt64), (∀ n ∈ seconds, n ≤ 300) →
        (Trial.session s id (.throughput host seconds)).Asks Trial.GoesOn) := by
  have check := (s.rig id).check_eq
  refine ⟨?slots, ?deadlines, ?modest⟩
  case slots =>
    have starts := Startup.start_yields accepted id
    have daemonStarts (runs : s.daemon) := Daemon.start_eq accepted runs id
    split
    next few =>
      rw [check.trans (if_pos few)] at starts daemonStarts
      exact ⟨starts, daemonStarts⟩
    next many =>
      rw [check.trans (if_neg many)] at starts daemonStarts
      exact ⟨starts, daemonStarts⟩
  case deadlines =>
    intro duration
    split
    next fits => exact fits.deadline
    next beyond =>
      exact ⟨Settings.Testing.deadline?_eq_none.mpr beyond, Rig.throughput_of_not_fits beyond⟩
  case modest =>
    intro modest
    have slots : (s.rig id).check = .ok () := check.trans (if_pos modest.slots)
    have allows : (s.rig id).Allows GoesOn := Rig.allows_goesOn modest.speed
    have tests (seconds : Option UInt64) (few : ∀ n ∈ seconds, n ≤ 300) :
        (s.rig id).TestsAsk GoesOn ((s.rig id).durationOr (seconds.map .ofSeconds)) :=
      Rig.testsAsk_goesOn (Rig.reaches_durationOr modest seconds few)
    have own := tests none (by simp)
    refine ⟨allows.asks_tick own, ?requests, ?speed, ?trials⟩
    case requests =>
      intro request
      apply Service.measuresBy_respond allows
      intro given gives
      cases given with
      | none => exact own
      | some duration =>
        obtain ⟨seconds, -, few, rfl⟩ := gives.seconds
        exact tests (some seconds) (by simpa using few)
    case speed =>
      have speedNow : (s.rig id).speedNow.Asks GoesOn := allows.asks_withSlot allows.asks_speed
      exact Trial.asks_session slots (speedNow.bind fun _ => .done _)
    case trials =>
      intro host seconds few
      exact Trial.asks_session slots (allows.asks_trial (tests seconds few))

/-- The usual settings, with one slot too many. -/
def Settings.crowded : Settings :=
  { Settings.usual with
      testing := { Testing.default with maxConcurrentRuns := 2305843009213693952 } }

/-- The usual settings, with the longest grace. -/
def Settings.patient : Settings :=
  { Settings.usual with
      testing := { Testing.default with throughputGrace := .ofSeconds 18446744073709551615 } }

/-- Both are accepted, yet the one does not start, and the other leaves no deadline to any test. -/
theorem accepted_settings_break_off :
    (Settings.crowded.check = .ok () ∧
      Startup.assemble Settings.crowded ⟨"probe", 7⟩ true = .error (.abort .tooManySlots) ∧
      Daemon.start (Settings.crowded.rig ⟨"probe", 7⟩) = .error .tooManySlots) ∧
    Settings.patient.check = .ok () ∧
      (∀ seconds, 1 ≤ seconds → Settings.patient.testing.deadline? (.ofSeconds seconds) = none) ∧
      ∀ h, ∃ next, (Settings.patient.rig ⟨"probe", 7⟩).throughput h
        Settings.patient.testing.throughputDuration =
          .ask (.inl (.abort .deadlineTooLong)) next := by
  have beyond (seconds : UInt64) (some : 1 ≤ seconds) :
      ¬Settings.patient.testing.Fits (.ofSeconds seconds) := by
    have second : ¬Settings.patient.testing.Fits (.ofSeconds 1) := by decide
    intro fits
    exact second (fits.mono (Nat.mul_le_mul_right nanosPerSecond (UInt64.le_iff_toNat_le.mp some)))
  refine ⟨⟨rfl, rfl, rfl⟩, rfl, ?_, ?_⟩
  · intro seconds some
    exact Settings.Testing.deadline?_eq_none.mpr (beyond seconds some)
  · exact Rig.throughput_of_not_fits (beyond 10 (by decide))

/-- The usual settings start and have their longest trial go on. -/
theorem only_extremes_break_off_usual :
    (Settings.usual.check = .ok () ∧ Settings.usual.testing.Modest ∧
      Daemon.start (Settings.usual.rig ⟨"probe", 7⟩) =
        .ok (Daemon.fresh (Settings.usual.rig ⟨"probe", 7⟩)) ∧
      (Trial.session Settings.usual ⟨"probe", 7⟩ (.throughput none (some 300))).Asks
        Trial.GoesOn) ∧
    (Settings.crowded.check = .ok () ∧
      Daemon.start (Settings.crowded.rig ⟨"probe", 7⟩) = .error .tooManySlots) ∧
    Settings.patient.check = .ok () ∧
      Settings.patient.testing.deadline? Settings.patient.testing.throughputDuration = none := by
  obtain ⟨starts, -, modest⟩ := only_extremes_break_off (s := Settings.usual) rfl ⟨"probe", 7⟩
  obtain ⟨crowded, -, -⟩ := only_extremes_break_off (s := Settings.crowded) rfl ⟨"probe", 7⟩
  obtain ⟨-, patient, -⟩ := only_extremes_break_off (s := Settings.patient) rfl ⟨"probe", 7⟩
  have holds : Settings.usual.testing.Modest := ⟨by decide, by decide, by decide, by decide⟩
  rw [if_pos holds.slots] at starts
  rw [if_neg (by decide)] at crowded
  have long := patient Settings.patient.testing.throughputDuration
  rw [if_neg (by decide)] at long
  obtain ⟨-, -, -, trials⟩ := modest holds
  refine ⟨⟨rfl, holds, starts.2 rfl, trials none (some 300) ?_⟩, ⟨rfl, crowded.2 rfl⟩, rfl, long.1⟩
  rintro n ⟨⟩
  decide

end LinkGauge
