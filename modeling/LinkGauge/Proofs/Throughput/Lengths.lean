import LinkGauge.Proofs.Measurement.Occasions
import LinkGauge.Proofs.Settings.Acceptance
import LinkGauge.Proofs.Throughput.Coherence

/-!
# Lengths of throughput tests

A test of at least a second leaves something that can be stored, even if the tool fails. A shorter
one leaves nothing that is taken. Accepted settings make for tests of at least a second wherever the
daemon runs, and so do all lengths but zero that are given.
-/

namespace LinkGauge

open Daemon (Schedule Source)
open Throughput (Submission)

/-! ### Failures that are stored -/

/-- The name of a process is never blank. -/
lemma DaemonId.isBlank_text (d : DaemonId) : isBlank d.text = false := by
  have start : d.text.toList = "daemon-".toList ++ (d.hostname ++ "-" ++
      toString d.process.toNat).toList := by
    simp [text, String.toList_append]
  rw [isBlank, start]
  simp [isBlankChar]

/-- Of a failure only the length is checked. -/
lemma Throughput.Submission.check_of_failure {s : Submission} (daemon : isBlank s.daemon = false)
    (sent : s.sentMbps = 0) (received : s.receivedMbps = 0) :
    s.check = if 0 < s.durationSeconds then .ok ()
      else .error (.badRequest "duration_seconds must be positive") := by
  have named : requireDaemon s.daemon = .ok () := by rw [requireDaemon, daemon]; rfl
  have zero (field : String) : requireBandwidth field 0 = .ok () := rfl
  rw [check, named, sent, received, ok_bind, zero, ok_bind, zero, ok_bind]

namespace Rig

variable (r : Rig)

lemma zero_lt_wholeSeconds {duration : Span} :
    0 < wholeSeconds duration ↔ 1 ≤ duration.seconds := by
  have value : (wholeSeconds duration).toInt = min duration.seconds (Word.half32 - 1) := by
    rw [wholeSeconds, Int32.toInt_ofNat_of_lt]
    simp only [Word.half32]
    omega
  rw [Int32.lt_iff_toInt_lt, value]
  simp only [Int32.toInt_zero, Word.half32]
  omega

/-- What throughput tests of so many seconds ask. -/
def Lasts (seconds : ℕ) : Measuring.Question → Prop
  | .inr (.inl (.run c)) =>
    ∃ h duration deadline, c = r.throughputCommand h duration deadline ∧ duration.seconds = seconds
  | .inr (.inr (.throughput s)) =>
    (0 < s.durationSeconds ↔ 1 ≤ seconds) ∧ s.daemon = r.daemon.text ∧
      (s.success = some false → s.sentMbps = 0 ∧ s.receivedMbps = 0)
  | _ => True

lemma testsAsk_lasts (duration : Span) : r.TestsAsk (r.Lasts duration.seconds) duration := by
  intro h
  apply asks_throughput h (fun _ => trivial) (fun deadline _ => ⟨h, duration, deadline, rfl, rfl⟩)
    trivial
  intro now outcome
  cases outcome with
  | ok reading => exact ⟨zero_lt_wholeSeconds, rfl, fun failure => by cases failure⟩
  | error p => exact ⟨zero_lt_wholeSeconds, rfl, fun _ => ⟨rfl, rfl⟩⟩

/-- A tool runs for at least a second. What is submitted is as long, and is stored if it is a
failure. -/
def Storable : Measuring.Question → Prop
  | .inr (.inl (.run c)) =>
    c = r.speedCommand ∨
      ∃ h duration deadline, c = r.throughputCommand h duration deadline ∧ 1 ≤ duration.seconds
  | .inr (.inr (.throughput s)) =>
    1 ≤ s.durationSeconds ∧ (s.success = some false → s.check = .ok ())
  | _ => True

/-- A tool runs for no second. What is submitted is not taken, and if it is a failure, that is for
its length. -/
def Refused : Measuring.Question → Prop
  | .inr (.inl (.run c)) =>
    ∃ h duration deadline, c = r.throughputCommand h duration deadline ∧ duration.seconds = 0
  | .inr (.inr (.throughput s)) =>
    s.check ≠ .ok () ∧
      (s.success = some false →
        s.check = .error (.badRequest "duration_seconds must be positive"))
  | _ => True

variable {r} {q : Measuring.Question}

lemma Lasts.storable {seconds : ℕ} (long : 1 ≤ seconds) (h : r.Lasts seconds q) :
    r.Storable q := by
  rcases q with q | q | q
  · trivial
  · cases q with
    | now | draw => trivial
    | run c =>
      obtain ⟨host, duration, deadline, rfl, rfl⟩ := h
      exact .inr ⟨host, duration, deadline, rfl, long⟩
  · cases q with
    | hosts | speed => trivial
    | throughput s =>
      obtain ⟨positive, daemon, nothing⟩ := h
      have positive := positive.mpr long
      refine ⟨?_, ?_⟩
      · rw [Int32.lt_iff_toInt_lt] at positive
        rw [Int32.le_iff_toInt_le]
        exact positive
      intro failure
      obtain ⟨sent, received⟩ := nothing failure
      rw [Submission.check_of_failure (by rw [daemon, DaemonId.isBlank_text]) sent received,
        if_pos positive]

lemma Lasts.refused (h : r.Lasts 0 q) : r.Refused q := by
  rcases q with q | q | q
  · trivial
  · cases q with
    | now | draw => trivial
    | run c => exact h
  · cases q with
    | hosts | speed => trivial
    | throughput s =>
      obtain ⟨positive, daemon, nothing⟩ := h
      have short : ¬0 < s.durationSeconds := fun some => absurd (positive.mp some) (by decide)
      constructor
      · intro checked
        exact short (Submission.check_eq_ok.mp checked).2.2.2
      · intro failure
        obtain ⟨sent, received⟩ := nothing failure
        rw [Submission.check_of_failure (by rw [daemon, DaemonId.isBlank_text]) sent received,
          if_neg short]

lemma allows_storable : r.Allows r.Storable where
  cancelled := trivial
  takeSlot := trivial
  mayTakeSlot := trivial
  freeSlot := trivial
  now := trivial
  draw _ := trivial
  speedRun := .inl rfl
  hosts := trivial
  speed _ := trivial

lemma testsAsk_storable {duration : Span} (long : 1 ≤ duration.seconds) :
    r.TestsAsk r.Storable duration :=
  fun h => (r.testsAsk_lasts duration h).mono fun _ => Lasts.storable long

end Rig

/-! ### All occasions -/

lemma Span.one_le_seconds {n : UInt64} (some : n ≠ 0) : 1 ≤ (Span.ofSeconds n).seconds := by
  have positive : n.toNat ≠ 0 := fun zero => some (UInt64.toNat_inj.mp zero)
  have whole : (Span.ofSeconds n).seconds = n.toNat :=
    Nat.mul_div_cancel n.toNat (by decide : 0 < nanosPerSecond)
  omega

/-- With accepted settings, tests are storable whenever they take their length from the settings of
a daemon, from settings of at least a second, from a request, or from a trial that gives more than
zero. Tests of less than a second, which is all that is left, are refused. -/
theorem throughput_tests_are_storable {s : Settings} (accepted : s.check = .ok ())
    (id : DaemonId) :
    (s.daemon → ∀ (k : Schedule) (n : ℕ),
      ((Source.tick k n).plan (s.rig id)).Asks (s.rig id).Storable) ∧
    (∀ request : Web.Request,
      (s.daemon ∨ 1 ≤ s.testing.throughputDuration.seconds ∨
        ∀ given, Service.Gives request given → given ≠ none) →
      Service.MeasuresBy (s.rig id).Storable (Service.respond (s.rig id) request)) ∧
    (∀ (host : Option Int64) (seconds : Option UInt64),
      (s.daemon ∨ 1 ≤ s.testing.throughputDuration.seconds ∨ seconds ≠ none) → seconds ≠ some 0 →
      ((s.rig id).trial (.throughput host seconds)).Asks (s.rig id).Storable) ∧
    ∀ duration : Span, duration.seconds = 0 → (s.rig id).TestsAsk (s.rig id).Refused duration := by
  have daemon (runs : s.daemon) : 1 ≤ s.testing.throughputDuration.seconds :=
    ((Settings.check_eq_ok.mp accepted).daemon runs).duration
  refine ⟨?schedule, ?request, ?trial, ?short⟩
  case schedule =>
    intro runs k n
    exact Rig.allows_storable.asks_tick (Rig.testsAsk_storable (daemon runs)) k n
  case request =>
    intro request long
    apply Service.measuresBy_respond Rig.allows_storable
    intro given gives
    apply Rig.testsAsk_storable
    cases given with
    | none =>
      rcases long with runs | long | always
      · exact daemon runs
      · exact long
      · exact absurd rfl (always none gives)
    | some duration =>
      obtain ⟨seconds, some, -, rfl⟩ := gives.seconds
      apply Span.one_le_seconds
      rintro rfl
      exact absurd some (by decide)
  case trial =>
    intro host seconds long some
    apply Rig.allows_storable.asks_trial
    apply Rig.testsAsk_storable
    cases seconds with
    | none =>
      rcases long with runs | long | always
      · exact daemon runs
      · exact long
      · exact absurd rfl always
    | some seconds => exact Span.one_le_seconds fun zero => some (congrArg Option.some zero)
  case short =>
    intro duration short h
    have lasts := (s.rig id).testsAsk_lasts duration h
    rw [short] at lasts
    exact lasts.mono fun _ => Rig.Lasts.refused

/-- The usual settings for a service without a daemon, whose tests are to take half a second. -/
def Settings.hasty : Settings :=
  { Settings.usual with
      testing := { Testing.default with throughputDuration := .ofMillis 500 }
      daemon := false
      service := true }

/-- What comes of a trial of no length against a host that is not reached. -/
def Throughput.Submission.fleeting : Submission :=
  .failed 1 0 (.toolFailed "iperf3" "exited with exit status: 1" none) ⟨"probe", 7⟩
    ⟨1740830400, 0, by decide⟩

/-- The settings are accepted, the tool fails, and the failure is not stored but refused. -/
theorem failure_of_no_length_is_lost :
    Settings.usual.check = .ok () ∧
      (∃ turns, ((Settings.usual.rig ⟨"probe", 7⟩).trial (.throughput (some 1) (some 0))).Ends turns
          (.error (.throughput 1 (.badRequest "duration_seconds must be positive"))) ∧
        ⟨.inr (.inr (.throughput .fleeting)),
          .error (.badRequest "duration_seconds must be positive")⟩ ∈ turns) ∧
      Delivery.direct (.throughput .fleeting) =
        .done (.error (.badRequest "duration_seconds must be positive")) := by
  refine ⟨rfl, ?_, rfl⟩
  apply Exists.intro
  constructor
  · apply Plan.Leads.ask (I := Measuring) (q := .inr (.inr .hosts)) (.ok [Rig.cellar])
    apply Plan.Leads.ask (I := Measuring) (q := .inl .takeSlot) ()
    apply Plan.Leads.ask (I := Measuring) (q := .inr (.inl (.run _)))
      (.error (.toolFailed "iperf3" "exited with exit status: 1" none))
    apply Plan.Leads.ask (I := Measuring) (q := .inr (.inl .now))
      (⟨1740830400, 0, by decide⟩ : Instant)
    apply Plan.Leads.ask (I := Measuring) (q := .inr (.inr (.throughput .fleeting)))
      (.error (.badRequest "duration_seconds must be positive"))
    apply Plan.Leads.ask (I := Measuring) (q := .inl .freeSlot) ()
    exact .refl _
  · simp

/-- A trial of a second with the usual settings, and a request for five minutes to a service whose
settings say half a second. -/
theorem throughput_tests_are_storable_usual :
    Settings.usual.check = .ok () ∧ Settings.hasty.check = .ok () ∧
      ((Settings.usual.rig ⟨"probe", 7⟩).trial (.throughput none (some 1))).Asks
        (Settings.usual.rig ⟨"probe", 7⟩).Storable ∧
      Service.MeasuresBy (Settings.hasty.rig ⟨"probe", 7⟩).Storable
        (Service.respond (Settings.hasty.rig ⟨"probe", 7⟩)
          ⟨"POST", "/api/v1/iperf/run?duration=300", none, []⟩) := by
  obtain ⟨-, -, trial, -⟩ := throughput_tests_are_storable (s := Settings.usual) rfl ⟨"probe", 7⟩
  obtain ⟨-, request, -⟩ := throughput_tests_are_storable (s := Settings.hasty) rfl ⟨"probe", 7⟩
  refine ⟨rfl, rfl, trial none (some 1) (.inl rfl) (by decide), request _ (.inr (.inr ?_))⟩
  rintro given ⟨q, read, ran⟩ rfl
  have query : Web.Request.query ⟨"POST", "/api/v1/iperf/run?duration=300", none, []⟩ =
      "duration=300" := by
    decide
  have asked : Service.RunQuery.decoder (Service.queryNode "duration=300") = .ok ⟨some 300⟩ := by
    rfl
  rw [query, asked] at read
  obtain rfl := Except.ok.inj read
  cases ran

end LinkGauge
