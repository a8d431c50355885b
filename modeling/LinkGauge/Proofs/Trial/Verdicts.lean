import LinkGauge.Proofs.Measurement.Occasions
import LinkGauge.Proofs.Speed.Runs
import LinkGauge.Proofs.Throughput.SingleHosts

/-!
# When a trial succeeds

Whether a trial succeeds is told by what was asked and answered on the way: for the speed by the
tool, the reading and the place where results go, for a single host by the record that was taken,
and for a round by its beginning alone. A host that could not be measured makes the trial fail, but
leaves its record behind.
-/

namespace LinkGauge.Trial

open Plan (Turn)
open Throughput (Record)

variable {r : Rig} {t : Trial} {turns : List (Turn Measuring)} {answer : Except Failure Report}
  {id : Int64} {seconds : Option UInt64}

/-! ### Verdicts -/

/-- The tests of a trial have a deadline: their length with the grace is a span. -/
def HasDeadline (r : Rig) : Trial → Prop
  | .speed => True
  | .throughput _ seconds =>
    (r.durationOr (seconds.map .ofSeconds)).nanos + r.testing.throughputGrace.nanos <
      Word.size64 * nanosPerSecond

/-- The tool gave an output, the output is a reading, and the reading was taken. -/
def SpeedTaken (r : Rig) (turns : List (Turn Measuring)) : Prop :=
  ∃ (raw : Json.Bytes) (now : Instant) (reading : Speed.Reading) (test : Int64),
    ⟨.inr (.inl (.run r.speedCommand)), .ok raw⟩ ∈ turns ∧ ⟨.inr (.inl .now), now⟩ ∈ turns ∧
      Speed.read raw r.testing.speedUnit now = .ok reading ∧
      ⟨.inr (.inr (.speed (.ofReading reading r.daemon))), .ok test⟩ ∈ turns

/-- There is a host of the number. -/
def HostFound (id : Int64) (turns : List (Turn Measuring)) : Prop :=
  ∃ hosts : List Host, ⟨.inr (.inr .hosts), .ok hosts⟩ ∈ turns ∧ ∃ h ∈ hosts, h.id = id

/-- A record of a success was taken. -/
def SuccessTaken (id : Int64) (turns : List (Turn Measuring)) : Prop :=
  ∃ (s : Throughput.Submission) (test : Int64),
    ⟨.inr (.inr (.throughput s)), .ok test⟩ ∈ turns ∧ s.hostId = id ∧
      (Record.ofSubmission s).success = true

/-- While a slot was held the hosts were told, and then the process was not to stop. -/
def RoundBegun (turns : List (Turn Measuring)) : Prop :=
  ∃ (hosts : List Host) (rest : List (Turn Measuring)),
    turns = ⟨.inl .takeSlot, ()⟩ :: ⟨.inr (.inr .hosts), .ok hosts⟩ ::
      ⟨.inl .cancelled, false⟩ :: rest

/-- What it takes for a trial to succeed. What comes of the categories of a round is not part of
it. -/
def Succeeds (r : Rig) (turns : List (Turn Measuring)) : Trial → Prop
  | .speed => SpeedTaken r turns
  | .throughput (some id) _ => HostFound id turns ∧ SuccessTaken id turns
  | .throughput none _ => RoundBegun turns

/-- Submissions, of whatever kind. -/
def IsSubmission : Measuring.Question → Bool
  | .inr (.inr (.speed _)) => true
  | .inr (.inr (.throughput _)) => true
  | _ => false

/-- What was submitted, and what was said to it. -/
def submissions (turns : List (Turn Measuring)) : List (Turn Measuring) :=
  turns.filter fun turn => IsSubmission turn.question

lemma mem_submissions {turn : Turn Measuring} (mem : turn ∈ turns)
    (submits : IsSubmission turn.question = true) : turn ∈ submissions turns :=
  List.mem_filter.mpr ⟨mem, submits⟩

/-! ### Coming to an end -/

/-- Where there is a deadline, nothing that comes up is without an answer. -/
lemma answerable_trial (fits : t.HasDeadline r) :
    (r.trial t).Asks fun q => Nonempty (Measuring.Answer q) := by
  have allows : r.Allows fun q => Nonempty (Measuring.Answer q) :=
    { cancelled := ⟨false⟩
      takeSlot := ⟨()⟩
      mayTakeSlot := ⟨true⟩
      freeSlot := ⟨()⟩
      now := ⟨(⟨0, 0, by decide⟩ : Instant)⟩
      draw := fun last => ⟨(0 : Fin (last + 1))⟩
      speedRun := ⟨.ok []⟩
      hosts := ⟨.ok []⟩
      speed := fun _ => ⟨.ok 0⟩ }
  cases t with
  | speed => exact (allows.asks_withSlot allows.asks_speed).bind fun _ => .done _
  | throughput host seconds =>
    refine allows.asks_trial ?_
    intro h
    exact (Rig.InVisits.asks_throughput r h _).mono fun _ => Rig.InVisits.answerable fits

/-! ### Speed -/

lemma speedReport_ok_iff {a : Except Problem Int64} :
    (∃ report, speedReport a = .ok report) ↔ ∃ test, a = .ok test := by
  cases a <;> simp [speedReport]

lemma speed_of_ends (ends : (r.trial .speed).Ends turns answer) :
    ∃ (inner : List (Turn Measuring)) (a : Except Problem Int64),
      turns = ⟨.inl .takeSlot, ()⟩ :: (inner ++ [⟨.inl .freeSlot, ()⟩]) ∧ r.SpeedRun inner a ∧
        answer = speedReport a := by
  obtain ⟨a, first, second, rfl, run, telling⟩ := Plan.ends_bind.mp ends
  obtain ⟨rfl, rfl⟩ := Plan.ends_done.mp telling
  obtain ⟨inner, rfl, speed⟩ := Rig.ends_withSlot run
  exact ⟨inner, a, by rw [List.append_nil], Rig.speedRun_of_ends speed, rfl⟩

lemma speedTaken_iff {inner : List (Turn Measuring)} {a : Except Problem Int64}
    (run : r.SpeedRun inner a) :
    SpeedTaken r (⟨.inl .takeSlot, ()⟩ :: (inner ++ [⟨.inl .freeSlot, ()⟩])) ↔
      ∃ test, a = .ok test := by
  constructor
  · rintro ⟨raw, now, reading, test, -, -, -, taken⟩
    have submitted := mem_submissions taken rfl
    cases run with
    | failed | unread => exact absurd submitted List.not_mem_nil
    | submitted read taken =>
      obtain ⟨-, same⟩ := Turn.mk.inj (List.mem_singleton.mp submitted)
      exact ⟨test, (eq_of_heq same).symm⟩
  · rintro ⟨test, rfl⟩
    cases run with
    | submitted read => exact ⟨_, _, _, test, by simp, by simp, read, by simp⟩

/-! ### Single hosts -/

lemma throughputReport_ok_iff {a : Except Problem (Int64 × Bool)} :
    (∃ report, throughputReport id a = .ok report) ↔ ∃ test, a = .ok (test, true) := by
  rcases a with p | ⟨test, _ | _⟩ <;> simp [throughputReport]

lemma throughputReport_unsuccessful_iff {a : Except Problem (Int64 × Bool)} {host test : Int64} :
    throughputReport id a = .error (.unsuccessful host test) ↔
      id = host ∧ a = .ok (test, false) := by
  rcases a with p | ⟨test, _ | _⟩ <;> simp [throughputReport]

lemma throughput_of_ends (ends : (r.trial (.throughput (some id) seconds)).Ends turns answer) :
    ∃ (listed : Except Problem (List Host)) (rest : List (Turn Measuring))
      (a : Except Problem (Int64 × Bool)),
      turns = ⟨.inr (.inr .hosts), listed⟩ :: rest ∧ answer = throughputReport id a ∧
        match listed with
        | .error p => a = .error p ∧ rest = []
        | .ok hosts =>
          Rig.MeasuresFirst r id (r.durationOr (seconds.map .ofSeconds)) hosts a rest := by
  obtain ⟨a, first, second, rfl, run, telling⟩ := Plan.ends_bind.mp ends
  obtain ⟨rfl, rfl⟩ := Plan.ends_done.mp telling
  obtain ⟨listed, rest, rfl, going⟩ := Plan.ends_ask.mp run
  refine ⟨listed, rest, a, by rw [List.append_nil], rfl, ?_⟩
  cases listed with
  | error p =>
    obtain ⟨rfl, rfl⟩ := Plan.ends_done.mp going
    exact ⟨rfl, rfl⟩
  | ok hosts => exact Rig.measuresFirst_of_ends going

/-- Either nothing is submitted and there is a problem, or there is a host, and one record decides
together with what is said to it. -/
lemma decided_of_ends (ends : (r.trial (.throughput (some id) seconds)).Ends turns answer) :
    (submissions turns = [] ∧ ∃ p, answer = throughputReport id (.error p)) ∨
      HostFound id turns ∧ ∃ (s : Throughput.Submission) (taken : Except Problem Int64),
        s.hostId = id ∧ submissions turns = [⟨.inr (.inr (.throughput s)), taken⟩] ∧
          answer = throughputReport id (taken.map (·, (Record.ofSubmission s).success)) := by
  obtain ⟨listed, rest, a, rfl, rfl, going⟩ := throughput_of_ends ends
  cases listed with
  | error p =>
    obtain ⟨rfl, rfl⟩ := going
    exact .inl ⟨rfl, p, rfl⟩
  | ok hosts =>
    rcases going with ⟨-, rfl, rfl⟩ | ⟨h, found, v, rfl, honest, -, rfl, rfl⟩
    · exact .inl ⟨rfl, _, rfl⟩
    · have same : v.host.id = id := by simpa using List.find?_some found
      refine .inr ⟨⟨hosts, List.mem_cons_self, v.host, List.mem_of_find?_eq_some found, same⟩, ?_⟩
      exact ⟨v.submission, v.taken, honest.host.trans same, rfl, rfl⟩

lemma succeeds_host_iff (ends : (r.trial (.throughput (some id) seconds)).Ends turns answer) :
    (∃ report, answer = .ok report) ↔ HostFound id turns ∧ SuccessTaken id turns := by
  rcases decided_of_ends ends with ⟨none, p, rfl⟩ | ⟨found, s, taken, same, only, rfl⟩
  · rw [throughputReport_ok_iff]
    constructor
    · rintro ⟨test, no⟩
      cases no
    · rintro ⟨-, s, test, mem, -⟩
      have submitted := mem_submissions mem rfl
      rw [none] at submitted
      cases submitted
  · rw [throughputReport_ok_iff]
    constructor
    · rintro ⟨test, reported⟩
      obtain ⟨test', rfl, pair⟩ := map_eq_ok.mp reported
      obtain ⟨rfl, success⟩ := Prod.mk.inj pair
      refine ⟨found, s, test', ?_, same, success⟩
      exact List.mem_of_mem_filter (only ▸ List.mem_singleton_self _ :
        (⟨.inr (.inr (.throughput s)), .ok test'⟩ : Turn Measuring) ∈ submissions turns)
    · rintro ⟨-, s', test, mem, -, success⟩
      have submitted := mem_submissions mem rfl
      rw [only] at submitted
      obtain ⟨asked, answered⟩ := Turn.mk.inj (List.mem_singleton.mp submitted)
      cases asked
      cases answered
      exact ⟨test, by rw [success]; rfl⟩

lemma unsuccessful_host_iff {host test : Int64}
    (ends : (r.trial (.throughput (some id) seconds)).Ends turns answer) :
    answer = .error (.unsuccessful host test) ↔
      id = host ∧ ∃ s : Throughput.Submission, (Record.ofSubmission s).success = false ∧
        submissions turns = [⟨.inr (.inr (.throughput s)), .ok test⟩] := by
  rcases decided_of_ends ends with ⟨none, p, rfl⟩ | ⟨-, s, taken, -, only, rfl⟩
  · rw [throughputReport_unsuccessful_iff, none]
    simp
  · rw [throughputReport_unsuccessful_iff, only]
    constructor
    · rintro ⟨rfl, reported⟩
      obtain ⟨test', rfl, pair⟩ := map_eq_ok.mp reported
      obtain ⟨rfl, failure⟩ := Prod.mk.inj pair
      exact ⟨rfl, s, failure, rfl⟩
    · rintro ⟨rfl, s', failure, eq⟩
      obtain ⟨asked, answered⟩ := Turn.mk.inj (List.singleton_inj.mp eq)
      cases asked
      cases answered
      exact ⟨rfl, by rw [failure]; rfl⟩

/-! ### Rounds -/

lemma roundReport_ok_iff {outcomes : List (Category × Outcome)} :
    (∃ report, roundReport outcomes = .ok report) ↔ outcomes ≠ [] := by
  cases outcomes <;> simp [roundReport]

lemma round_of_ends (ends : (r.trial (.throughput none seconds)).Ends turns answer) :
    ∃ (inner : List (Turn Measuring)) (outcomes : List (Category × Outcome)),
      turns = ⟨.inl .takeSlot, ()⟩ :: (inner ++ [⟨.inl .freeSlot, ()⟩]) ∧
        Rig.Rounded r (r.durationOr (seconds.map .ofSeconds)) outcomes inner ∧
          answer = roundReport outcomes := by
  obtain ⟨outcomes, first, second, rfl, run, telling⟩ := Plan.ends_bind.mp ends
  obtain ⟨rfl, rfl⟩ := Plan.ends_done.mp telling
  obtain ⟨inner, rfl, round⟩ := Rig.ends_withSlot run
  exact ⟨inner, outcomes, by rw [List.append_nil], Rig.rounded_of_ends round, rfl⟩

/-- Visits come to something unless they are stopped before the first category. -/
lemma visits_begin {hosts : List Host} {duration : Span} {category : Category}
    {categories : List Category} {outcomes : List (Category × Outcome)}
    (visits : Rig.Visits r hosts duration (category :: categories) outcomes turns) :
    (outcomes = [] ∧ turns = [⟨.inl .cancelled, true⟩]) ∨
      outcomes ≠ [] ∧ ∃ rest, turns = ⟨.inl .cancelled, false⟩ :: rest := by
  obtain ⟨parts, last, rfl, visited, ending⟩ := visits
  cases visited with
  | nil =>
    rcases ending with ⟨no, -⟩ | ⟨-, -, rfl⟩
    · cases no
    · exact .inl ⟨rfl, rfl⟩
  | cons => exact .inr ⟨List.cons_ne_nil _ _, _, rfl⟩

lemma succeeds_round_iff (ends : (r.trial (.throughput none seconds)).Ends turns answer) :
    (∃ report, answer = .ok report) ↔ RoundBegun turns := by
  obtain ⟨inner, outcomes, rfl, ⟨listed, rest, rfl, -, going⟩, rfl⟩ := round_of_ends ends
  rw [roundReport_ok_iff]
  cases listed with
  | error p =>
    obtain ⟨rfl, rfl⟩ := going
    refine ⟨absurd rfl, ?_⟩
    rintro ⟨hosts, more, ⟨⟩⟩
  | ok hosts =>
    rcases visits_begin going.1 with ⟨rfl, rfl⟩ | ⟨some, more, rfl⟩
    · refine ⟨absurd rfl, ?_⟩
      rintro ⟨hosts', more, ⟨⟩⟩
    · exact ⟨fun _ => ⟨hosts, _, rfl⟩, fun _ => some⟩

/-! ### All trials -/

/-- A trial whose tests have a deadline always comes to its end, whatever is answered. It succeeds
exactly if what it takes came about. A host whose record of a failure was taken makes it fail with
the number of that record, which then is all that was submitted, and nothing else makes it fail that
way. -/
theorem trials_tell_success (r : Rig) (t : Trial) (fits : t.HasDeadline r) :
    (r.trial t).Asks (fun q => Nonempty (Measuring.Answer q)) ∧
      ∀ (turns : List (Turn Measuring)) (answer : Except Failure Report),
        (r.trial t).Ends turns answer →
          ((∃ report, answer = .ok report) ↔ t.Succeeds r turns) ∧
          ∀ id test : Int64, answer = .error (.unsuccessful id test) ↔
            (∃ seconds, t = .throughput (some id) seconds) ∧
              ∃ s : Throughput.Submission, (Record.ofSubmission s).success = false ∧
                submissions turns = [⟨.inr (.inr (.throughput s)), .ok test⟩] := by
  refine ⟨answerable_trial fits, ?_⟩
  intro turns answer ends
  match t with
  | .speed =>
    obtain ⟨inner, a, rfl, run, rfl⟩ := speed_of_ends ends
    refine ⟨speedReport_ok_iff.trans (speedTaken_iff run).symm, ?_⟩
    intro id test
    cases a <;> simp [speedReport]
  | .throughput none seconds =>
    refine ⟨succeeds_round_iff ends, ?_⟩
    obtain ⟨inner, outcomes, rfl, -, rfl⟩ := round_of_ends ends
    intro id test
    cases outcomes <;> simp [roundReport]
  | .throughput (some id) seconds =>
    refine ⟨succeeds_host_iff ends, ?_⟩
    intro host test
    rw [unsuccessful_host_iff ends]
    simp

/-- The output of a run that moved no data. -/
def idleOutput : Json.Bytes :=
  Utf8.encode
    ("\x7b\"end\":\x7b\"sum_sent\":\x7b\"bits_per_second\":0\x7d," ++
      "\"sum_received\":\x7b\"bits_per_second\":0\x7d\x7d\x7d")

lemma exists_read_idleOutput : ∃ reading, Throughput.read idleOutput = .ok reading := by
  have isOk : (Throughput.read idleOutput).toBool = true := by decide +kernel
  cases read : Throughput.read idleOutput with
  | ok reading => exact ⟨reading, rfl⟩
  | error p => rw [read] at isOk; cases isOk

/-- A test of the cellar with that output. -/
def idleVisit : Visit :=
  Rig.visitOf Rig.patient Rig.cellar (.ofSeconds 10) ⟨(Word.size64 - 1) * nanosPerSecond, by decide⟩
    (.ok idleOutput) Rig.cellar.createdAt (.ok 8)

/-- All that comes up in it. -/
def idleTurns : List (Turn Measuring) :=
  ⟨.inr (.inr .hosts), .ok [Rig.cellar]⟩ :: ⟨.inl .takeSlot, ()⟩ ::
    (idleVisit.turns Rig.patient (.ofSeconds 10) ++ [⟨.inl .freeSlot, ()⟩])

/-- The tool, the reading and the submission all went well, but no data moved. -/
theorem trials_tell_success_idle :
    (∃ reading, Throughput.read idleOutput = .ok reading) ∧
    HasDeadline Rig.patient (.throughput (some 1) none) ∧
    (Rig.patient.trial (.throughput (some 1) none)).Ends idleTurns (.error (.unsuccessful 1 8)) ∧
    ¬Succeeds Rig.patient idleTurns (.throughput (some 1) none) ∧
    ∃ s : Throughput.Submission, (Record.ofSubmission s).success = false ∧
      submissions idleTurns = [⟨.inr (.inr (.throughput s)), .ok 8⟩] := by
  have fits : HasDeadline Rig.patient (.throughput (some 1) none) := by
    show _ < _
    decide
  have idle : idleVisit.submission.isSuccess = false := by decide +kernel
  have answer : idleVisit.answer = .ok (8, false) := by
    rw [Visit.answer, idle]
    rfl
  have test : (Rig.patient.throughputNow 1 none).Ends idleTurns idleVisit.answer :=
    Rig.ends_tested Rig.patient 1 none rfl rfl _ _ _
  have ends : (Rig.patient.trial (.throughput (some 1) none)).Ends idleTurns
      (.error (.unsuccessful 1 8)) := by
    rw [answer] at test
    exact Plan.ends_bind.mpr ⟨_, idleTurns, [], (List.append_nil _).symm, test, .refl _⟩
  obtain ⟨-, told⟩ := trials_tell_success Rig.patient (.throughput (some 1) none) fits
  obtain ⟨success, unsuccessful⟩ := told _ _ ends
  refine ⟨exists_read_idleOutput, fits, ends, ?_, ((unsuccessful 1 8).mp rfl).2⟩
  intro succeeds
  obtain ⟨report, no⟩ := success.mpr succeeds
  cases no

end LinkGauge.Trial
