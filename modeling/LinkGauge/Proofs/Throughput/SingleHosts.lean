import LinkGauge.Proofs.Throughput.Coherence
import LinkGauge.Proofs.Throughput.Rounds

/-!
# Tests of a single host

A test of the host of a number asks for the hosts once, and measures the first of that number once.
Whether that one is active is left to whoever gave the list. If it is, then nothing but an active
host was measured, and if nobody has the number, nothing was.
-/

namespace LinkGauge.Rig

open Plan (Turn)
open Throughput (Record)

variable {r : Rig} {id : Int64} {duration : Span} {given : Option Span} {hosts : List Host}
  {turns : List (Turn Measuring)} {a : Except Problem (Int64 × Bool)}

/-! ### What a test comes to -/

/-- A host is measured while a slot is held: the tool runs once, and what came of it is submitted
once. The result is the number of the test with the success that its record tells, or the problem
of the submission. -/
def Measured (r : Rig) (duration : Span) (h : Host) (a : Except Problem (Int64 × Bool))
    (turns : List (Turn Measuring)) : Prop :=
  ∃ v : Visit, v.host = h ∧ v.Honest r duration ∧
    v.deadline.nanos = duration.nanos + r.testing.throughputGrace.nanos ∧
    turns =
      [ ⟨.inl .takeSlot, ()⟩,
        ⟨.inr (.inl (.run ⟨r.tools.throughput,
          ["-c", h.hostname, "-p", toString h.port.toInt, "-t", toString duration.seconds, "-J"],
          v.deadline⟩)), v.output⟩,
        ⟨.inr (.inl .now), v.through⟩,
        ⟨.inr (.inr (.throughput v.submission)), v.taken⟩,
        ⟨.inl .freeSlot, ()⟩ ] ∧
    a = v.taken.map (·, (Record.ofSubmission v.submission).success)

/-- The first host of the number is measured. Without one there is nothing but a problem. -/
def MeasuresFirst (r : Rig) (id : Int64) (duration : Span) (hosts : List Host)
    (a : Except Problem (Int64 × Bool)) (turns : List (Turn Measuring)) : Prop :=
  (∀ h ∈ hosts, h.id ≠ id) ∧ a = .error (.unknownHost id) ∧ turns = [] ∨
    ∃ h, hosts.find? (·.id == id) = some h ∧ Measured r duration h a turns

/-- An active host of the number is measured. Without one there is nothing but a problem. -/
def MeasuresActive (r : Rig) (id : Int64) (duration : Span) (hosts : List Host)
    (a : Except Problem (Int64 × Bool)) (turns : List (Turn Measuring)) : Prop :=
  (∀ h ∈ hosts, h.id = id → ¬h.active) ∧ a = .error (.unknownHost id) ∧ turns = [] ∨
    ∃ h ∈ hosts, h.id = id ∧ h.active ∧ Measured r duration h a turns

/-- The list decides: if the first host of the number is active, none but an active one is
measured. -/
lemma MeasuresFirst.measuresActive (h : MeasuresFirst r id duration hosts a turns)
    (active : ∀ first, hosts.find? (·.id == id) = some first → first.active) :
    MeasuresActive r id duration hosts a turns := by
  rcases h with ⟨none, problem, nothing⟩ | ⟨first, found, measured⟩
  · left
    refine ⟨?_, problem, nothing⟩
    intro h mem same
    exact absurd same (none h mem)
  · right
    have same : first.id = id := by simpa using List.find?_some found
    exact ⟨first, List.mem_of_find?_eq_some found, same, active first found, measured⟩

/-! ### From the beginning to the end -/

/-- A test that comes to its end while a slot is held has measured the host. -/
lemma measured_of_ends {h : Host}
    (ends : (Measuring.withSlot (r.throughput h duration)).Ends turns a) :
    Measured r duration h a turns := by
  obtain ⟨inner, rfl, test⟩ := ends_withSlot ends
  obtain ⟨v, rfl, honest, rfl, rfl⟩ := visit_of_ends test
  refine ⟨v, rfl, honest, deadline_nanos honest.deadline, rfl, ?_⟩
  rw [(Record.tells_ofSubmission v.submission).success]
  rfl

lemma measuresFirst_of_ends
    (ends : (r.throughputAmong id given hosts).Ends turns a) :
    MeasuresFirst r id (r.durationOr given) hosts a turns := by
  rw [throughputAmong] at ends
  split at ends
  case h_1 none =>
    obtain ⟨rfl, rfl⟩ := Plan.ends_done.mp ends
    left
    refine ⟨?_, rfl, rfl⟩
    intro h mem
    simpa using List.find?_eq_none.mp none h mem
  case h_2 first found => exact .inr ⟨first, found, measured_of_ends ends⟩

/-- Where there is a deadline, nothing that comes up is without an answer. -/
lemma answerable_throughputNow
    (fits : (r.durationOr given).nanos + r.testing.throughputGrace.nanos <
      Word.size64 * nanosPerSecond) :
    (r.throughputNow id given).Asks fun q => Nonempty (Measuring.Answer q) := by
  refine .andThen (.ask ⟨.ok []⟩ fun _ => .done _) ?_
  intro hosts
  rw [throughputAmong]
  split
  · exact .done _
  · next h _ =>
    have test := (InVisits.asks_throughput r h (r.durationOr given)).mono
      fun _ => InVisits.answerable fits
    exact .ask ⟨()⟩ fun _ => test.bind fun _ => .ask ⟨()⟩ fun _ => .done _

/-- A test of the host of a number whose deadline is a span always comes to its end. The hosts are
asked for once, and a problem with that is all there is. With the hosts, the first one of the number
is measured, at the length that is given or else set. So if the list has an active host of the
number in front of all others of that number, an active one is measured, and if it has none of the
number, nothing is. -/
theorem single_tests_measure_first
    (fits : (r.durationOr given).nanos + r.testing.throughputGrace.nanos <
      Word.size64 * nanosPerSecond) :
    (r.throughputNow id given).Asks (fun q => Nonempty (Measuring.Answer q)) ∧
    ∀ (turns : List (Turn Measuring)) (a : Except Problem (Int64 × Bool)),
      (r.throughputNow id given).Ends turns a →
        ∃ (answer : Except Problem (List Host)) (rest : List (Turn Measuring)),
          turns = ⟨.inr (.inr .hosts), answer⟩ :: rest ∧
            match answer with
            | .error p => a = .error p ∧ rest = []
            | .ok hosts =>
              MeasuresFirst r id (given.getD r.testing.throughputDuration) hosts a rest ∧
                ((∀ first, hosts.find? (·.id == id) = some first → first.active) →
                  MeasuresActive r id (given.getD r.testing.throughputDuration) hosts a rest) := by
  refine ⟨answerable_throughputNow fits, ?_⟩
  intro turns a ends
  obtain ⟨answer, rest, rfl, going⟩ := Plan.ends_ask.mp ends
  refine ⟨answer, rest, rfl, ?_⟩
  cases answer with
  | error p =>
    obtain ⟨rfl, rfl⟩ := Plan.ends_done.mp going
    exact ⟨rfl, rfl⟩
  | ok hosts =>
    have first : MeasuresFirst r id (r.durationOr given) hosts a rest :=
      measuresFirst_of_ends going
    exact ⟨first, first.measuresActive⟩

/-- The test of a host with an output of the tool, and what is said to the submission. -/
def visitOf (r : Rig) (h : Host) (duration deadline : Span) (output : Except Problem Json.Bytes)
    (through : Instant) (taken : Except Problem Int64) : Visit :=
  { host := h, deadline, output, through,
    submission := r.throughputSubmission h duration through (output.bind Throughput.read), taken }

/-- A test comes to its end whatever the tool puts out and whatever is said to the submission. -/
lemma ends_tested (r : Rig) (id : Int64) (given : Option Span) {hosts : List Host} {h : Host}
    {deadline : Span} (found : hosts.find? (·.id == id) = some h)
    (within : r.testing.deadline? (r.durationOr given) = some deadline)
    (output : Except Problem Json.Bytes) (through : Instant) (taken : Except Problem Int64) :
    (r.throughputNow id given).Ends
      (⟨.inr (.inr .hosts), .ok hosts⟩ :: ⟨.inl .takeSlot, ()⟩ ::
        ((visitOf r h (r.durationOr given) deadline output through taken).turns r
          (r.durationOr given) ++ [⟨.inl .freeSlot, ()⟩]))
      (visitOf r h (r.durationOr given) deadline output through taken).answer := by
  apply Plan.Leads.ask (I := Measuring) (q := .inr (.inr .hosts))
  change (r.throughputAmong id given hosts).Ends _ _
  rw [throughputAmong, found]
  apply Plan.Leads.ask (I := Measuring) (q := .inl .takeSlot) ()
  rw [throughput, measure, within]
  apply Plan.Leads.ask (I := Measuring) (q := .inr (.inl (.run _))) output
  apply Plan.Leads.ask (I := Measuring) (q := .inr (.inl .now)) through
  apply Plan.Leads.ask (I := Measuring) (q := .inr (.inr (.throughput _))) taken
  apply Plan.Leads.ask (I := Measuring) (q := .inl .freeSlot) ()
  exact .refl _

/-- A test of a host whose tool cannot be reached is submitted all the same. -/
lemma exists_ends_refused (r : Rig) (id : Int64) (given : Option Span) (hosts : List Host)
    {h : Host} {deadline : Span} (found : hosts.find? (·.id == id) = some h)
    (within : r.testing.deadline? (r.durationOr given) = some deadline) :
    ∃ rest : List (Turn Measuring),
      (r.throughputNow id given).Ends (⟨.inr (.inr .hosts), .ok hosts⟩ :: rest)
        (.ok (8, false)) :=
  ⟨_, ends_tested r id given found within (.error (.toolFailed "iperf3" "refused" none))
    cellar.createdAt (.ok 8)⟩

/-- Two hosts share a number. The first one is measured, at the length that is given. -/
theorem single_tests_measure_first_given :
    ∃ rest : List (Turn Measuring),
      (patient.throughputNow 1 (some (.ofSeconds 5))).Ends
        (⟨.inr (.inr .hosts), .ok [cellar, { cellar with hostname := "attic.local" }]⟩ :: rest)
        (.ok (8, false)) ∧
      MeasuresActive patient 1 (.ofSeconds 5)
        [cellar, { cellar with hostname := "attic.local" }] (.ok (8, false)) rest := by
  obtain ⟨rest, ends⟩ := exists_ends_refused patient 1 (some (.ofSeconds 5))
    [cellar, { cellar with hostname := "attic.local" }] rfl rfl
  refine ⟨rest, ends, ?_⟩
  obtain ⟨answer, rest', eq, told⟩ := (single_tests_measure_first (by decide)).2 _ _ ends
  obtain ⟨first, rfl⟩ := List.cons.inj eq
  obtain rfl : Except.ok [cellar, { cellar with hostname := "attic.local" }] = answer :=
    eq_of_heq (Plan.Turn.mk.inj first).2
  apply told.2
  intro first found
  obtain rfl : cellar = first := Option.some.inj found
  rfl

/-- The only host of the number is not active, and yet it is measured. -/
theorem inactive_host_is_measured :
    ∃ rest : List (Turn Measuring),
      (patient.throughputNow 1 none).Ends
        (⟨.inr (.inr .hosts), .ok [{ cellar with active := false }]⟩ :: rest) (.ok (8, false)) ∧
      ¬MeasuresActive patient 1 patient.testing.throughputDuration
        [{ cellar with active := false }] (.ok (8, false)) rest := by
  obtain ⟨rest, ends⟩ :=
    exists_ends_refused patient 1 none [{ cellar with active := false }] rfl rfl
  refine ⟨rest, ends, ?_⟩
  rintro (⟨-, problem, -⟩ | ⟨h, mem, -, active, -⟩)
  · cases problem
  · obtain rfl := List.mem_singleton.mp mem
    cases active

end LinkGauge.Rig
