import LinkGauge.Proofs.Measurement.Questions

/-!
# Rounds from their beginning to their end

A round asks for the hosts once and visits the categories in their order. A visit runs the tool once
and submits once, or does nothing because there is no host. What comes of one category changes
nothing about the others; only a cancellation keeps a round from visiting all of them.
-/

namespace LinkGauge

open Plan (Turn)

/-! ### Tests of single hosts -/

/-- A throughput test of a host: what the tool gave, when it was through, what was submitted, and
whether that was taken. -/
structure Visit where
  host : Host
  deadline : Span
  output : Except Problem Json.Bytes
  through : Instant
  submission : Throughput.Submission
  taken : Except Problem Int64

namespace Visit

/-- The turns of a visit. -/
def turns (r : Rig) (duration : Span) (v : Visit) : List (Turn Measuring) :=
  [ ⟨.inr (.inl (.run (r.throughputCommand v.host duration v.deadline))), v.output⟩,
    ⟨.inr (.inl .now), v.through⟩,
    ⟨.inr (.inr (.throughput v.submission)), v.taken⟩ ]

/-- What was submitted is what came of the test: the reading if there was one, and else nothing but
the problem. -/
structure Honest (r : Rig) (duration : Span) (v : Visit) : Prop where
  deadline : r.testing.deadline? duration = some v.deadline
  host : v.submission.hostId = v.host.id
  read : ∀ reading, v.output.bind Throughput.read = .ok reading →
    v.submission.sentMbps = reading.sentMbps ∧ v.submission.receivedMbps = reading.receivedMbps ∧
      v.submission.retransmits = reading.retransmits ∧
      v.submission.meanRttMs = reading.meanRttMs ∧ v.submission.transport = reading.transport ∧
      v.submission.success = some true ∧ v.submission.error = none
  failed : ∀ p, v.output.bind Throughput.read = .error p →
    v.submission.sentMbps = 0 ∧ v.submission.receivedMbps = 0 ∧
      v.submission.success = some false ∧ v.submission.error = some p.detail

/-- What a test comes to for whoever asked for it. -/
def answer (v : Visit) : Except Problem (Int64 × Bool) :=
  v.taken.map (·, v.submission.isSuccess)

/-- What a test comes to in a round. -/
def outcome (v : Visit) : Outcome :=
  match v.taken with
  | .ok test => .recorded v.host.id test v.submission.isSuccess
  | .error p => .notSubmitted p

end Visit

namespace Rig

variable {r : Rig} {duration : Span} {turns : List (Turn Measuring)}

/-- A throughput test that comes to its end is an honest visit. -/
lemma visit_of_ends {h : Host} {a : Except Problem (Int64 × Bool)}
    (ends : (r.throughput h duration).Ends turns a) :
    ∃ v : Visit, turns = v.turns r duration ∧ v.Honest r duration ∧ v.host = h ∧ a = v.answer := by
  obtain ⟨outcome, first, second, rfl, measured, told⟩ := Plan.ends_bind.mp ends
  obtain ⟨through, rest, rfl, submitting⟩ := Plan.ends_ask.mp told
  obtain ⟨taken, none, rfl, submitted⟩ := Plan.ends_ask.mp submitting
  obtain ⟨rfl, rfl⟩ := Plan.ends_done.mp submitted
  rw [measure] at measured
  cases within : r.testing.deadline? duration with
  | none =>
    rw [within] at measured
    obtain ⟨no, -⟩ := Plan.ends_ask.mp measured
    cases no
  | some deadline =>
    rw [within] at measured
    obtain ⟨output, none, rfl, read⟩ := Plan.ends_ask.mp measured
    obtain ⟨rfl, rfl⟩ := Plan.ends_done.mp read
    refine ⟨⟨h, deadline, output, through, _, taken⟩, rfl, ?_, rfl, rfl⟩
    refine ⟨within, ?host, ?read, ?failed⟩
    case host => cases output.bind Throughput.read <;> rfl
    case read =>
      intro reading eq
      have eq : output.bind Throughput.read = .ok reading := eq
      simp only [eq]
      exact ⟨rfl, rfl, rfl, rfl, rfl, rfl, rfl⟩
    case failed =>
      intro p eq
      have eq : output.bind Throughput.read = .error p := eq
      simp only [eq]
      exact ⟨rfl, rfl, rfl, rfl⟩

/-! ### Questions of a round -/

/-- What may come up while categories are visited. Only where the deadline is beyond every span do
the visits break off. -/
def InVisits (r : Rig) (duration : Span) : Measuring.Question → Prop
  | .inl .cancelled => True
  | .inl (.abort _) => r.testing.deadline? duration = none
  | .inl _ => False
  | .inr (.inl _) => True
  | .inr (.inr (.throughput _)) => True
  | .inr (.inr _) => False

variable (r)

lemma InVisits.asks_throughput (h : Host) (duration : Span) :
    (r.throughput h duration).Asks (r.InVisits duration) :=
  Rig.asks_throughput h id (fun _ _ => trivial) trivial fun _ _ => trivial

lemma InVisits.asks_visits (hosts : List Host) (duration : Span) (categories : List Category) :
    (r.visits hosts duration categories).Asks (r.InVisits duration) :=
  Rig.asks_visits trivial (fun _ => trivial) (fun h => asks_throughput r h duration) hosts
    categories

lemma InVisits.asks_round {Q : Measuring.Question → Prop} (duration : Span)
    (first : Q (.inr (.inr .hosts))) (more : ∀ q, r.InVisits duration q → Q q) :
    (r.round duration).Asks Q :=
  Rig.asks_round (more _ trivial) (fun _ => more _ trivial)
    (fun h => (asks_throughput r h duration).mono more) first

variable {r}

/-- Where there is a deadline, nothing breaks the visits off. -/
lemma InVisits.answerable {q : Measuring.Question}
    (fits : duration.nanos + r.testing.throughputGrace.nanos < Word.size64 * nanosPerSecond)
    (h : r.InVisits duration q) : Nonempty (Measuring.Answer q) := by
  rcases q with control | bench | delivery
  · cases control with
    | cancelled => exact ⟨false⟩
    | abort =>
      have beyond : r.testing.deadline? duration = none := h
      rw [Settings.Testing.deadline?, Span.add?, Span.ofNanos?, dif_pos fits] at beyond
      contradiction
    | takeSlot | takeSlotUnlessCancelled | freeSlot => exact h.elim
  · cases bench with
    | now => exact ⟨(⟨0, 0, by decide⟩ : Instant)⟩
    | draw last => exact ⟨(0 : Fin (last + 1))⟩
    | run => exact ⟨.ok []⟩
  · cases delivery with
    | throughput => exact ⟨.ok 0⟩
    | hosts | speed => exact h.elim

/-! ### Categories -/

/-- What the visit of a category comes to, and all that comes up on the way. Either there is no
active host of the category and nothing comes up, or one of them is drawn, the tool is run on it
once, and what came of that is submitted once. -/
inductive Visited (r : Rig) (hosts : List Host) (duration : Span) (category : Category) :
    Outcome → List (Turn Measuring) → Prop where
  | skipped (none : ∀ h ∈ hosts, h.active → h.category ≠ category) :
      Visited r hosts duration category .skipped []
  | measured (v : Visit) (mem : v.host ∈ hosts) (active : v.host.active)
      (same : v.host.category = category) (honest : v.Honest r duration)
      (long : v.deadline.nanos = duration.nanos + r.testing.throughputGrace.nanos) {last : ℕ}
      (draw : Fin (last + 1)) :
      Visited r hosts duration category v.outcome
        [ ⟨.inr (.inl (.draw last)), draw⟩,
          ⟨.inr (.inl (.run ⟨r.tools.throughput,
            ["-c", v.host.hostname, "-p", toString v.host.port.toInt,
              "-t", toString duration.seconds, "-J"], v.deadline⟩)), v.output⟩,
          ⟨.inr (.inl .now), v.through⟩,
          ⟨.inr (.inr (.throughput v.submission)), v.taken⟩ ]

variable {hosts : List Host} {category : Category} {outcome : Outcome}

/-- A category is skipped only for want of an active host. -/
lemma Visited.skipped_iff (h : Visited r hosts duration category outcome turns) :
    outcome = .skipped ↔ ∀ h ∈ hosts, h.active → h.category ≠ category := by
  cases h with
  | skipped none => exact ⟨fun _ => none, fun _ => rfl⟩
  | measured v mem active same =>
    constructor
    · intro eq
      simp only [Visit.outcome] at eq
      split at eq <;> contradiction
    · intro none
      exact absurd same (none v.host mem active)

lemma deadline_nanos {t : Settings.Testing} {deadline : Span}
    (h : t.deadline? duration = some deadline) :
    deadline.nanos = duration.nanos + t.throughputGrace.nanos := by
  simp only [Settings.Testing.deadline?, Span.add?, Span.ofNanos?] at h
  split at h
  · cases h
    rfl
  · contradiction

/-- What comes of a draw: nobody, or one of those who may be measured. -/
lemma drawn_of_ends {a : Except Problem Host} (ends : (selectHost hosts category).Ends turns a) :
    ((∀ h ∈ hosts, h.active → h.category ≠ category) ∧ turns = [] ∧
        a = .error (.noHosts category)) ∨
      ∃ h ∈ hosts, h.active ∧ h.category = category ∧ a = .ok h ∧
        ∃ (last : ℕ) (draw : Fin (last + 1)), turns = [⟨.inr (.inl (.draw last)), draw⟩] := by
  simp only [selectHost, Host.select] at ends
  split at ends
  case h_1 none =>
    obtain ⟨rfl, rfl⟩ := Plan.ends_done.mp ends
    refine .inl ⟨?_, rfl, rfl⟩
    intro h mem active same
    have eligible : h ∈ Host.eligible hosts category :=
      List.mem_filter.mpr ⟨mem, by simp [Host.isEligible, active, same]⟩
    rw [none] at eligible
    contradiction
  case h_2 first others some =>
    obtain ⟨draw, rest, rfl, chosen⟩ := Plan.ends_ask.mp ends
    obtain ⟨rfl, rfl⟩ := Plan.ends_done.mp chosen
    have mem : (first :: others).get draw ∈ Host.eligible hosts category := by
      rw [some]
      exact List.get_mem _ _
    obtain ⟨mem, eligible⟩ := List.mem_filter.mp mem
    simp only [Host.isEligible, Bool.and_eq_true, beq_iff_eq] at eligible
    exact .inr ⟨_, mem, eligible.1, eligible.2, rfl, _, draw, rfl⟩

/-- A visit that comes to its end is one of a category. -/
lemma visited_of_ends (ends : (r.visit hosts duration category).Ends turns outcome) :
    Visited r hosts duration category outcome turns := by
  obtain ⟨selected, draws, test, rfl, drawing, testing⟩ := Plan.ends_bind.mp ends
  rcases drawn_of_ends drawing with ⟨none, rfl, rfl⟩ | ⟨h, mem, active, same, rfl, last, draw, rfl⟩
  · obtain ⟨rfl, rfl⟩ := Plan.ends_done.mp testing
    exact .skipped none
  · obtain ⟨answer, tested, none, rfl, test, telling⟩ := Plan.ends_bind.mp testing
    obtain ⟨v, rfl, honest, rfl, rfl⟩ := visit_of_ends test
    have told : none = [] ∧ outcome = v.outcome := by
      simp only [Visit.answer] at telling
      simp only [Visit.outcome]
      cases taken : v.taken with
      | ok test =>
        rw [taken] at telling
        obtain ⟨rfl, rfl⟩ := Plan.ends_done.mp telling
        exact ⟨rfl, rfl⟩
      | error p =>
        rw [taken] at telling
        obtain ⟨rfl, rfl⟩ := Plan.ends_done.mp telling
        exact ⟨rfl, rfl⟩
    obtain ⟨rfl, rfl⟩ := told
    rw [List.append_nil]
    exact .measured v mem active same honest (deadline_nanos honest.deadline) draw

/-! ### Rounds -/

/-- Categories as they were visited, each after the question whether to stop. Each has turns of its
own. If not all were visited, it is because the answer was to stop, and nothing came after it. -/
def Visits (r : Rig) (hosts : List Host) (duration : Span) (categories : List Category)
    (outcomes : List (Category × Outcome)) (turns : List (Turn Measuring)) : Prop :=
  ∃ (parts : List (List (Turn Measuring))) (last : List (Turn Measuring)),
    turns = parts.flatMap (⟨.inl .cancelled, false⟩ :: ·) ++ last ∧
      List.Forall₂ (fun found => Visited r hosts duration found.1 found.2) outcomes parts ∧
      (outcomes.map Prod.fst = categories ∧ last = [] ∨
        outcomes.map Prod.fst <+: categories ∧ outcomes.length < categories.length ∧
          last = [⟨.inl .cancelled, true⟩])

lemma visits_of_ends {categories : List Category} {outcomes : List (Category × Outcome)}
    (ends : (r.visits hosts duration categories).Ends turns outcomes) :
    Visits r hosts duration categories outcomes turns := by
  -- On the categories that are left. Which hosts there are does not change on the way, so that what
  -- came of one category tells nothing about the next one.
  induction categories generalizing turns outcomes with
  | nil =>
    obtain ⟨rfl, rfl⟩ := Plan.ends_done.mp ends
    exact ⟨[], [], rfl, .nil, .inl ⟨rfl, rfl⟩⟩
  | cons category categories ih =>
    obtain ⟨stop, rest, rfl, going⟩ := Plan.ends_ask.mp ends
    cases stop with
    | true =>
      obtain ⟨rfl, rfl⟩ := Plan.ends_done.mp going
      exact ⟨[], [_], rfl, .nil, .inr ⟨List.nil_prefix, Nat.succ_pos _, rfl⟩⟩
    | false =>
      have going : Plan.Ends ((r.visit hosts duration category).bind _) rest outcomes := going
      obtain ⟨outcome, first, second, rfl, visiting, others⟩ := Plan.ends_bind.mp going
      obtain ⟨found, more, none, rfl, visited, telling⟩ := Plan.ends_bind.mp others
      obtain ⟨rfl, rfl⟩ := Plan.ends_done.mp telling
      obtain ⟨parts, last, rfl, visits, ending⟩ := ih visited
      refine ⟨first :: parts, last, by simp, .cons (visited_of_ends visiting) visits, ?_⟩
      rcases ending with ⟨all, rfl⟩ | ⟨some, fewer, rfl⟩
      · exact .inl ⟨by rw [List.map_cons, all], rfl⟩
      · refine .inr ⟨?_, Nat.succ_lt_succ fewer, rfl⟩
        rw [List.map_cons]
        exact (List.prefix_cons_inj _).mpr some

lemma Visits.skipped_iff {categories : List Category} {outcomes : List (Category × Outcome)}
    (h : Visits r hosts duration categories outcomes turns) :
    ∀ found ∈ outcomes, found.2 = .skipped ↔ ∀ h ∈ hosts, h.active → h.category ≠ found.1 := by
  obtain ⟨parts, -, -, visited, -⟩ := h
  induction visited with
  | nil => exact List.forall_mem_nil _
  | cons first _ ih => exact List.forall_mem_cons.mpr ⟨first.skipped_iff, ih⟩

/-- A round from its beginning to its end. The hosts are asked for once, at the beginning. Without
them there is nothing else. With them the categories are visited in their order, and those without
an active host are skipped, but no others. -/
def Rounded (r : Rig) (duration : Span) (outcomes : List (Category × Outcome))
    (turns : List (Turn Measuring)) : Prop :=
  ∃ (answer : Except Problem (List Host)) (rest : List (Turn Measuring)),
    turns = ⟨.inr (.inr .hosts), answer⟩ :: rest ∧
      (∀ turn ∈ rest, turn.question ≠ .inr (.inr .hosts)) ∧
      match answer with
      | .error _ => outcomes = [] ∧ rest = []
      | .ok hosts =>
        Visits r hosts duration [.lan, .vpn, .remote] outcomes rest ∧
          ∀ found ∈ outcomes,
            found.2 = .skipped ↔ ∀ h ∈ hosts, h.active → h.category ≠ found.1

lemma rounded_of_ends {outcomes : List (Category × Outcome)}
    (ends : (r.round duration).Ends turns outcomes) : Rounded r duration outcomes turns := by
  obtain ⟨answer, rest, rfl, going⟩ := Plan.ends_ask.mp ends
  cases answer with
  | error p =>
    obtain ⟨rfl, rfl⟩ := Plan.ends_done.mp going
    exact ⟨_, [], rfl, List.forall_mem_nil _, rfl, rfl⟩
  | ok hosts =>
    have going : Plan.Ends (r.visits hosts duration Category.all) rest outcomes := going
    have visits := visits_of_ends going
    refine ⟨_, rest, rfl, ?_, visits, visits.skipped_iff⟩
    -- Visits never ask for the hosts again.
    intro turn mem asked
    have inVisits := (InVisits.asks_visits r hosts duration _).of_leads going turn mem
    rw [asked] at inVisits
    exact inVisits

/-- Take a slot for a plan: the first turn takes it and the last one gives it back. -/
lemma ends_withSlot {α : Type} {p : Plan Measuring α} {a : α}
    (ends : (Measuring.withSlot p).Ends turns a) :
    ∃ inner, turns = ⟨.inl .takeSlot, ()⟩ :: (inner ++ [⟨.inl .freeSlot, ()⟩]) ∧
      p.Ends inner a := by
  obtain ⟨_, rest, rfl, going⟩ := Plan.ends_ask.mp ends
  obtain ⟨b, inner, last, rfl, done, freeing⟩ := Plan.ends_bind.mp going
  obtain ⟨_, none, rfl, freed⟩ := Plan.ends_ask.mp freeing
  obtain ⟨rfl, rfl⟩ := Plan.ends_done.mp freed
  exact ⟨inner, rfl, done⟩

/-- A round whose deadline is a span always comes to its end, whatever is answered: nothing that
comes up is without an answer. It has then asked for the hosts once and visited the categories in
their order, all of them unless it was told to stop, with one tool and one submission for each that
has an active host. A round on demand is the same with a slot around it. -/
theorem rounds_are_complete
    (fits : duration.nanos + r.testing.throughputGrace.nanos < Word.size64 * nanosPerSecond) :
    ((r.round duration).Asks (fun q => Nonempty (Measuring.Answer q)) ∧
      ∀ (turns : List (Turn Measuring)) (outcomes : List (Category × Outcome)),
        (r.round duration).Ends turns outcomes → Rounded r duration outcomes turns) ∧
    ∀ given : Option Span, r.durationOr given = duration →
      (r.roundNow given).Asks (fun q => Nonempty (Measuring.Answer q)) ∧
      ∀ (turns : List (Turn Measuring)) (outcomes : List (Category × Outcome)),
        (r.roundNow given).Ends turns outcomes →
          ∃ inner, turns = ⟨.inl .takeSlot, ()⟩ :: (inner ++ [⟨.inl .freeSlot, ()⟩]) ∧
            Rounded r duration outcomes inner := by
  have answerable : (r.round duration).Asks fun q => Nonempty (Measuring.Answer q) :=
    InVisits.asks_round r duration ⟨.ok []⟩ fun _ => InVisits.answerable fits
  refine ⟨⟨answerable, fun turns outcomes => rounded_of_ends⟩, ?_⟩
  rintro given rfl
  refine ⟨.ask ⟨()⟩ fun _ => answerable.bind fun _ => .ask ⟨()⟩ fun _ => .done _, ?_⟩
  intro turns outcomes ends
  obtain ⟨inner, eq, done⟩ := ends_withSlot ends
  exact ⟨inner, eq, rounded_of_ends done⟩

/-- A rig that gives tools almost all the time there is. -/
def patient : Rig :=
  ⟨{ Settings.Testing.default with
      throughputGrace := ⟨(Word.size64 - 11) * nanosPerSecond, by decide⟩ },
    .default, ⟨"probe", 7⟩⟩

/-- A host that tools do not reach. -/
def cellar : Host :=
  ⟨1, "cellar", "cellar.local", 5201, .lan, true, none, ⟨1500000000, 0, by decide⟩,
    ⟨1500000000, 0, by decide⟩⟩

/-- The tool fails on the only host there is, and the round is told to stop before the last
category. -/
theorem rounds_are_complete_stopped :
    ∃ turns : List (Turn Measuring),
      (patient.round (.ofSeconds 10)).Ends turns
        [(.lan, .recorded 1 8 false), (.vpn, .skipped)] ∧
      Rounded patient (.ofSeconds 10) [(.lan, .recorded 1 8 false), (.vpn, .skipped)] turns := by
  have ends : ∃ turns, (patient.round (.ofSeconds 10)).Ends turns
      [(.lan, .recorded 1 8 false), (.vpn, .skipped)] := by
    constructor
    apply Plan.Leads.ask (I := Measuring) (q := .inr (.inr .hosts)) (.ok [cellar])
    apply Plan.Leads.ask (I := Measuring) (q := .inl .cancelled) false
    apply Plan.Leads.ask (I := Measuring) (q := .inr (.inl (.draw 0))) (0 : Fin 1)
    apply Plan.Leads.ask (I := Measuring) (q := .inr (.inl (.run _)))
      (.error (.toolFailed "iperf3" "refused" none))
    apply Plan.Leads.ask (I := Measuring) (q := .inr (.inl .now)) cellar.createdAt
    apply Plan.Leads.ask (I := Measuring) (q := .inr (.inr (.throughput _))) (.ok 8)
    apply Plan.Leads.ask (I := Measuring) (q := .inl .cancelled) false
    apply Plan.Leads.ask (I := Measuring) (q := .inl .cancelled) true
    exact .refl _
  obtain ⟨turns, ends⟩ := ends
  exact ⟨turns, ends, (rounds_are_complete (by decide)).1.2 turns _ ends⟩

end Rig

end LinkGauge
