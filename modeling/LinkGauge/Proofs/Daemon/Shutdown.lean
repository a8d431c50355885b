import LinkGauge.Proofs.Daemon.Records

/-!
# Runs that wait at the end

Scheduled runs that still wait for a slot when the process is told to stop are meant to be dropped.
But a slot that is given back then is passed to the first run in line, and nothing keeps that run
from taking it. What it does with the slot is all that can still happen: a run that is given none
asks nothing, and a round stops before its first category.
-/

namespace LinkGauge.Daemon

open Plan (Turn)

variable {r : Rig} {s s' : State} {e : Event} {events more : List Event} {log new : List Told}

/-! ### After the word to stop -/

/-- A course that goes on from another one. -/
lemma Course.append {start : State} (course : Course r start events log s)
    (further : Course r s more new s') : Course r start (events ++ more) (log ++ new) s' := by
  induction further with
  | refl => simpa using course
  | step _ e happens ih =>
    rw [← List.append_assoc, ← List.append_assoc]
    exact ih.step e happens

lemma Moves.cancelled {note : Option Told} (moves : Moves r s e note s') (h : s.cancelled) :
    s'.cancelled := by
  obtain ⟨stop, at_⟩ := Option.isSome_iff_exists.mp h
  rw [Agenda.cancelled, moves.agenda, cancelledAt_after at_]
  rfl

/-- Whoever asks then whether to stop is told to. -/
lemma Moves.told_to_stop {n : Told} (moves : Moves r s e (some n) s') (h : s.cancelled)
    (asked : n.turn.question = .inl .cancelled) : n.turn = ⟨.inl .cancelled, true⟩ := by
  cases moves with
  | proceed _ _ _ answer =>
    cases asked
    obtain rfl : s.cancelled = _ := Option.some.inj answer
    rw [h]
  | free | drop | reply => cases asked

/-- The process is still to stop, and whoever asked was told to. -/
lemma Course.told_to_stop (further : Course r s more new s') (h : s.cancelled) :
    s'.cancelled ∧
      ∀ n ∈ new, n.turn.question = .inl .cancelled → n.turn = ⟨.inl .cancelled, true⟩ := by
  induction further with
  | refl => exact ⟨h, List.forall_mem_nil _⟩
  | step _ e happens ih =>
    obtain ⟨still, before⟩ := ih
    have moves := moves_of_step happens
    refine ⟨moves.cancelled still, ?_⟩
    intro n mem
    rcases List.mem_append.mp mem with old | now
    · exact before n old
    · rw [Option.mem_toList.mp now] at moves
      exact moves.told_to_stop still

/-! ### What a run asks -/

/-- Nothing was asked of the bench or of the place where results go, and nothing is asked now. -/
structure Quiet (turns : List (Turn Measuring)) (t : Task) : Prop where
  told : ∀ turn ∈ turns, ∀ q, turn.question ≠ .inr q
  pending : ∀ q next, t.rest ≠ .ask (.inr q) next

/-- A run was given a slot and took it. -/
def taking : Turn Measuring := ⟨.inl .takeSlotUnlessCancelled, true⟩

/-- Give the slot back, and no more. -/
def letGo : Plan Measuring Unit := .ask (.inl .freeSlot) fun _ => .done ()

/-- A job begins with a question to the bench or to the place where results go. -/
lemma Schedule.job_asks (k : Schedule) (r : Rig) {α : Type} (f : Unit → Plan Measuring α) :
    ∃ q next, (k.job r).bind f = .ask (.inr q) next := by
  cases k with
  | speed => exact ⟨_, _, rfl⟩
  | throughput => exact ⟨_, _, rfl⟩

section Plans

variable {k : Schedule} {n : ℕ} {turns : List (Turn Measuring)} {rest : Plan Measuring Unit}

/-- A scheduled run waits, was dropped, or took a slot and goes on with its job. -/
lemma leads_tick (leads : ((Source.tick k n).plan r).Leads turns rest) :
    turns = [] ∧ (∃ next, rest = .ask (.inl .takeSlotUnlessCancelled) next) ∨
      turns = [⟨.inl .takeSlotUnlessCancelled, false⟩] ∧ rest = .done () ∨
      ∃ going, turns = taking :: going ∧
        Plan.Leads ((k.job r).bind fun _ => letGo) going rest := by
  cases leads with
  | refl => exact .inl ⟨rfl, _, rfl⟩
  | ask taken leads =>
    cases taken with
    | false =>
      obtain ⟨rfl, rfl⟩ := Plan.leads_done.mp leads
      exact .inr (.inl ⟨rfl, rfl⟩)
    | true => exact .inr (.inr ⟨_, rfl, leads⟩)

lemma leads_letGo (leads : letGo.Leads turns rest) :
    traces turns = [] ∧ ∀ q next, rest ≠ .ask (.inr q) next := by
  cases leads with
  | refl =>
    refine ⟨rfl, ?_⟩
    rintro q next ⟨⟩
  | ask _ leads =>
    obtain ⟨rfl, rfl⟩ := Plan.leads_done.mp leads
    refine ⟨rfl, ?_⟩
    rintro q next ⟨⟩

/-- A round that is told to stop has asked for the hosts, and nothing else. -/
lemma leads_round
    (leads : Plan.Leads ((Schedule.throughput.job r).bind fun _ => letGo) turns rest)
    (stops : ∀ turn ∈ turns, turn.question = .inl .cancelled → turn = ⟨.inl .cancelled, true⟩) :
    traces turns = [] ∧ ∀ q next, rest = .ask (.inr q) next → q = .inr .hosts := by
  cases leads with
  | refl =>
    refine ⟨rfl, ?_⟩
    intro q next eq
    cases eq
    rfl
  | ask answer leads =>
    cases answer with
    | error p =>
      obtain ⟨untraced, silent⟩ := leads_letGo leads
      exact ⟨untraced, fun q next eq => absurd eq (silent q next)⟩
    | ok hosts =>
      cases leads with
      | refl =>
        refine ⟨rfl, ?_⟩
        rintro q next ⟨⟩
      | @ask _ _ more _ stop leads =>
        have told := stops ⟨.inl .cancelled, stop⟩ (by simp) rfl
        cases told
        obtain ⟨untraced, silent⟩ := leads_letGo leads
        exact ⟨untraced, fun q next eq => absurd eq (silent q next)⟩

end Plans

lemma mem_of_turnsOf {i : ℕ} {turn : Turn Measuring} (mem : turn ∈ turnsOf log i) :
    ∃ n ∈ log, n.turn = turn := by
  obtain ⟨n, mem, here⟩ := List.mem_filterMap.mp mem
  exact ⟨n, mem, Option.some.inj (Option.ite_none_right_eq_some.mp here).2⟩

lemma Task.tool?_eq_none {t : Task}
    (h : ∀ q next, t.rest = .ask (.inr q) next → q = .inr .hosts) : t.tool? = none := by
  simp only [tool?]
  split
  next c next eq => cases h _ next eq
  next => rfl

/-- Who is quiet leaves no trace and runs no tool. -/
lemma Quiet.untraced {turns : List (Turn Measuring)} {t : Task} (quiet : Quiet turns t) :
    traces turns = [] ∧ t.tool? = none := by
  constructor
  · apply List.filter_eq_nil_iff.mpr
    intro turn mem
    cases asked : turn.question with
    | inl control => exact Bool.false_ne_true
    | inr q => exact absurd asked (quiet.told turn mem q)
  · exact Task.tool?_eq_none fun q next asks => absurd asks (quiet.pending q next)

/-- What a scheduled run that had no slot when the process was told to stop does after that. Unless
it takes a slot that is passed to it, it asks nothing of the bench or of the place where results go.
If it does take one, it does ask. A round then asks for the hosts at most: it runs no tool, and it
submits nothing. -/
theorem runs_without_slot_are_quiet (course : Course r (fresh r) events log s) (stop : s.cancelled)
    (further : Course r s more new s') {i n : ℕ} {t : Task} {k : Schedule}
    (get : s'.tasks[i]? = some t) (source : t.source = .tick k n) (waits : turnsOf log i = []) :
    (taking ∉ turnsOf new i → Quiet (turnsOf new i) t) ∧
      (taking ∈ turnsOf new i → t.broken = false → ¬Quiet (turnsOf new i) t) ∧
      (k = .throughput → traces (turnsOf new i) = [] ∧ t.tool? = none) := by
  have recorded := (course.append further).recorded
  obtain ⟨rest, leads, left⟩ := recorded.leads i t get
  rw [turnsOf_append, waits, List.nil_append, source] at leads
  have stops : ∀ turn ∈ turnsOf new i, turn.question = .inl .cancelled →
      turn = ⟨.inl .cancelled, true⟩ := by
    intro turn mem asked
    obtain ⟨note, noted, rfl⟩ := mem_of_turnsOf mem
    exact (further.told_to_stop stop).2 note noted asked
  -- Of a run that broke off nothing is left to ask.
  have pending {q : Surroundings.Question} {next : Surroundings.Answer q → Plan Measuring Unit}
      (asks : t.rest = .ask (.inr q) next) : rest = .ask (.inr q) next := by
    cases broken : t.broken with
    | true =>
      rw [Task.isFinished_iff.mp (recorded.broken i t get broken).1] at asks
      cases asks
    | false => exact (left broken).trans asks
  generalize turnsOf new i = turns at leads stops ⊢
  rcases leads_tick leads with ⟨rfl, _, waiting⟩ | ⟨rfl, done⟩ | ⟨going, rfl, job⟩
  · have quiet : Quiet [] t :=
      ⟨List.forall_mem_nil _, fun q next asks => nomatch waiting.symm.trans (pending asks)⟩
    exact ⟨fun _ => quiet, nofun, fun _ => quiet.untraced⟩
  · have quiet : Quiet [⟨.inl .takeSlotUnlessCancelled, false⟩] t := by
      refine ⟨List.forall_mem_singleton.mpr (by rintro q ⟨⟩), fun q next asks => ?_⟩
      cases done.symm.trans (pending asks)
    refine ⟨fun _ => quiet, ?_, fun _ => quiet.untraced⟩
    intro mem
    cases List.mem_singleton.mp mem
  · refine ⟨fun untaken => absurd List.mem_cons_self untaken, ?asks, ?round⟩
    case asks =>
      intro _ whole quiet
      obtain ⟨q, next, asks⟩ := k.job_asks r fun _ => letGo
      rw [asks] at job
      cases job with
      | refl => exact quiet.pending q next (left whole).symm
      | ask answer _ => exact quiet.told ⟨.inr q, answer⟩ (by simp) q rfl
    case round =>
      rintro rfl
      obtain ⟨untraced, hosts⟩ := leads_round job (List.forall_mem_cons.mp stops).2
      exact ⟨untraced, Task.tool?_eq_none fun q next asks => hosts q next (pending asks)⟩

/-! ### A crowded daemon -/

/-- A rig with a single slot that starts a speed run every ten seconds. -/
def crowded : Rig :=
  { narrow with testing := { narrow.testing with speedInterval := Settings.seconds 10 } }

/-- What happens until it is told to stop, after fifteen seconds: the first speed run has the slot,
and the round and the second speed run wait in line. -/
def crowding : List Event :=
  [ .tick .speed, .tick .throughput, .enter 0, .enter 1, .proceed 0, .advance 10000000000,
    .tick .speed, .enter 2, .advance 15000000000, .cancel ]

/-- Where a course has come to, another one begins. -/
lemma Course.further {start : State} (_ : Course r start events log s) : Course r s [] [] s := .refl

/-- The tool of the first run is cut and the round is dropped. The second speed run can be dropped
too, or take the slot and run its tool. -/
lemma courses_crowded :
    ∃ log s, Course crowded (fresh crowded) crowding log s ∧ s.cancelled ∧ 2 ∈ s.line ∧
      turnsOf log 2 = [] ∧
      (∃ new s' t, Course crowded s
        [.reply 0 unreachedWorld, .proceed 0, .drop 1, .drop 2] new s' ∧
        s'.tasks[2]? = some t ∧ t.source = .tick .speed 1 ∧
        turnsOf new 2 = [⟨.inl .takeSlotUnlessCancelled, false⟩]) ∧
      ∃ new s' t, Course crowded s
        [.reply 0 unreachedWorld, .proceed 0, .drop 1, .proceed 2, .reply 2 unreachedWorld] new s' ∧
        s'.tasks[2]? = some t ∧ t.source = .tick .speed 1 ∧
        turnsOf new 2 = [taking, ⟨.inr (.inl (.run crowded.speedCommand)),
          .error (.toolFailed "speedtest" "cancelled" none)⟩] := by
  have ticked := ((Course.refl : Course crowded (fresh crowded) [] [] _).step (.tick .speed)
    rfl).step (.tick .throughput) rfl
  have lined := ((ticked.step (.enter 0) rfl).step (.enter 1) rfl).step (.proceed 0) rfl
  have later := (lined.step (.advance 10000000000) rfl).step (.tick .speed) rfl
  have waiting := (later.step (.enter 2) rfl).step (.advance 15000000000) rfl
  have course := waiting.step .cancel rfl
  have freed := (course.further.step (.reply 0 unreachedWorld) rfl).step (.proceed 0) rfl
  have passed := freed.step (.drop 1) rfl
  have taken := (passed.step (.proceed 2) rfl).step (.reply 2 unreachedWorld) rfl
  exact ⟨_, _, course, rfl, by decide, rfl, ⟨_, _, _, passed.step (.drop 2) rfl, rfl, rfl, rfl⟩,
    _, _, _, taken, rfl, rfl, rfl⟩

/-- If the run is dropped, it asks nothing. -/
theorem runs_without_slot_are_quiet_crowded :
    ∃ log s new s' t, Course crowded (fresh crowded) crowding log s ∧ s.cancelled ∧
      Course crowded s [.reply 0 unreachedWorld, .proceed 0, .drop 1, .drop 2] new s' ∧
      s'.tasks[2]? = some t ∧ t.source = .tick .speed 1 ∧ Quiet (turnsOf new 2) t := by
  obtain ⟨log, s, course, stop, -, waits, ⟨new, s', t, further, get, source, dropped⟩, -⟩ :=
    courses_crowded
  obtain ⟨quiet, -⟩ := runs_without_slot_are_quiet course stop further get source waits
  refine ⟨log, s, new, s', t, course, stop, further, get, source, quiet ?_⟩
  rw [dropped]
  intro mem
  cases List.mem_singleton.mp mem

/-- Not every run that waits is dropped: this one had no slot when the process was told to stop, and
it runs its tool after that. -/
theorem waiting_run_measures_after_end :
    ∃ log s new s' t, Course crowded (fresh crowded) crowding log s ∧ s.cancelled ∧ 2 ∈ s.line ∧
      turnsOf log 2 = [] ∧
      Course crowded s
        [.reply 0 unreachedWorld, .proceed 0, .drop 1, .proceed 2, .reply 2 unreachedWorld] new s' ∧
      s'.tasks[2]? = some t ∧ t.source = .tick .speed 1 ∧ ¬Quiet (turnsOf new 2) t := by
  obtain ⟨log, s, course, stop, line, waits, -, new, s', t, further, get, source, told⟩ :=
    courses_crowded
  refine ⟨log, s, new, s', t, course, stop, line, waits, further, get, source, ?_⟩
  intro quiet
  rw [told] at quiet
  exact quiet.told _ (List.mem_cons_of_mem _ List.mem_cons_self) _ rfl

end LinkGauge.Daemon
