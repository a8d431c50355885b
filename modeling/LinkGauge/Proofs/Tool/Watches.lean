import LinkGauge.Proofs.Answers
import LinkGauge.Tool.Rehearsal

/-!
# What comes of a run

A run is decided by the order in which its process exits, its pipes end, its deadline passes and its
cancellation comes. It is whole once the process has exited and both pipes have ended, unless an
interruption comes first, and only a whole run with the status of a success gives output: all that
was ever written to it.
-/

namespace LinkGauge.Tool

/-! ### Courses of events -/

/-- What an interruption makes of a run. -/
def interruption? (c : Command) : Event → Option Result
  | .deadline => some (.error (.timedOut c.program c.deadline))
  | .cancel => some (.error (.toolFailed c.program "cancelled" none))
  | _ => none

/-- Neither the deadline passes nor a cancellation comes. -/
def Undisturbed (events : List Event) : Prop := .deadline ∉ events ∧ .cancel ∉ events

instance (events : List Event) : Decidable (Undisturbed events) :=
  inferInstanceAs (Decidable (_ ∧ _))

/-- The status of a process that has exited. -/
def Event.exit? : Event → Option ExitStatus
  | .exited status => some status
  | _ => none

/-- How the process exited, if it did. -/
def exit? (events : List Event) : Option ExitStatus := events.findSome? Event.exit?

/-- The process has exited and both pipes have ended. -/
def Whole (events : List Event) (status : ExitStatus) : Prop :=
  exit? events = some status ∧ .outputEnds ∈ events ∧ .errorsEnd ∈ events

instance (events : List Event) (status : ExitStatus) : Decidable (Whole events status) :=
  inferInstanceAs (Decidable (_ ∧ _))

/-- What comes out of the pipe for output. -/
def Event.out : Event → Json.Bytes
  | .output bytes => bytes
  | _ => []

/-- What comes out of the pipe for errors. -/
def Event.err : Event → Json.Bytes
  | .errors bytes => bytes
  | _ => []

/-- All that was written to the output. -/
def written (events : List Event) : Json.Bytes := events.flatMap Event.out

/-- All that was written to the errors. -/
def complained (events : List Event) : Json.Bytes := events.flatMap Event.err

/-- Nothing comes out of the pipe for output once that has ended. -/
def Lawful (events : List Event) : Prop :=
  ∀ before after, events = before ++ .outputEnds :: after → written after = []

/-- What a whole run comes to: its output if the process ended with a success, and else what the
process wrote to its errors, without blanks around it, if there is more to it. -/
def verdict (c : Command) (status : ExitStatus) (output errors : Json.Bytes) : Result :=
  if status = .code 0 then .ok output
  else
    .error (.toolFailed c.program ("exited with " ++ status.text)
      (if trim (Utf8.decodeLossy errors) = "" then none
        else some (trim (Utf8.decodeLossy errors))))

/-- In which order events come when a run gives a result, and which one. -/
inductive Returns (c : Command) : List Event → Result → Prop where
  /-- The last of the exit and the two ends of pipes comes before any interruption. -/
  | whole {before : List Event} {last : Event} {status : ExitStatus} (after : List Event)
      (quiet : Undisturbed (before ++ [last])) (not : ∀ s, ¬Whole before s)
      (now : Whole (before ++ [last]) status) :
      Returns c (before ++ last :: after)
        (verdict c status (written (before ++ [last])) (complained (before ++ [last])))
  /-- The run is interrupted when the process has exited, but a pipe is still open. -/
  | held {before : List Event} {i : Event} {status : ExitStatus} {r : Result} (after : List Event)
      (quiet : Undisturbed before) (exited : exit? before = some status)
      (not : ¬Whole before status) (interrupts : interruption? c i = some r) :
      Returns c (before ++ i :: after) r
  /-- The run is interrupted and the process is killed. The result is there once it has exited. -/
  | killed {before mid : List Event} {i : Event} {status : ExitStatus} {r : Result}
      (after : List Event) (quiet : Undisturbed before)
      (runs : exit? before = none) (interrupts : interruption? c i = some r)
      (dies : exit? mid = none) : Returns c (before ++ i :: (mid ++ .exited status :: after)) r

section Courses

variable {c : Command} {events before after : List Event} {e : Event} {status : ExitStatus}

lemma undisturbed_append :
    Undisturbed (before ++ after) ↔ Undisturbed before ∧ Undisturbed after := by
  simp only [Undisturbed, List.mem_append, not_or]
  tauto

lemma undisturbed_singleton : Undisturbed [e] ↔ interruption? c e = none := by
  cases e <;> simp [Undisturbed, interruption?]

lemma undisturbed_cons :
    Undisturbed (e :: after) ↔ interruption? c e = none ∧ Undisturbed after := by
  rw [← List.singleton_append, undisturbed_append, undisturbed_singleton]

lemma exit?_append : exit? (before ++ after) = (exit? before).or (exit? after) :=
  List.findSome?_append

lemma exit?_singleton : exit? [e] = e.exit? := by
  simp [exit?]

lemma written_append : written (before ++ after) = written before ++ written after :=
  List.flatMap_append

/-- What disturbs a course first is an interruption. -/
lemma exists_interruption (h : ¬Undisturbed events) :
    ∃ before i after r, events = before ++ i :: after ∧ Undisturbed before ∧
      interruption? c i = some r := by
  induction events with
  | nil => exact absurd ⟨List.not_mem_nil, List.not_mem_nil⟩ h
  | cons e rest ih =>
    cases interrupts : interruption? c e with
    | some r => exact ⟨[], e, rest, r, rfl, ⟨List.not_mem_nil, List.not_mem_nil⟩, interrupts⟩
    | none =>
      have disturbed : ¬Undisturbed rest := fun calm =>
        h (undisturbed_cons.mpr ⟨interrupts, calm⟩)
      obtain ⟨before, i, after, r, rfl, calm, found⟩ := ih disturbed
      exact ⟨e :: before, i, after, r, rfl, undisturbed_cons.mpr ⟨interrupts, calm⟩, found⟩

/-- A whole run became whole with one of its events. -/
lemma exists_last (h : Whole events status) :
    ∃ before last after, events = before ++ last :: after ∧ (∀ s, ¬Whole before s) ∧
      Whole (before ++ [last]) status := by
  induction events using List.reverseRecOn with
  | nil => exact absurd h.2.1 List.not_mem_nil
  | append_singleton before last ih =>
    by_cases whole : ∃ s, Whole before s
    · obtain ⟨s, whole⟩ := whole
      obtain rfl : s = status := by
        have exited := h.1
        rw [exit?_append, whole.1] at exited
        exact Option.some.inj exited
      obtain ⟨first, last', after, rfl, not, now⟩ := ih whole
      exact ⟨first, last', after ++ [last], by simp, not, now⟩
    · exact ⟨before, last, [], rfl, not_exists.mp whole, h⟩

end Courses

/-! ### Pipes -/

namespace Watch

variable {c : Command} {w : Watch} {events before after : List Event} {e : Event} {r : Result}
  {status : ExitStatus}

/-- A watch as it begins. -/
def begun (c : Command) : Watch := ⟨c, .running, ⟨[], false⟩, ⟨[], false⟩⟩

lemma steps_append (w : Watch) (before after : List Event) :
    w.steps (before ++ after) = (w.steps before).steps after :=
  List.foldl_append

lemma steps_snoc (w : Watch) (before : List Event) (e : Event) :
    w.steps (before ++ [e]) = (w.steps before).step e := by
  rw [steps_append]
  rfl

/-! To settle or to interrupt changes nothing but the phase. -/

@[simp] lemma command_settle (w : Watch) : w.settle.command = w.command := by
  simp only [settle]
  split <;> [split; skip] <;> rfl

@[simp] lemma output_settle (w : Watch) : w.settle.output = w.output := by
  simp only [settle]
  split <;> [split; skip] <;> rfl

@[simp] lemma errors_settle (w : Watch) : w.settle.errors = w.errors := by
  simp only [settle]
  split <;> [split; skip] <;> rfl

@[simp] lemma command_interrupt (w : Watch) (r : Result) :
    (w.interrupt r).command = w.command := by
  simp only [interrupt]
  split <;> rfl

@[simp] lemma output_interrupt (w : Watch) (r : Result) : (w.interrupt r).output = w.output := by
  simp only [interrupt]
  split <;> rfl

@[simp] lemma errors_interrupt (w : Watch) (r : Result) : (w.interrupt r).errors = w.errors := by
  simp only [interrupt]
  split <;> rfl

@[simp] lemma command_step (w : Watch) (e : Event) : (w.step e).command = w.command := by
  cases e with
  | exited status => cases phase : w.phase <;> simp [step, phase]
  | _ => simp [step]

@[simp] lemma output_step (w : Watch) (e : Event) :
    (w.step e).output = ⟨w.output.bytes ++ e.out, w.output.ended || decide (e = .outputEnds)⟩ := by
  cases e with
  | exited status => cases phase : w.phase <;> simp [step, phase, Event.out]
  | _ => simp [step, Event.out]

@[simp] lemma errors_step (w : Watch) (e : Event) :
    (w.step e).errors = ⟨w.errors.bytes ++ e.err, w.errors.ended || decide (e = .errorsEnd)⟩ := by
  cases e with
  | exited status => cases phase : w.phase <;> simp [step, phase, Event.err]
  | _ => simp [step, Event.err]

@[simp] lemma command_steps (c : Command) (events : List Event) :
    ((begun c).steps events).command = c := by
  induction events using List.reverseRecOn with
  | nil => rfl
  | append_singleton before e ih => simp [steps_snoc, ih]

/-- All that is written to the output is kept. -/
@[simp] lemma output_steps (c : Command) (events : List Event) :
    ((begun c).steps events).output = ⟨written events, decide (.outputEnds ∈ events)⟩ := by
  induction events using List.reverseRecOn with
  | nil => rfl
  | append_singleton before e ih => simp [steps_snoc, ih, written, eq_comm]

@[simp] lemma errors_steps (c : Command) (events : List Event) :
    ((begun c).steps events).errors = ⟨complained events, decide (.errorsEnd ∈ events)⟩ := by
  induction events using List.reverseRecOn with
  | nil => rfl
  | append_singleton before e ih => simp [steps_snoc, ih, complained, eq_comm]

/-! ### Phases -/

/-- Where a run stands that nothing interrupts. -/
def settled (w : Watch) : Option ExitStatus → Phase
  | none => .running
  | some status =>
    if w.output.ended && w.errors.ended then .over (w.outcome status) else .draining status

/-- As long as nothing interrupts a run, only the exit and the ends of the pipes count. -/
lemma phase_step {exited : Option ExitStatus} (phase : w.phase = w.settled exited)
    (goesOn : ∀ r, w.phase ≠ .over r) (quiet : interruption? c e = none) :
    (w.step e).phase = (w.step e).settled (exited.or e.exit?) := by
  obtain ⟨command, p, ⟨out, outEnded⟩, ⟨err, errEnded⟩⟩ := w
  cases exited with
  | none =>
    obtain rfl : p = .running := phase
    cases e with
    | exited status =>
      simp only [step, settle, settled, Event.exit?, Option.none_or]
      split <;> simp [*, outcome, complaint?]
    | deadline => cases quiet
    | cancel => cases quiet
    | _ => rfl
  | some status =>
    have held : ¬(outEnded && errEnded) := by
      intro ended
      rw [settled, if_pos ended] at phase
      exact goesOn _ phase
    obtain rfl : p = .draining status := by rwa [settled, if_neg held] at phase
    cases e with
    | exited status' => simp [step, settled, held]
    | output bytes => simp [step, settled, held]
    | errors bytes => simp [step, settled, held]
    | outputEnds =>
      simp only [step, settle, settled, Option.some_or]
      split <;> simp [*, outcome, complaint?]
    | errorsEnd =>
      simp only [step, settle, settled, Option.some_or]
      split <;> simp [*, outcome, complaint?]
    | deadline => cases quiet
    | cancel => cases quiet

lemma outcome_steps (c : Command) (events : List Event) (status : ExitStatus) :
    ((begun c).steps events).outcome status =
      verdict c status (written events) (complained events) := by
  have told : ((begun c).steps events).complaint? =
      if trim (Utf8.decodeLossy (complained events)) = "" then none
        else some (trim (Utf8.decodeLossy (complained events))) := by
    simp only [complaint?, errors_steps]
    split
    · next blank => rw [if_pos blank]
    · next blank => rw [if_neg blank]
  simp [outcome, verdict, ExitStatus.isSuccess, told]

/-- A run whose process is still there is running. -/
lemma settled_of_exit?_eq_none (w : Watch) (runs : exit? events = none) :
    w.settled (exit? events) = .running := by
  rw [runs, settled]

/-- A run whose process has exited is drained until it is whole. -/
lemma settled_of_not_whole (exited : exit? events = some status) (not : ¬Whole events status) :
    ((begun c).steps events).settled (exit? events) = .draining status := by
  have held : ¬(((begun c).steps events).output.ended &&
      ((begun c).steps events).errors.ended) := by
    intro ended
    simp only [output_steps, errors_steps, Bool.and_eq_true, decide_eq_true_eq] at ended
    exact not ⟨exited, ended⟩
  rw [exited, settled, if_neg held]

lemma settled_of_whole (whole : Whole events status) :
    ((begun c).steps events).settled (exit? events) =
      .over (verdict c status (written events) (complained events)) := by
  obtain ⟨exited, output, errors⟩ := whole
  rw [exited, settled, if_pos (by simp [output, errors]), outcome_steps]

/-- Before a run is whole, it is not over. -/
lemma settled_ne_over (not : ∀ s, ¬Whole events s) (r : Result) :
    ((begun c).steps events).settled (exit? events) ≠ .over r := by
  cases exited : exit? events with
  | none =>
    rw [← exited, settled_of_exit?_eq_none _ exited]
    nofun
  | some status =>
    rw [← exited, settled_of_not_whole exited (not status)]
    nofun

/-- Before the process has exited, a run is not whole. -/
lemma not_whole_of_exit?_eq_none (runs : exit? events = none) (s : ExitStatus) :
    ¬Whole events s := by
  rintro ⟨exited, -⟩
  rw [runs] at exited
  cases exited

lemma not_whole_of_append (not : ∀ s, ¬Whole (before ++ after) s) (s : ExitStatus) :
    ¬Whole before s := by
  rintro ⟨exited, output, errors⟩
  apply not s
  refine ⟨?_, List.mem_append_left _ output, List.mem_append_left _ errors⟩
  rw [exit?_append, exited, Option.some_or]

/-- One event more. -/
lemma phase_next
    (phase : ((begun c).steps before).phase = ((begun c).steps before).settled (exit? before))
    (not : ∀ s, ¬Whole before s) (quiet : interruption? c e = none) :
    ((begun c).steps (before ++ [e])).phase =
      ((begun c).steps (before ++ [e])).settled (exit? (before ++ [e])) := by
  have goesOn : ∀ r, ((begun c).steps before).phase ≠ .over r := by
    rw [phase]
    exact settled_ne_over not
  rw [steps_snoc, exit?_append, exit?_singleton]
  exact phase_step phase goesOn quiet

lemma phase_undisturbed (quiet : Undisturbed events) (not : ∀ s, ¬Whole events s) :
    ((begun c).steps events).phase = ((begun c).steps events).settled (exit? events) := by
  induction events using List.reverseRecOn with
  | nil => rfl
  | append_singleton before e ih =>
    obtain ⟨quiet, calm⟩ := undisturbed_append.mp quiet
    have not := not_whole_of_append not
    exact phase_next (ih quiet not) not (undisturbed_singleton.mp calm)

/-- With its last event a run is over. -/
lemma result?_whole {last : Event} (quiet : Undisturbed (before ++ [last]))
    (not : ∀ s, ¬Whole before s) (now : Whole (before ++ [last]) status) :
    ((begun c).steps (before ++ [last])).result? =
      some (verdict c status (written (before ++ [last])) (complained (before ++ [last]))) := by
  obtain ⟨quiet, calm⟩ := undisturbed_append.mp quiet
  have phase := phase_next (c := c) (phase_undisturbed quiet not) not
    (undisturbed_singleton.mp calm)
  rw [settled_of_whole now] at phase
  simp [result?, phase]

/-- An interruption is over at once where the process has exited. -/
lemma result?_held {i : Event} (quiet : Undisturbed before)
    (exited : exit? before = some status) (not : ¬Whole before status)
    (interrupts : interruption? c i = some r) :
    ((begun c).steps (before ++ [i])).result? = some r := by
  have unfinished (s : ExitStatus) : ¬Whole before s := by
    rintro ⟨exited', ends⟩
    obtain rfl : status = s := Option.some.inj (exited.symm.trans exited')
    exact not ⟨exited, ends⟩
  have phase := phase_undisturbed (c := c) quiet unfinished
  rw [settled_of_not_whole exited not] at phase
  rw [steps_snoc]
  cases i <;> cases interrupts <;> simp [step, interrupt, phase, result?, timedOut, cancelled]

/-- A process that still runs is killed by an interruption. -/
lemma phase_killed {i : Event} (quiet : Undisturbed before) (runs : exit? before = none)
    (interrupts : interruption? c i = some r) :
    ((begun c).steps (before ++ [i])).phase = .killing r := by
  have phase := phase_undisturbed (c := c) quiet (not_whole_of_exit?_eq_none runs)
  rw [settled_of_exit?_eq_none _ runs] at phase
  rw [steps_snoc]
  cases i <;> cases interrupts <;> simp [step, interrupt, phase, timedOut, cancelled]

/-- The end of a killed process is waited for. -/
lemma phase_killing {mid : List Event} (phase : w.phase = .killing r) (dies : exit? mid = none) :
    (w.steps mid).phase = .killing r := by
  induction mid using List.reverseRecOn with
  | nil => exact phase
  | append_singleton before e ih =>
    rw [exit?_append, Option.or_eq_none_iff, exit?_singleton] at dies
    have phase := ih dies.1
    rw [steps_snoc]
    cases e with
    | exited status => cases dies.2
    | _ => simp [step, settle, interrupt, phase]

lemma result?_reaped (phase : w.phase = .killing r) :
    (w.step (.exited status)).result? = some r := by
  simp [step, phase, result?]

/-! ### Results -/

/-- What was returned is the result. -/
lemma result?_of_returns (h : Returns c events r) : ((begun c).steps events).result? = some r := by
  cases h with
  | whole after quiet not now =>
    rw [List.append_cons, steps_append]
    exact result?_steps (result?_whole quiet not now) after
  | held after quiet exited not interrupts =>
    rw [List.append_cons, steps_append]
    exact result?_steps (result?_held quiet exited not interrupts) after
  | killed after quiet runs interrupts dies =>
    rw [List.append_cons, steps_append, steps_append]
    have killing := phase_killing (phase_killed quiet runs interrupts) dies
    exact result?_steps (result?_reaped killing) after

/-- As long as the process is there, or nothing interrupts the run and it is not whole, there is no
result. -/
lemma result?_eq_none
    (h : exit? events = none ∨ Undisturbed events ∧ ∀ s, ¬Whole events s) :
    ((begun c).steps events).result? = none := by
  by_cases quiet : Undisturbed events
  · have not (s : ExitStatus) : ¬Whole events s := by
      rcases h with runs | ⟨-, not⟩
      · exact not_whole_of_exit?_eq_none runs s
      · exact not s
    have goesOn := settled_ne_over (c := c) not
    rw [← phase_undisturbed quiet not] at goesOn
    rw [result?]
    split
    · next r phase => exact absurd phase (goesOn r)
    · rfl
  · have runs := h.resolve_right fun calm => quiet calm.1
    obtain ⟨before, i, after, r, rfl, calm, interrupts⟩ := exists_interruption (c := c) quiet
    rw [exit?_append, Option.or_eq_none_iff] at runs
    have dies : exit? after = none := by
      have later := runs.2
      rw [← List.singleton_append, exit?_append, Option.or_eq_none_iff] at later
      exact later.2
    rw [List.append_cons, steps_append, result?,
      phase_killing (phase_killed calm runs.1 interrupts) dies]

end Watch

section Orders

variable {c : Command} {events before after : List Event} {status : ExitStatus} {r : Result}

/-- A run that became whole undisturbed has returned, whatever happens later. -/
lemma exists_returns_of_whole (quiet : Undisturbed before) (whole : Whole before status)
    (after : List Event) : ∃ r, Returns c (before ++ after) r := by
  obtain ⟨first, last, rest, rfl, not, now⟩ := exists_last whole
  rw [List.append_cons] at quiet
  rw [List.append_assoc, List.cons_append]
  exact ⟨_, .whole _ (undisturbed_append.mp quiet).1 not now⟩

/-- A run that is interrupted while its process is there returns once that has exited. -/
lemma returns_of_killed {i : Event} (quiet : Undisturbed before) (runs : exit? before = none)
    (interrupts : interruption? c i = some r) (exited : exit? (i :: after) = some status) :
    Returns c (before ++ i :: after) r := by
  obtain ⟨mid, e, rest, eq, dead, lives⟩ := List.findSome?_eq_some_iff.mp exited
  obtain rfl : e = .exited status := by
    cases e <;> cases dead
    rfl
  cases mid with
  | nil =>
    obtain ⟨rfl, -⟩ := List.cons.inj eq
    cases interrupts
  | cons first mid =>
    obtain ⟨rfl, rfl⟩ := List.cons.inj eq
    refine .killed rest quiet runs interrupts (List.findSome?_eq_none_iff.mpr ?_)
    exact fun e mem => lives e (List.mem_cons_of_mem _ mem)

/-- Once the process has exited and either the run was interrupted or it is whole, something is
returned. -/
lemma exists_returns (exited : exit? events ≠ none)
    (ends : ¬Undisturbed events ∨ ∃ status, Whole events status) : ∃ r, Returns c events r := by
  by_cases quiet : Undisturbed events
  · obtain ⟨status, whole⟩ := ends.resolve_left (not_not.mpr quiet)
    simpa using exists_returns_of_whole (c := c) quiet whole []
  · obtain ⟨before, i, after, r, rfl, calm, interrupts⟩ := exists_interruption (c := c) quiet
    cases early : exit? before with
    | some status =>
      by_cases whole : Whole before status
      · exact exists_returns_of_whole calm whole _
      · exact ⟨r, .held after calm early whole interrupts⟩
    | none =>
      rw [exit?_append, early, Option.none_or] at exited
      obtain ⟨status, late⟩ := Option.ne_none_iff_exists'.mp exited
      exact ⟨r, returns_of_killed calm early interrupts late⟩

/-- A run has a result in exactly these orders. -/
lemma result?_iff_returns :
    ((Watch.begun c).steps events).result? = some r ↔ Returns c events r := by
  refine ⟨?_, Watch.result?_of_returns⟩
  intro h
  have some : ((Watch.begun c).steps events).result? ≠ none := by
    rw [h]
    nofun
  obtain ⟨r', returns⟩ : ∃ r, Returns c events r := by
    apply exists_returns
    · exact fun runs => some (Watch.result?_eq_none (.inl runs))
    · by_contra neither
      simp only [not_or, not_not, not_exists] at neither
      exact some (Watch.result?_eq_none (.inr neither))
  obtain rfl : r = r' := Option.some.inj (h.symm.trans (Watch.result?_of_returns returns))
  exact returns

end Orders

lemma watch_eq {c : Command} (told : c.deadline.seconds < Word.half64) :
    watch c = .ok (.begun c) :=
  if_pos told

/-- In a lawful course, nothing is written that a whole run does not return. -/
lemma written_of_whole {before after : List Event} {status : ExitStatus}
    (whole : Whole before status) (lawful : Lawful (before ++ after)) :
    written (before ++ after) = written before := by
  obtain ⟨-, ended, -⟩ := whole
  obtain ⟨first, rest, rfl⟩ := List.append_of_mem ended
  have nothing := lawful first (rest ++ after) (by simp)
  rw [written_append] at nothing ⊢
  rw [(List.append_eq_nil_iff.mp nothing).2, List.append_nil]

/-- No output is returned of an interrupted run. -/
lemma whole_of_returns_ok {c : Command} {events : List Event} {bytes : Json.Bytes}
    (returns : Returns c events (.ok bytes)) :
    ∃ before after, events = before ++ after ∧ Undisturbed before ∧ Whole before (.code 0) ∧
      bytes = written before := by
  have error {i : Event} (interrupts : interruption? c i = some (.ok bytes)) : False := by
    cases i <;> cases interrupts
  generalize eq : Except.ok bytes = r at returns
  cases returns with
  | @whole before last status after quiet not now =>
    simp only [verdict] at eq
    split at eq
    next success =>
      subst success
      exact ⟨_, after, List.append_cons .., quiet, now, Except.ok.inj eq⟩
    next => cases eq
  | held after quiet exited not interrupts =>
    subst eq
    exact (error interrupts).elim
  | killed after quiet runs interrupts dies =>
    subst eq
    exact (error interrupts).elim

/-- What comes of a run is decided by the order of its events. There is a result once the process
has exited and either the run was interrupted or both pipes have ended, and it is the one that
`Returns` tells. If it is output, then the process ended with a success and its pipes did before
anything interrupted the run, and it is all that was ever written. A process that still runs when it
is interrupted is killed, and nothing is returned before it has exited. A tool that cannot be
started is a failure. -/
theorem order_decides_runs (c : Command) :
    (c.deadline.seconds < Word.half64 →
      ∃ w, watch c = .ok w ∧
        (∀ events r, (w.steps events).result? = some r ↔ Returns c events r) ∧
        (∀ events, (∃ r, (w.steps events).result? = some r) ↔
          exit? events ≠ none ∧ (¬Undisturbed events ∨ ∃ status, Whole events status)) ∧
        (∀ events bytes, (w.steps events).result? = some (.ok bytes) →
          (∃ before after, events = before ++ after ∧ Undisturbed before ∧
            Whole before (.code 0)) ∧
          (Lawful events → bytes = written events)) ∧
        (∀ before i r, Undisturbed before → exit? before = none → interruption? c i = some r →
          (w.steps (before ++ [i])).phase = .killing r ∧
            ∀ mid, exit? mid = none → (w.steps (before ++ i :: mid)).result? = none) ∧
        ∀ cancelAfter course, play c = .ok course → ∀ r,
          rehearse c cancelAfter = .ok (some r) ↔
            Returns c (happenings c course cancelAfter) r) ∧
    ∀ cancelAfter reason, play c = .error reason →
      rehearse c cancelAfter =
        .ok (some (.error (.toolFailed c.program ("failed to spawn: " ++ reason) none))) := by
  constructor
  · intro told
    refine ⟨.begun c, watch_eq told, fun _ _ => result?_iff_returns, ?ends, ?ok, ?killed, ?played⟩
    case ends =>
      intro events
      constructor
      · rintro ⟨r, some⟩
        by_contra neither
        rw [not_and_or, not_not, not_or, not_not, not_exists] at neither
        rw [Watch.result?_eq_none neither] at some
        cases some
      · rintro ⟨exited, ends⟩
        obtain ⟨r, returns⟩ := exists_returns (c := c) exited ends
        exact ⟨r, result?_iff_returns.mpr returns⟩
    case ok =>
      intro events bytes some
      obtain ⟨before, after, rfl, quiet, whole, rfl⟩ :=
        whole_of_returns_ok (result?_iff_returns.mp some)
      exact ⟨⟨before, after, rfl, quiet, whole⟩, fun lawful => (written_of_whole whole lawful).symm⟩
    case killed =>
      intro before i r quiet runs interrupts
      have killing := Watch.phase_killed quiet runs interrupts
      refine ⟨killing, ?_⟩
      intro mid dies
      rw [List.append_cons, Watch.steps_append, Watch.result?, Watch.phase_killing killing dies]
    case played =>
      intro cancelAfter course played r
      simp [← result?_iff_returns, rehearse, played, watch_eq told]
  · intro cancelAfter reason refused
    rw [rehearse, refused]
    rfl

/-- A tool with a deadline. -/
def Command.brief : Command := ⟨"iperf3", ["-J"], .ofSeconds 2⟩

/-- A process has ended with a success, and its output is held open until the deadline. In another
order of the same events, all that it wrote is returned. -/
theorem order_decides_runs_held :
    ∃ w, watch Command.brief = .ok w ∧
      (w.steps [.output [0x7B], .exited (.code 0), .errorsEnd, .output [0x7D], .deadline,
        .outputEnds]).result? = some (.error (.timedOut "iperf3" (.ofSeconds 2))) ∧
      (w.steps [.output [0x7B], .errorsEnd, .output [0x7D], .outputEnds, .exited (.code 0),
        .deadline]).result? = some (.ok [0x7B, 0x7D]) := by
  obtain ⟨w, begun, decides, -⟩ := (order_decides_runs Command.brief).1 (by decide)
  refine ⟨w, begun, (decides _ _).mpr ?_, (decides _ _).mpr ?_⟩
  · exact @Returns.held _ [.output [0x7B], .exited (.code 0), .errorsEnd, .output [0x7D]]
      .deadline (.code 0) _ [.outputEnds] (by decide) rfl (by decide) rfl
  · refine @Returns.whole _ [.output [0x7B], .errorsEnd, .output [0x7D], .outputEnds]
      (.exited (.code 0)) (.code 0) [.deadline] (by decide) ?_ (by decide)
    rintro status ⟨exited, -⟩
    cases exited

end LinkGauge.Tool
