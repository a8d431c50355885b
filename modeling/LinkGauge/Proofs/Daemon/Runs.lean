import LinkGauge.Daemon.Machine
import LinkGauge.Proofs.Plans

/-!
# Courses of the daemon

What each event does, and what it tells the runs. A property of all states that the daemon can come
to is proved from what events do, one by one.
-/

namespace LinkGauge.Daemon

open Plan (Turn)

/-! ### Courses -/

/-- A turn of the run in a place. -/
structure Told where
  task : ℕ
  turn : Turn Measuring

/-- What an event tells a run. -/
def told (s : State) : Event → Option Told
  | .proceed i => s.tasks[i]?.bind fun t =>
    match t.rest with
    | .ask (.inl q) _ => (processAnswer s t q).map fun a => ⟨i, ⟨.inl q, a⟩⟩
    | _ => none
  | .drop i => some ⟨i, ⟨.inl .takeSlotUnlessCancelled, false⟩⟩
  | .reply i answer => s.tasks[i]?.bind fun t =>
    match t.rest with
    | .ask (.inr q) _ => some ⟨i, ⟨.inr q, answer q⟩⟩
    | _ => none
  | _ => none

/-- A course of events, with all that runs are told on the way, from a state to another. -/
inductive Course (r : Rig) (start : State) : List Event → List Told → State → Prop where
  | refl : Course r start [] [] start
  | step {events : List Event} {log : List Told} {s s' : State}
      (course : Course r start events log s) (e : Event) (happens : step r s e = some s') :
      Course r start (events ++ [e]) (log ++ (told s e).toList) s'

/-- The turns of the run in a place. -/
def turnsOf (log : List Told) (i : ℕ) : List (Turn Measuring) :=
  log.filterMap fun n => if n.task = i then some n.turn else none

/-! ### What events do -/

/-- An event, what it tells a run, and the state after it. -/
inductive Moves (r : Rig) (s : State) : Event → Option Told → State → Prop where
  | advance {time : ℕ} (later : s.now ≤ time) :
      Moves r s (.advance time) none { s with now := time }
  | tick {k : Schedule} (scheduling : s.scheduling) (due : s.due k ≤ s.now) :
      Moves r s (.tick k) none
        { s.spawn (.tick k (s.started k)) r with
          due := Schedule.put s.due k (s.dueNext r k)
          started := Schedule.put s.started k (s.started k + 1)
          unjoined := s.unjoined ++ [s.tasks.length] }
  | demand (d : Demand) : Moves r s (.demand d) none (s.spawn (.demand d) r)
  | cancel :
      Moves r s .cancel none { s with cancelledAt := some (s.cancelledAt.getD s.now) }
  | stop (cancelled : s.cancelled) : Moves r s .stop none { s with scheduling := false }
  | join {i : ℕ} {t : Task} (get : s.tasks[i]? = some t) (mem : i ∈ s.unjoined)
      (finished : t.isFinished) :
      Moves r s (.join i) none { s with unjoined := s.unjoined.erase i }
  | take {i : ℕ} {t : Task} (get : s.tasks[i]? = some t) (wants : t.wantsSlot)
      (holds : t.holdsSlot = false) (out : i ∉ s.line) (free : 0 < s.freeSlots) :
      Moves r s (.enter i) none ({ s with freeSlots := s.freeSlots - 1 }.grant i)
  | queue {i : ℕ} {t : Task} (get : s.tasks[i]? = some t) (wants : t.wantsSlot)
      (holds : t.holdsSlot = false) (out : i ∉ s.line) (full : s.freeSlots = 0) :
      Moves r s (.enter i) none { s with line := s.line ++ [i] }
  | proceed {i : ℕ} {t : Task} {q : Control.Question}
      {next : Control.Answer q → Plan Measuring Unit} {a : Control.Answer q}
      (get : s.tasks[i]? = some t) (rest : t.rest = .ask (.inl q) next) (keeps : q ≠ .freeSlot)
      (answer : processAnswer s t q = some a) :
      Moves r s (.proceed i) (some ⟨i, ⟨.inl q, a⟩⟩) (s.setTask i { t with rest := next a })
  | free {i : ℕ} {t : Task} {next : Unit → Plan Measuring Unit} (get : s.tasks[i]? = some t)
      (rest : t.rest = .ask (.inl .freeSlot) next) :
      Moves r s (.proceed i) (some ⟨i, ⟨.inl .freeSlot, ()⟩⟩) (s.leave i t (next ()) t.broken)
  | drop {i : ℕ} {t : Task} {next : Bool → Plan Measuring Unit} (get : s.tasks[i]? = some t)
      (rest : t.rest = .ask (.inl .takeSlotUnlessCancelled) next) (cancelled : s.cancelled) :
      Moves r s (.drop i) (some ⟨i, ⟨.inl .takeSlotUnlessCancelled, false⟩⟩)
        (s.leave i t (next false) t.broken)
  | reply {i : ℕ} {t : Task} {q : Surroundings.Question}
      {next : Surroundings.Answer q → Plan Measuring Unit} (get : s.tasks[i]? = some t)
      (rest : t.rest = .ask (.inr q) next)
      (answer : (q : Surroundings.Question) → Surroundings.Answer q) :
      Moves r s (.reply i answer) (some ⟨i, ⟨.inr q, answer q⟩⟩)
        (s.setTask i { t with rest := next (answer q) })
  | panic {i : ℕ} {t : Task} (get : s.tasks[i]? = some t) (unfinished : t.isFinished = false)
      (busy : t.wantsSlot = false) : Moves r s (.panic i) none (s.leave i t (.done ()) true)
  | abandon {i : ℕ} {t : Task} (get : s.tasks[i]? = some t) (unfinished : t.isFinished = false)
      (demanded : t.source.isDemand) : Moves r s (.abandon i) none (s.leave i t (.done ()) true)

variable {r : Rig} {s s' : State} {e : Event}

/-- What happens at a place happens to a run. -/
private lemma at_place {i : ℕ} {f : Task → Option State} (h : s.tasks[i]?.bind f = some s') :
    ∃ t, s.tasks[i]? = some t ∧ f t = some s' := Option.bind_eq_some_iff.mp h

/-- An event that can happen does what it stands for, and nothing else. -/
theorem moves_of_step (h : step r s e = some s') : Moves r s e (told s e) s' := by
  cases e with
  | advance time =>
    obtain ⟨later, ⟨⟩⟩ := Option.ite_none_right_eq_some.mp h
    exact .advance later
  | tick k =>
    obtain ⟨⟨scheduling, due⟩, ⟨⟩⟩ := Option.ite_none_right_eq_some.mp h
    exact .tick scheduling due
  | demand d =>
    cases h
    exact .demand d
  | cancel =>
    cases h
    exact .cancel
  | stop =>
    obtain ⟨cancelled, ⟨⟩⟩ := Option.ite_none_right_eq_some.mp h
    exact .stop cancelled
  | join i =>
    obtain ⟨t, get, h⟩ := at_place h
    obtain ⟨⟨mem, finished⟩, ⟨⟩⟩ := Option.ite_none_right_eq_some.mp h
    exact .join get mem finished
  | enter i =>
    obtain ⟨t, get, h⟩ := at_place h
    obtain ⟨⟨wants, holds, out⟩, h⟩ := Option.ite_none_right_eq_some.mp h
    rw [Bool.not_eq_true] at holds
    split at h
    · cases h
      exact .take get wants holds out ‹_›
    · cases h
      exact .queue get wants holds out (Nat.eq_zero_of_not_pos ‹_›)
  | proceed i =>
    obtain ⟨t, get, h⟩ := at_place h
    rw [told, get]
    rcases t with ⟨source, start, holds, _ | ⟨q | q, next⟩, broken⟩
    · cases h
    · obtain ⟨a, answer, h⟩ := Option.map_eq_some_iff.mp h
      change Moves r s (.proceed i) ((processAnswer s _ q).map fun a => ⟨i, ⟨.inl q, a⟩⟩) s'
      rw [answer]
      cases q with
      | freeSlot =>
        cases h
        exact .free get rfl
      | cancelled | takeSlot | takeSlotUnlessCancelled | abort =>
        cases h
        exact .proceed get rfl nofun answer
    · cases h
  | drop i =>
    obtain ⟨t, get, h⟩ := at_place h
    rw [drop] at h
    split at h
    case h_1 next rest =>
      obtain ⟨cancelled, ⟨⟩⟩ := Option.ite_none_right_eq_some.mp h
      exact .drop get rest cancelled
    · cases h
  | reply i answer =>
    obtain ⟨t, get, h⟩ := at_place h
    rw [told, get]
    rcases t with ⟨source, start, holds, _ | ⟨q | q, next⟩, broken⟩
    · cases h
    · cases h
    · cases h
      exact .reply get rfl answer
  | panic i =>
    obtain ⟨t, get, h⟩ := at_place h
    obtain ⟨can, ⟨⟩⟩ := Option.ite_none_left_eq_some.mp h
    rw [not_or, Bool.not_eq_true, Bool.not_eq_true] at can
    exact .panic get can.1 can.2
  | abandon i =>
    obtain ⟨t, get, h⟩ := at_place h
    obtain ⟨⟨demanded, unfinished⟩, ⟨⟩⟩ := Option.ite_none_right_eq_some.mp h
    rw [Bool.not_eq_true] at unfinished
    exact .abandon get unfinished demanded

/-! ### Where runs are found -/

lemma get_setTask {i : ℕ} {t u : Task} (get : s.tasks[i]? = some t) (j : ℕ) :
    (s.setTask i u).tasks[j]? = if i = j then some u else s.tasks[j]? := by
  obtain ⟨lt, -⟩ := List.getElem?_eq_some_iff.mp get
  rw [State.setTask, List.getElem?_set, if_pos lt]

/-- A slot that is passed on changes nothing else about any run. -/
lemma get_passSlot {j : ℕ} {t : Task} (get : s.tasks[j]? = some t) :
    ∃ b, s.passSlot.tasks[j]? = some { t with holdsSlot := b } := by
  simp only [State.passSlot]
  split
  · exact ⟨t.holdsSlot, get⟩
  case h_2 i line _ =>
    rw [State.grant, List.getElem?_modify, get]
    by_cases eq : i = j
    · exact ⟨true, by simp [eq]⟩
    · exact ⟨t.holdsSlot, by simp [eq]⟩

/-- Where one run leaves, the others keep all but their place in line. -/
lemma get_leave {i j : ℕ} {t u : Task} {rest : Plan Measuring Unit} {broken : Bool}
    (get : s.tasks[i]? = some t) (get' : s.tasks[j]? = some u) :
    ∃ b, (s.leave i t rest broken).tasks[j]? =
      some (if i = j then { t with holdsSlot := b, rest, broken }
        else { u with holdsSlot := b }) := by
  have set : (State.setTask { s with line := s.line.erase i } i
      { t with holdsSlot := false, rest, broken }).tasks[j]? =
      some (if i = j then { t with holdsSlot := false, rest, broken } else u) := by
    rw [get_setTask (s := { s with line := s.line.erase i }) get, apply_ite some, get']
  simp only [State.leave]
  by_cases held : t.holdsSlot
  · rw [if_pos held]
    obtain ⟨b, h⟩ := get_passSlot set
    refine ⟨b, h.trans ?_⟩
    split <;> rfl
  · rw [if_neg held, set]
    by_cases eq : i = j
    · exact ⟨false, by simp [eq]⟩
    · exact ⟨u.holdsSlot, by simp [eq]⟩

lemma length_passSlot (s : State) : s.passSlot.tasks.length = s.tasks.length := by
  simp only [State.passSlot]
  split
  · rfl
  · exact List.length_modify ..

lemma length_leave (i : ℕ) (t : Task) (rest : Plan Measuring Unit) (broken : Bool) :
    (s.leave i t rest broken).tasks.length = s.tasks.length := by
  simp only [State.leave]
  split
  · rw [length_passSlot]
    exact List.length_set
  · exact List.length_set

/-- What an event means for the run in a place, and what it tells that run. -/
inductive Task.Goes (e : Event) (i : ℕ) (t : Task) : List (Turn Measuring) → Task → Prop where
  | keeps (b : Bool) : t.Goes e i [] { t with holdsSlot := b }
  | told {q : Measuring.Question} {next : Measuring.Answer q → Plan Measuring Unit}
      (rest : t.rest = .ask q next) (a : Measuring.Answer q) (b : Bool) :
      t.Goes e i [⟨q, a⟩] { t with holdsSlot := b, rest := next a }
  | breaks (unfinished : t.isFinished = false) (why : e = .panic i ∨ t.source.isDemand) (b : Bool) :
      t.Goes e i [] { t with holdsSlot := b, rest := .done (), broken := true }

lemma Task.Goes.rfl {i : ℕ} {t : Task} : t.Goes e i [] t := .keeps t.holdsSlot

@[simp] lemma turnsOf_nil (i : ℕ) : turnsOf [] i = [] := rfl

lemma turnsOf_append (log more : List Told) (i : ℕ) :
    turnsOf (log ++ more) i = turnsOf log i ++ turnsOf more i := List.filterMap_append

lemma turnsOf_single (i j : ℕ) (turn : Turn Measuring) :
    turnsOf [⟨j, turn⟩] i = if j = i then [turn] else [] := by
  simp only [turnsOf]
  split <;> simp [*]

section Goes

variable {i : ℕ} {t : Task} (get : s.tasks[i]? = some t)

include get

/-- Where a run is told something, that run goes on and the others stay as they are. -/
lemma goes_told {j : ℕ} {u : Task} {q : Measuring.Question}
    {next : Measuring.Answer q → Plan Measuring Unit} {a : Measuring.Answer q}
    (get' : s.tasks[j]? = some u) (rest : u.rest = .ask q next)
    (found : ∃ b, s'.tasks[i]? = some
      (if j = i then { u with holdsSlot := b, rest := next a } else { t with holdsSlot := b })) :
    ∃ t', s'.tasks[i]? = some t' ∧ t.Goes e i (turnsOf [⟨j, ⟨q, a⟩⟩] i) t' := by
  obtain ⟨b, found⟩ := found
  refine ⟨_, found, ?_⟩
  rw [turnsOf_single]
  by_cases eq : j = i
  · subst eq
    cases get'.symm.trans get
    rw [if_pos rfl, if_pos rfl]
    exact .told rest a b
  · rw [if_neg eq, if_neg eq]
    exact .keeps b

lemma goes_setTask {j : ℕ} {u : Task} {q : Measuring.Question}
    {next : Measuring.Answer q → Plan Measuring Unit} (a : Measuring.Answer q)
    (get' : s.tasks[j]? = some u) (rest : u.rest = .ask q next) :
    ∃ t', (s.setTask j { u with rest := next a }).tasks[i]? = some t' ∧
      t.Goes e i (turnsOf [⟨j, ⟨q, a⟩⟩] i) t' := by
  apply goes_told get get' rest
  rw [get_setTask get', get]
  by_cases eq : j = i
  · exact ⟨u.holdsSlot, by simp [eq]⟩
  · exact ⟨t.holdsSlot, by simp [eq]⟩

lemma goes_breaks {j : ℕ} {u : Task} (get' : s.tasks[j]? = some u)
    (unfinished : u.isFinished = false) (why : e = .panic j ∨ u.source.isDemand) :
    ∃ t', (s.leave j u (.done ()) true).tasks[i]? = some t' ∧ t.Goes e i [] t' := by
  obtain ⟨b, found⟩ := get_leave get' get
  refine ⟨_, found, ?_⟩
  by_cases eq : j = i
  · subst eq
    cases get'.symm.trans get
    rw [if_pos rfl]
    exact .breaks unfinished why b
  · rw [if_neg eq]
    exact .keeps b

/-- Every run goes on, in its place. -/
theorem Moves.goes {note : Option Told} (moves : Moves r s e note s') :
    ∃ t', s'.tasks[i]? = some t' ∧ t.Goes e i (turnsOf note.toList i) t' := by
  have spawned (source : Source) : (s.spawn source r).tasks[i]? = some t := by
    rw [State.spawn, List.getElem?_append_left (List.getElem?_eq_some_iff.mp get).1, get]
  cases moves with
  | advance => exact ⟨t, get, .rfl⟩
  | tick => exact ⟨t, spawned _, .rfl⟩
  | demand => exact ⟨t, spawned _, .rfl⟩
  | cancel => exact ⟨t, get, .rfl⟩
  | stop => exact ⟨t, get, .rfl⟩
  | join => exact ⟨t, get, .rfl⟩
  | take =>
    rw [State.grant, List.getElem?_modify, get]
    refine ⟨_, rfl, ?_⟩
    split
    · exact .keeps true
    · exact .rfl
  | queue => exact ⟨t, get, .rfl⟩
  | proceed get' rest _ _ => exact goes_setTask get _ get' rest
  | free get' rest => exact goes_told get get' rest (get_leave get' get)
  | drop get' rest _ => exact goes_told get get' rest (get_leave get' get)
  | reply get' rest answer => exact goes_setTask get _ get' rest
  | panic get' unfinished _ => exact goes_breaks get get' unfinished (.inl rfl)
  | abandon get' unfinished demanded => exact goes_breaks get get' unfinished (.inr demanded)

end Goes

/-- What an event starts. -/
def started? (s : State) : Event → Option Source
  | .tick k => some (.tick k (s.started k))
  | .demand d => some (.demand d)
  | _ => none

/-- The runs stay in their places, and at most one is started. -/
theorem Moves.tasks {note : Option Told} (moves : Moves r s e note s') :
    started? s e = none ∧ s'.tasks.length = s.tasks.length ∨
      ∃ source, started? s e = some source ∧
        s'.tasks = s.tasks ++ [⟨source, s.now, false, source.plan r, false⟩] := by
  cases moves with
  | tick => exact .inr ⟨_, rfl, rfl⟩
  | demand => exact .inr ⟨_, rfl, rfl⟩
  | take => exact .inl ⟨rfl, List.length_modify ..⟩
  | proceed => exact .inl ⟨rfl, List.length_set⟩
  | reply => exact .inl ⟨rfl, List.length_set⟩
  | free => exact .inl ⟨rfl, length_leave ..⟩
  | drop => exact .inl ⟨rfl, length_leave ..⟩
  | panic => exact .inl ⟨rfl, length_leave ..⟩
  | abandon => exact .inl ⟨rfl, length_leave ..⟩
  | _ => exact .inl ⟨rfl, rfl⟩

/-- A run was there before, or it was just started. -/
theorem Moves.origin {note : Option Told} (moves : Moves r s e note s') {i : ℕ} {t' : Task}
    (get' : s'.tasks[i]? = some t') :
    (∃ t, s.tasks[i]? = some t ∧ t.Goes e i (turnsOf note.toList i) t') ∨
      i = s.tasks.length ∧ ∃ source,
        started? s e = some source ∧ t' = ⟨source, s.now, false, source.plan r, false⟩ := by
  by_cases lt : i < s.tasks.length
  · obtain ⟨u, found, goes⟩ := moves.goes (List.getElem?_eq_getElem lt)
    cases found.symm.trans get'
    exact .inl ⟨_, List.getElem?_eq_getElem lt, goes⟩
  · have lt' := (List.getElem?_eq_some_iff.mp get').1
    rcases moves.tasks with ⟨-, eq⟩ | ⟨source, new, eq⟩
    · omega
    · rw [eq, List.length_append, List.length_singleton] at lt'
      have last : i = s.tasks.length := by omega
      rw [eq, last, List.getElem?_append_right le_rfl, Nat.sub_self] at get'
      cases get'
      exact .inr ⟨last, source, new, rfl⟩

/-! ### The agenda -/

lemma agenda_passSlot (s : State) : s.passSlot.toAgenda = s.toAgenda := by
  simp only [State.passSlot]
  split <;> rfl

lemma agenda_leave (i : ℕ) (t : Task) (rest : Plan Measuring Unit) (broken : Bool) :
    (s.leave i t rest broken).toAgenda = s.toAgenda := by
  simp only [State.leave]
  split
  · rw [agenda_passSlot]
    rfl
  · rfl

/-- What an event does to the agenda. -/
def agendaAfter (r : Rig) (s : State) : Event → Agenda
  | .advance time => { s.toAgenda with now := time }
  | .tick k =>
    { s.toAgenda with
      due := Schedule.put s.due k (s.dueNext r k)
      started := Schedule.put s.started k (s.started k + 1)
      unjoined := s.unjoined ++ [s.tasks.length] }
  | .cancel => { s.toAgenda with cancelledAt := some (s.cancelledAt.getD s.now) }
  | .stop => { s.toAgenda with scheduling := false }
  | .join i => { s.toAgenda with unjoined := s.unjoined.erase i }
  | _ => s.toAgenda

/-- Nothing that happens to runs changes the agenda. -/
theorem Moves.agenda {note : Option Told} (moves : Moves r s e note s') :
    s'.toAgenda = agendaAfter r s e := by
  cases moves with
  | free => exact agenda_leave ..
  | drop => exact agenda_leave ..
  | panic => exact agenda_leave ..
  | abandon => exact agenda_leave ..
  | _ => rfl

/-- Only runs are told anything. -/
lemma Moves.task_lt {n : Told} (moves : Moves r s e (some n) s') : n.task < s.tasks.length := by
  cases moves with
  | proceed get | free get | drop get | reply get => exact (List.getElem?_eq_some_iff.mp get).1

/-! ### What is known of runs -/

/-- What is known of the runs after a course of events. -/
structure Recorded (r : Rig) (events : List Event) (log : List Told) (s : State) : Prop where
  /-- What was told was told to runs. -/
  known : ∀ n ∈ log, n.task < s.tasks.length
  /-- The turns of a run lead from its plan to what is left of it, unless it broke off. -/
  leads : ∀ (i : ℕ) (t : Task), s.tasks[i]? = some t →
    ∃ rest, (t.source.plan r).Leads (turnsOf log i) rest ∧ (t.broken = false → rest = t.rest)
  /-- A run that broke off panicked or was asked for. Nothing of it is left. -/
  broken : ∀ (i : ℕ) (t : Task), s.tasks[i]? = some t → t.broken →
    t.isFinished ∧ (.panic i ∈ events ∨ t.source.isDemand)

lemma turnsOf_eq_nil {log : List Told} {i : ℕ} (h : ∀ n ∈ log, n.task < i) :
    turnsOf log i = [] := by
  apply List.filterMap_eq_nil_iff.mpr
  intro n mem
  rw [if_neg (h n mem).ne]

lemma Recorded.step {events : List Event} {log : List Told} {note : Option Told}
    (h : Recorded r events log s) (moves : Moves r s e note s') :
    Recorded r (events ++ [e]) (log ++ note.toList) s' where
  known n mem := by
    have grows : s.tasks.length ≤ s'.tasks.length := by
      rcases moves.tasks with ⟨-, eq⟩ | ⟨_, -, eq⟩
      · exact eq.ge
      · simp [eq]
    rcases List.mem_append.mp mem with old | new
    · exact (h.known n old).trans_le grows
    · rw [Option.mem_toList.mp new] at moves
      exact moves.task_lt.trans_le grows
  leads i t' get' := by
    rw [turnsOf_append]
    rcases moves.origin get' with ⟨t, get, goes⟩ | ⟨rfl, source, -, rfl⟩
    · obtain ⟨rest, leads, left⟩ := h.leads i t get
      generalize turnsOf note.toList i = turns at goes ⊢
      cases goes with
      | keeps b => exact ⟨rest, by simpa using leads, left⟩
      | told eq a b =>
        have whole : t.broken = false := by
          by_contra broken
          rw [Bool.not_eq_false] at broken
          have finished := (h.broken i t get broken).1
          simp [Task.isFinished, eq] at finished
        rw [left whole, eq] at leads
        exact ⟨_, leads.snoc a, fun _ => rfl⟩
      | breaks => exact ⟨rest, by simpa using leads, fun whole => by simp at whole⟩
    · have none : turnsOf (log ++ note.toList) s.tasks.length = [] := by
        apply turnsOf_eq_nil
        intro n mem
        rcases List.mem_append.mp mem with old | new
        · exact h.known n old
        · rw [Option.mem_toList.mp new] at moves
          exact moves.task_lt
      rw [← turnsOf_append, none]
      exact ⟨_, .refl _, fun _ => rfl⟩
  broken i t' get' broken := by
    rcases moves.origin get' with ⟨t, get, goes⟩ | ⟨-, source, -, rfl⟩
    · generalize turnsOf note.toList i = turns at goes
      cases goes with
      | keeps b =>
        obtain ⟨finished, why⟩ := h.broken i t get broken
        exact ⟨finished, why.imp_left (List.mem_append_left _)⟩
      | told eq a b =>
        have finished := (h.broken i t get broken).1
        simp [Task.isFinished, eq] at finished
      | breaks _ why b => exact ⟨rfl, why.imp_left fun eq => by simp [eq]⟩
    · contradiction

/-- Everything is recorded, in every course from the beginning. -/
theorem Course.recorded {events : List Event} {log : List Told}
    (course : Course r (fresh r) events log s) : Recorded r events log s := by
  induction course with
  | refl => exact ⟨by simp, by simp [fresh], by simp [fresh]⟩
  | step _ e happens ih => exact ih.step (moves_of_step happens)

/-- A rig with the usual settings. -/
def usual : Rig := ⟨.default, .default, ⟨"probe", 7⟩⟩

end LinkGauge.Daemon
