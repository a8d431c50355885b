import LinkGauge.Proofs.Daemon.Runs

/-!
# Schedules

On a clock that never goes on before the daemon has done what is due, each schedule starts its runs
exactly at the multiples of its interval, whatever the runs do and whatever the other schedule is.
-/

namespace LinkGauge.Daemon

variable {r : Rig} {s s' : State} {e : Event} {note : Option Told}

/-! ### Starts -/

/-- The number and the start of a run of a schedule. -/
def Task.startOf? (k : Schedule) (t : Task) : Option (ℕ × ℕ) :=
  match t.source with
  | .tick j n => if j = k then some (n, t.start) else none
  | .demand _ => none

/-- The numbers and starts of the runs of a schedule. -/
def State.starts (s : State) (k : Schedule) : List (ℕ × ℕ) := s.tasks.filterMap (·.startOf? k)

lemma Task.Goes.startOf? {i : ℕ} {t t' : Task} {turns : List (Plan.Turn Measuring)}
    (goes : t.Goes e i turns t') (k : Schedule) : t'.startOf? k = t.startOf? k := by
  cases goes <;> rfl

/-- Where nothing is started the starts stay as they are. -/
lemma Moves.starts_eq (moves : Moves r s e note s') (same : s'.tasks.length = s.tasks.length)
    (k : Schedule) : s'.starts k = s.starts k := by
  have each : s'.tasks.map (·.startOf? k) = s.tasks.map (·.startOf? k) := by
    apply List.ext_getElem?
    intro i
    rw [List.getElem?_map, List.getElem?_map]
    by_cases lt : i < s.tasks.length
    · obtain ⟨t', found, goes⟩ := moves.goes (List.getElem?_eq_getElem lt)
      rw [found, List.getElem?_eq_getElem lt, Option.map_some, Option.map_some, goes.startOf? k]
    · rw [List.getElem?_eq_none (by omega), List.getElem?_eq_none (by omega)]
  have whole (tasks : List Task) :
      tasks.filterMap (·.startOf? k) = (tasks.map (·.startOf? k)).filterMap id := by
    rw [List.filterMap_map]
    rfl
  rw [State.starts, State.starts, whole, whole, each]

/-- A tick starts a run of its schedule, and nothing else does. -/
theorem Moves.starts (moves : Moves r s e note s') (k : Schedule) :
    e = .tick k ∧ s'.starts k = s.starts k ++ [(s.started k, s.now)] ∧
        s'.started k = s.started k + 1 ∨
      e ≠ .tick k ∧ s'.starts k = s.starts k ∧ s'.started k = s.started k := by
  have started : s'.started k = (agendaAfter r s e).started k := by rw [← moves.agenda]
  rcases moves.tasks with ⟨none, same⟩ | ⟨source, new, eq⟩
  · have starts := moves.starts_eq same k
    cases e <;> first | exact .inr ⟨nofun, starts, started⟩ | cases none
  · have starts : s'.starts k = s.starts k ++
        [(⟨source, s.now, false, source.plan r, false⟩ : Task)].filterMap (·.startOf? k) := by
      rw [State.starts, State.starts, eq, List.filterMap_append]
    cases e with
    | tick j =>
      cases new
      by_cases same : j = k
      · subst same
        exact .inl ⟨rfl, by simpa [Task.startOf?] using starts,
          by simpa [agendaAfter] using started⟩
      · refine .inr ⟨by simpa using same, by simpa [Task.startOf?, same] using starts, ?_⟩
        exact started.trans (Schedule.put_other _ _ (Ne.symm same))
    | demand d =>
      cases new
      exact .inr ⟨nofun, by simpa [Task.startOf?] using starts, started⟩
    | _ => cases new

/-- The runs of a schedule are numbered from zero. -/
theorem Course.numbers {events : List Event} {log : List Told}
    (course : Course r (fresh r) events log s) (k : Schedule) :
    (s.starts k).map Prod.fst = List.range (s.started k) := by
  induction course with
  | refl => rfl
  | step _ e happens ih =>
    rcases (moves_of_step happens).starts k with ⟨-, starts, started⟩ | ⟨-, starts, started⟩
    · rw [starts, started, List.map_append, ih, List.range_succ]
      rfl
    · rw [starts, started, ih]

lemma Task.startOf?_eq_some {k : Schedule} {t : Task} {start : ℕ × ℕ} :
    t.startOf? k = some start ↔ t.source = .tick k start.1 ∧ t.start = start.2 := by
  simp only [Task.startOf?]
  cases t.source with
  | tick j n =>
    by_cases eq : j = k
    · simp [eq, Prod.ext_iff]
    · simp [eq]
  | demand d => simp

/-- Each number of a schedule stands for one run. -/
theorem Course.existsUnique_place {events : List Event} {log : List Told}
    (course : Course r (fresh r) events log s) {k : Schedule} {n : ℕ} (lt : n < s.started k) :
    ∃ (i : ℕ) (t : Task), s.tasks[i]? = some t ∧ t.source = .tick k n ∧
      ∀ (j : ℕ) (u : Task), s.tasks[j]? = some u → u.source = .tick k n → j = i := by
  have numbers := course.numbers k
  obtain ⟨start, mem, rfl⟩ : ∃ start ∈ s.starts k, start.1 = n := by
    rw [← List.mem_map, numbers, List.mem_range]
    exact lt
  obtain ⟨t, mem, here⟩ := List.mem_filterMap.mp mem
  obtain ⟨i, get⟩ := List.mem_iff_getElem?.mp mem
  have source := (Task.startOf?_eq_some.mp here).1
  have distinct : s.tasks.Pairwise fun t u => ∀ a, t.startOf? k = some a →
      ∀ b, u.startOf? k = some b → a.1 ≠ b.1 := by
    have nodup : ((s.starts k).map Prod.fst).Pairwise (· ≠ ·) := numbers ▸ List.nodup_range
    rw [List.pairwise_map] at nodup
    exact List.pairwise_filterMap.mp nodup
  have apart {i j : ℕ} {t u : Task} (get : s.tasks[i]? = some t) (get' : s.tasks[j]? = some u)
      (before : i < j) (source : t.source = .tick k start.1) : u.source ≠ .tick k start.1 := by
    intro source'
    obtain ⟨lt, rfl⟩ := List.getElem?_eq_some_iff.mp get
    obtain ⟨lt', rfl⟩ := List.getElem?_eq_some_iff.mp get'
    exact List.pairwise_iff_getElem.mp distinct i j lt lt' before
      (start.1, s.tasks[i].start) (Task.startOf?_eq_some.mpr ⟨source, rfl⟩)
      (start.1, s.tasks[j].start) (Task.startOf?_eq_some.mpr ⟨source', rfl⟩) rfl
  refine ⟨i, t, get, source, ?_⟩
  intro j u get' source'
  rcases Nat.lt_trichotomy j i with before | rfl | behind
  · exact absurd source (apart get' get before source')
  · rfl
  · exact absurd source' (apart get get' behind source)

/-! ### The ideal clock -/

/-- On an ideal clock no time goes by while the daemon has something to do: while a run is due, and
after the process was told to stop until the daemon has. -/
def OnTime (s : State) : Event → Prop
  | .advance time => s.scheduling → s.cancelled = false ∧ ∀ k, time ≤ s.due k
  | _ => True

/-- The states that the daemon can come to on an ideal clock. -/
inductive Ideal (r : Rig) (start : State) : State → Prop where
  | refl : Ideal r start start
  | step {s s' : State} {e : Event} (ideal : Ideal r start s) (onTime : OnTime s e)
      (happens : step r s e = some s') : Ideal r start s'

lemma Ideal.trans {s₁ s₂ s₃ : State} (first : Ideal r s₁ s₂) (second : Ideal r s₂ s₃) :
    Ideal r s₁ s₃ := by
  induction second with
  | refl => exact first
  | step _ onTime happens ih => exact ih.step onTime happens

/-- The schedules are kept. -/
structure Timely (r : Rig) (a : Agenda) (starts : Schedule → List (ℕ × ℕ)) : Prop where
  starts : ∀ k, starts k = (List.range (a.started k)).map fun n => (n, n * (k.interval r).nanos)
  due : ∀ k, a.due k = a.started k * (k.interval r).nanos
  /-- No run is late. -/
  ahead : a.scheduling → ∀ k, a.now ≤ a.due k
  past : ∀ k, ∀ n < a.started k, n * (k.interval r).nanos ≤ a.now
  /-- Only who was told to stop does so, and then at once. -/
  stops : a.cancelledAt = none → a.scheduling
  atOnce : ∀ stop, a.cancelledAt = some stop → a.scheduling → a.now = stop
  /-- What was due before the end was started, and nothing was started later. -/
  whole : ∀ stop, a.cancelledAt = some stop → ∀ k n,
    n * (k.interval r).nanos < stop → n < a.started k
  ended : ∀ stop, a.cancelledAt = some stop → ∀ k, ∀ n < a.started k,
    n * (k.interval r).nanos ≤ stop

lemma timely_fresh (r : Rig) : Timely r (fresh r).toAgenda (fresh r).starts where
  starts _ := rfl
  due _ := (Nat.zero_mul _).symm
  ahead _ _ := le_rfl
  past _ n lt := absurd lt (Nat.not_lt_zero n)
  stops _ := rfl
  atOnce := nofun
  whole := nofun
  ended := nofun

/-- A run that is started on time is started at its multiple of the interval, and so will be the
next. -/
lemma Timely.tick {k : Schedule} (h : Timely r s.toAgenda s.starts) (scheduling : s.scheduling)
    (due : s.due k ≤ s.now) {starts : Schedule → List (ℕ × ℕ)}
    (added : starts k = s.starts k ++ [(s.started k, s.now)])
    (others : ∀ j, j ≠ k → starts j = s.starts j) :
    Timely r (agendaAfter r s (.tick k)) starts := by
  have now : s.now = s.started k * (k.interval r).nanos :=
    (le_antisymm (h.ahead scheduling k) due).trans (h.due k)
  have next : s.dueNext r k = (s.started k + 1) * (k.interval r).nanos := by
    have early := h.ahead scheduling k
    simp only [Agenda.dueNext]
    rw [if_neg (by omega), h.due k, Nat.succ_mul]
  have started (j : Schedule) : (agendaAfter r s (.tick k)).started j =
      if j = k then s.started k + 1 else s.started j := rfl
  have older {j : Schedule} {n : ℕ} (lt : n < (agendaAfter r s (.tick k)).started j) :
      n < s.started j ∨ j = k ∧ n = s.started k := by
    rw [started] at lt
    split at lt
    · subst_vars
      exact (Nat.lt_succ_iff_lt_or_eq.mp lt).imp_right fun eq => ⟨rfl, eq⟩
    · exact .inl lt
  refine ⟨?starts, ?due, ?ahead, ?past, fun none => scheduling,
    fun stop eq _ => h.atOnce stop eq scheduling, ?whole, ?ended⟩
  case starts =>
    intro j
    rw [started]
    split
    · subst_vars
      rw [added, h.starts, List.range_succ, List.map_append, now]
      rfl
    · rw [others j ‹_›, h.starts]
  case due =>
    intro j
    rw [started]
    change Schedule.put s.due k (s.dueNext r k) j = _
    by_cases eq : j = k
    · rw [eq, Schedule.put_same, if_pos rfl, next]
    · rw [Schedule.put_other _ _ eq, if_neg eq, h.due]
  case ahead =>
    intro _ j
    change s.now ≤ Schedule.put s.due k (s.dueNext r k) j
    by_cases eq : j = k
    · rw [eq, Schedule.put_same, next, now]
      exact Nat.mul_le_mul_right _ (Nat.le_succ _)
    · rw [Schedule.put_other _ _ eq]
      exact h.ahead scheduling j
  case past =>
    intro j n lt
    rcases older lt with old | ⟨rfl, rfl⟩
    · exact h.past j n old
    · exact now.ge
  case whole =>
    intro stop eq j n lt
    have old := h.whole stop eq j n lt
    rw [started]
    split
    · subst_vars
      omega
    · exact old
  case ended =>
    intro stop eq j n lt
    rcases older lt with old | ⟨rfl, rfl⟩
    · exact h.ended stop eq j n old
    · rw [← now, h.atOnce stop eq scheduling]

/-- Time that goes by before anything is due leaves no run behind. -/
lemma Timely.advance {time : ℕ} (h : Timely r s.toAgenda s.starts) (later : s.now ≤ time)
    (onTime : OnTime s (.advance time)) :
    Timely r (agendaAfter r s (.advance time)) s.starts := by
  refine { h with ahead := ?ahead, past := ?past, atOnce := ?atOnce }
  case ahead =>
    intro scheduling
    exact (onTime scheduling).2
  case past =>
    intro k n lt
    exact (h.past k n lt).trans later
  case atOnce =>
    intro stop eq scheduling
    have running := (onTime scheduling).1
    simp [Agenda.cancelled, show s.cancelledAt = some stop from eq] at running

/-- When the process is told to stop, all that was due earlier was started and nothing else. -/
lemma Timely.cancel (h : Timely r s.toAgenda s.starts) :
    Timely r (agendaAfter r s .cancel) s.starts := by
  cases was : s.cancelledAt with
  | some stop =>
    have unchanged : agendaAfter r s .cancel = s.toAgenda := by
      simp only [agendaAfter]
      rw [was]
      exact congrArg (fun c => { s.toAgenda with cancelledAt := c }) was.symm
    rw [unchanged]
    exact h
  | none =>
    have scheduling := h.stops was
    have at' : (agendaAfter r s .cancel).cancelledAt = some s.now := by
      simp only [agendaAfter]
      rw [was]
      rfl
    refine { h with stops := ?stops, atOnce := ?atOnce, whole := ?whole, ended := ?ended }
    case stops =>
      intro _
      exact scheduling
    case atOnce =>
      intro stop eq _
      cases at'.symm.trans eq
      rfl
    case whole =>
      intro stop eq k n lt
      cases at'.symm.trans eq
      have ahead := lt.trans_le (h.ahead scheduling k)
      rw [h.due] at ahead
      exact lt_of_mul_lt_mul_right ahead (Nat.zero_le _)
    case ended =>
      intro stop eq k n lt
      cases at'.symm.trans eq
      exact h.past k n lt

/-- Whatever happens in time keeps the schedules. -/
theorem Timely.step (h : Timely r s.toAgenda s.starts) (moves : Moves r s e note s')
    (onTime : OnTime s e) : Timely r s'.toAgenda s'.starts := by
  have same (other : ∀ k, e ≠ .tick k) : s'.starts = s.starts := by
    funext k
    rcases moves.starts k with ⟨eq, -⟩ | ⟨-, eq, -⟩
    · exact absurd eq (other k)
    · exact eq
  have starts := moves.starts
  rw [moves.agenda]
  cases e with
  | advance time =>
    rw [same nofun]
    cases moves with
    | advance later => exact h.advance later onTime
  | tick k =>
    cases moves with
    | tick scheduling due =>
      refine h.tick scheduling due ?_ ?_
      · rcases starts k with ⟨-, eq, -⟩ | ⟨ne, -⟩
        · exact eq
        · exact absurd rfl ne
      · intro j ne
        rcases starts j with ⟨eq, -⟩ | ⟨-, eq, -⟩
        · cases eq
          exact absurd rfl ne
        · exact eq
  | cancel =>
    rw [same nofun]
    exact h.cancel
  | stop =>
    rw [same nofun]
    cases moves with
    | stop cancelled =>
      refine { h with ahead := nofun, stops := ?stops, atOnce := nofun }
      case stops =>
        intro none
        simp [Agenda.cancelled, show s.cancelledAt = Option.none from none] at cancelled
  | join =>
    rw [same nofun]
    exact { h with }
  | _ =>
    rw [same nofun]
    exact h

/-- On an ideal clock the schedules are kept. -/
theorem Ideal.timely (ideal : Ideal r (fresh r) s) : Timely r s.toAgenda s.starts := by
  induction ideal with
  | refl => exact timely_fresh r
  | step _ onTime happens ih => exact ih.step (moves_of_step happens) onTime

/-! ### Going on -/

/-- Of two schedules one is due first. -/
lemma exists_first (due : Schedule → ℕ) : ∃ k, ∀ j, due k ≤ due j := by
  rcases Nat.le_total (due .speed) (due .throughput) with first | first
  · exact ⟨.speed, fun j => by cases j <;> omega⟩
  · exact ⟨.throughput, fun j => by cases j <;> omega⟩

/-- Until the process is told to stop, the clock goes on to any time, and ticks are all that it
takes: nothing that runs do or leave undone is in the way. -/
theorem goes_on (positive : ∀ k : Schedule, 0 < (k.interval r).nanos)
    (h : Timely r s.toAgenda s.starts) (running : s.cancelledAt = none) {stop : ℕ}
    (later : s.now ≤ stop) :
    ∃ s', Ideal r s s' ∧ s'.cancelledAt = some stop ∧ ∃ new, s'.tasks = s.tasks ++ new := by
  -- What is left shrinks with each tick, since the schedule is due later from then on.
  induction left : (stop + 1 - s.due .speed) + (stop + 1 - s.due .throughput)
    using Nat.strong_induction_on generalizing s with
  | _ n ih =>
    have scheduling := h.stops running
    have cancelled : s.cancelled = false := by rw [Agenda.cancelled, running, Option.isSome_none]
    obtain ⟨k, first⟩ := exists_first s.due
    by_cases beyond : stop < s.due k
    · have onTime : OnTime s (.advance stop) := fun _ =>
        ⟨cancelled, fun j => (beyond.trans_le (first j)).le⟩
      have advanced : step r s (.advance stop) = some { s with now := stop } := if_pos later
      refine ⟨_, .step (.step .refl onTime advanced) (e := .cancel) trivial rfl, ?_, [], ?_⟩
      · rw [running]
        rfl
      · exact (List.append_nil _).symm
    · have due : s.due k ≤ stop := Nat.le_of_not_lt beyond
      have onTime : OnTime s (.advance (s.due k)) := fun _ => ⟨cancelled, first⟩
      have advanced : step r s (.advance (s.due k)) = some { s with now := s.due k } :=
        if_pos (h.ahead scheduling k)
      obtain ⟨s₂, ticked⟩ : ∃ s₂, step r { s with now := s.due k } (.tick k) = some s₂ :=
        ⟨_, if_pos ⟨scheduling, le_rfl⟩⟩
      have moves := moves_of_step ticked
      have next : s₂.due k = s.due k + (k.interval r).nanos := by
        have eq : s₂.due = Schedule.put s.due k _ := congrArg Agenda.due moves.agenda
        rw [eq, Schedule.put_same, Agenda.dueNext, if_neg (Nat.not_lt.mpr (Nat.le_add_right _ _))]
      have other (j : Schedule) (ne : j ≠ k) : s₂.due j = s.due j := by
        have eq : s₂.due = Schedule.put s.due k _ := congrArg Agenda.due moves.agenda
        rw [eq, Schedule.put_other _ _ ne]
      have fewer : (stop + 1 - s₂.due .speed) + (stop + 1 - s₂.due .throughput) < n := by
        have pos := positive k
        cases k with
        | speed =>
          rw [other .throughput nofun]
          omega
        | throughput =>
          rw [other .speed nofun]
          omega
      have now : s₂.now = s.due k := congrArg Agenda.now moves.agenda
      have timely := (h.step (moves_of_step advanced) onTime).step moves trivial
      obtain ⟨s', ideal, eq, new, tasks⟩ := ih _ fewer timely
        ((congrArg Agenda.cancelledAt moves.agenda).trans running) (now.trans_le due) rfl
      have upTo : Ideal r s s₂ := .step (.step .refl onTime advanced) (e := .tick k) trivial ticked
      refine ⟨s', upTo.trans ideal, eq, ?_⟩
      rcases moves.tasks with ⟨none, -⟩ | ⟨_, -, grown⟩
      · cases none
      · exact ⟨_, tasks.trans (by rw [grown, List.append_assoc])⟩

/-! ### Independence -/

/-- On an ideal clock the process was told to stop at a time, and the daemon has come to `s`. -/
def Stopped (r : Rig) (stop : ℕ) (s : State) : Prop :=
  Ideal r (fresh r) s ∧ s.cancelledAt = some stop

/-- Who has come to a time can be told to stop then, and stops. -/
lemma Ideal.exists_stopped (ideal : Ideal r (fresh r) s) (running : s.cancelledAt = none) :
    ∃ s', Stopped r s.now s' ∧ s'.scheduling = false ∧ ∀ k, s'.starts k = s.starts k := by
  have at' : some (s.cancelledAt.getD s.now) = some s.now := by rw [running, Option.getD_none]
  have told : Ideal r (fresh r) { s with cancelledAt := some (s.cancelledAt.getD s.now) } :=
    ideal.step (e := .cancel) trivial rfl
  exact ⟨_, ⟨told.step (e := .stop) trivial rfl, at'⟩, rfl, fun _ => rfl⟩

/-- The numbers below a bound that pass a test are the same for two bounds if there are none
between the bounds. -/
lemma filter_range_eq {p : ℕ → Bool} {m n : ℕ} (h : ∀ i, p i → (i < m ↔ i < n)) :
    (List.range m).filter p = (List.range n).filter p := by
  have grow {m n : ℕ} (le : m ≤ n) (h : ∀ i, p i → (i < m ↔ i < n)) :
      (List.range m).filter p = (List.range n).filter p := by
    obtain ⟨d, rfl⟩ := Nat.exists_eq_add_of_le le
    rw [List.range_add, List.filter_append]
    have none : ((List.range d).map (m + ·)).filter p = [] := by
      rw [List.filter_eq_nil_iff]
      intro i mem pass
      obtain ⟨j, small, rfl⟩ := List.mem_map.mp mem
      have lt := List.mem_range.mp small
      have := (h _ pass).mpr (by omega)
      omega
    rw [none, List.append_nil]
  rcases Nat.le_total m n with le | le
  · exact grow le h
  · exact (grow le fun i pass => (h i pass).symm).symm

/-- On an ideal clock a schedule starts its runs exactly at the multiples of its interval: all of
them that come before the process is told to stop, and none that comes later. So neither the other
schedule nor anything that happens to runs makes a difference: with the same interval and the same
end, all is started alike but for a run that is due in the very instant of the end, where both can
come first. Up to the end nothing can hold up the clock, and it takes no more than ticks to get
there. -/
theorem schedules_keep_time (k : Schedule) (stop : ℕ) :
    (∀ (r : Rig) (s : State), Stopped r stop s →
      s.starts k = (List.range (s.started k)).map (fun n => (n, n * (k.interval r).nanos)) ∧
        (∀ n, n * (k.interval r).nanos < stop → n < s.started k) ∧
        ∀ n < s.started k, n * (k.interval r).nanos ≤ stop) ∧
      (∀ (r₁ r₂ : Rig) (s₁ s₂ : State), Stopped r₁ stop s₁ → Stopped r₂ stop s₂ →
        k.interval r₁ = k.interval r₂ →
        (s₁.starts k).filter (·.2 ≠ stop) = (s₂.starts k).filter (·.2 ≠ stop) ∧
          (¬(k.interval r₁).nanos ∣ stop → s₁.starts k = s₂.starts k)) ∧
      ∀ (r : Rig) (s : State), (∀ j : Schedule, 0 < (j.interval r).nanos) → Ideal r (fresh r) s →
        s.cancelledAt = none → s.now ≤ stop →
        ∃ s', Ideal r s s' ∧ Stopped r stop s' ∧ ∃ new, s'.tasks = s.tasks ++ new := by
  have exact (r : Rig) (s : State) (h : Stopped r stop s) :
      s.starts k = (List.range (s.started k)).map (fun n => (n, n * (k.interval r).nanos)) ∧
        (∀ n, n * (k.interval r).nanos < stop → n < s.started k) ∧
        ∀ n < s.started k, n * (k.interval r).nanos ≤ stop :=
    ⟨h.1.timely.starts k, h.1.timely.whole stop h.2 k, h.1.timely.ended stop h.2 k⟩
  refine ⟨exact, ?_, ?_⟩
  · intro r₁ r₂ s₁ s₂ h₁ h₂ same
    obtain ⟨starts₁, whole₁, ended₁⟩ := exact r₁ s₁ h₁
    obtain ⟨starts₂, whole₂, ended₂⟩ := exact r₂ s₂ h₂
    rw [same] at starts₁ whole₁ ended₁ ⊢
    generalize (k.interval r₂).nanos = interval at *
    have but : (s₁.starts k).filter (·.2 ≠ stop) = (s₂.starts k).filter (·.2 ≠ stop) := by
      rw [starts₁, starts₂, List.filter_map, List.filter_map]
      refine congrArg _ (filter_range_eq ?_)
      intro n ne
      have ne : n * interval ≠ stop := by simpa using ne
      constructor
      · intro lt
        exact whole₂ n (lt_of_le_of_ne (ended₁ n lt) ne)
      · intro lt
        exact whole₁ n (lt_of_le_of_ne (ended₂ n lt) ne)
    refine ⟨but, ?_⟩
    intro between
    have never {s : State} (starts : s.starts k = (List.range (s.started k)).map fun n =>
        (n, n * interval)) : (s.starts k).filter (·.2 ≠ stop) = s.starts k := by
      rw [List.filter_eq_self, starts]
      intro start mem
      obtain ⟨n, -, rfl⟩ := List.mem_map.mp mem
      have ne : n * interval ≠ stop := fun eq => between (eq ▸ Nat.dvd_mul_left interval n)
      simpa using ne
    rw [← never starts₁, but, never starts₂]
  · intro r s positive ideal running later
    obtain ⟨s', further, eq, new⟩ := goes_on positive ideal.timely running later
    exact ⟨s', further, ⟨ideal.trans further, eq⟩, new⟩

/-- A rig that starts rounds each second. -/
def hurried : Rig :=
  { usual with testing := { usual.testing with throughputInterval := Settings.seconds 1 } }

theorem schedules_keep_time_hurried :
    ∃ s s', Stopped usual 1500000000 s ∧ Stopped hurried 1500000000 s' ∧
      s.starts .speed = s'.starts .speed ∧
      s'.starts .throughput = [(0, 0), (1, 1000000000)] := by
  have speed := schedules_keep_time .speed 1500000000
  have rounds := schedules_keep_time .throughput 1500000000
  obtain ⟨s, -, stopped, -⟩ := speed.2.2 usual (fresh usual) (fun j => by cases j <;> decide) .refl
    rfl (by decide)
  obtain ⟨s', -, stopped', -⟩ := speed.2.2 hurried (fresh hurried)
    (fun j => by cases j <;> decide) .refl rfl (by decide)
  refine ⟨s, s', stopped, stopped', (speed.2.1 _ _ _ _ stopped stopped' rfl).2 (by decide), ?_⟩
  obtain ⟨starts, whole, ended⟩ := rounds.1 _ _ stopped'
  have two : s'.started .throughput = 2 := by
    have least := whole 1 (by decide)
    by_contra more
    have late := ended 2 (by omega)
    contradiction
  rw [starts, two]
  rfl

/-- A rig that measures speed every ten seconds. -/
def brisk : Rig :=
  { usual with testing := { usual.testing with speedInterval := Settings.seconds 10 } }

/-- A run that is due in the very instant of the end may be started or not: of two daemons with the
same rig that are told to stop after ten seconds, one starts a second speed run and the other does
not. -/
theorem start_at_end_is_open :
    ∃ s s', Stopped brisk 10000000000 s ∧ Stopped brisk 10000000000 s' ∧
      s.scheduling = false ∧ s'.scheduling = false ∧
      s.starts .speed = [(0, 0), (1, 10000000000)] ∧ s'.starts .speed = [(0, 0)] := by
  -- Both come to the tenth second. There one starts the run that is due before it is told to stop.
  have begun : Ideal brisk (fresh brisk) _ :=
    .step (.step .refl (e := .tick .speed) trivial rfl) (e := .tick .throughput) trivial rfl
  have waited : Ideal brisk (fresh brisk) _ :=
    .step begun (e := .advance 10000000000) (fun _ => ⟨rfl, fun k => by cases k <;> decide⟩) rfl
  have started : Ideal brisk (fresh brisk) _ := .step waited (e := .tick .speed) trivial rfl
  obtain ⟨s, stopped, ended, starts⟩ := started.exists_stopped rfl
  obtain ⟨s', stopped', ended', starts'⟩ := waited.exists_stopped rfl
  exact ⟨s, s', stopped, stopped', ended, ended', starts .speed, starts' .speed⟩

end LinkGauge.Daemon
