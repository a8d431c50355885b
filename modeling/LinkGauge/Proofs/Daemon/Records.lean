import LinkGauge.Proofs.Daemon.Slots
import LinkGauge.Proofs.Speed.Runs

/-!
# Records of measurements

When the daemon is over, each throughput tool that was started has had its result submitted, once,
whether it came to something or not; of the speed tool exactly the readings were. That holds for
what was under way when the daemon was told to stop as well, and nothing comes after the end.
-/

namespace LinkGauge

open Plan (Turn)

/-! ### Traces -/

/-- Questions that leave a trace: tools, the clock and submissions. -/
def LeavesTrace : Measuring.Question → Bool
  | .inr (.inl .now) => true
  | .inr (.inl (.run _)) => true
  | .inr (.inr (.speed _)) => true
  | .inr (.inr (.throughput _)) => true
  | _ => false

/-- The turns that leave a trace. -/
def traces (turns : List (Turn Measuring)) : List (Turn Measuring) :=
  turns.filter fun turn => LeavesTrace turn.question

lemma traces_append (turns more : List (Turn Measuring)) :
    traces (turns ++ more) = traces turns ++ traces more := List.filter_append ..

/-! ### Throughput -/

namespace Rig

variable {r : Rig} {duration : Span} {turns : List (Turn Measuring)} {hosts : List Host}

/-- The visit of a category leaves an honest visit of a host, or nothing. -/
lemma Visited.traces {category : Category} {outcome : Outcome}
    (h : Visited r hosts duration category outcome turns) :
    ∃ visits : List Visit, traces turns = visits.flatMap (Visit.turns r duration) ∧
      ∀ v ∈ visits, v.Honest r duration := by
  cases h with
  | skipped => exact ⟨[], rfl, List.forall_mem_nil _⟩
  | measured v _ _ _ honest => exact ⟨[v], rfl, List.forall_mem_singleton.mpr honest⟩

/-- What visits leave are honest visits of hosts. -/
lemma Visits.traces {categories : List Category} {outcomes : List (Category × Outcome)}
    (h : Visits r hosts duration categories outcomes turns) :
    ∃ visits : List Visit, traces turns = visits.flatMap (Visit.turns r duration) ∧
      ∀ v ∈ visits, v.Honest r duration := by
  obtain ⟨parts, last, rfl, visited, ending⟩ := h
  have untraced : LinkGauge.traces last = [] := by
    rcases ending with ⟨-, rfl⟩ | ⟨-, -, rfl⟩ <;> rfl
  rw [traces_append, untraced, List.append_nil]
  clear ending
  induction visited with
  | nil => exact ⟨[], rfl, List.forall_mem_nil _⟩
  | cons first _ ih =>
    obtain ⟨visits, eq, honest⟩ := first.traces
    obtain ⟨visits', eq', honest'⟩ := ih
    refine ⟨visits ++ visits', ?_, List.forall_mem_append.mpr ⟨honest, honest'⟩⟩
    rw [List.flatMap_append, ← eq, ← eq', ← traces_append]
    rfl

/-- What a round leaves are honest visits of hosts. -/
theorem traces_round {a : List (Category × Outcome)} (ends : (r.round duration).Ends turns a) :
    ∃ visits : List Visit, traces turns = visits.flatMap (Visit.turns r duration) ∧
      ∀ v ∈ visits, v.Honest r duration := by
  obtain ⟨answer, rest, rfl, -, going⟩ := rounded_of_ends ends
  cases answer with
  | error p =>
    obtain ⟨-, rfl⟩ := going
    exact ⟨[], rfl, List.forall_mem_nil _⟩
  | ok hosts =>
    obtain ⟨visits, eq, honest⟩ := going.1.traces
    exact ⟨visits, eq, honest⟩

/-! ### Speed -/

/-- What a speed run leaves. The tool is started once at most, and only a reading is submitted. -/
inductive SpeedTrace (r : Rig) : List (Turn Measuring) → Prop where
  | unstarted : SpeedTrace r []
  | failed (p : Problem) : SpeedTrace r [⟨.inr (.inl (.run r.speedCommand)), .error p⟩]
  | unread {raw : Json.Bytes} {now : Instant} {p : Problem}
      (unread : Speed.read raw r.testing.speedUnit now = .error p) :
      SpeedTrace r [⟨.inr (.inl (.run r.speedCommand)), .ok raw⟩, ⟨.inr (.inl .now), now⟩]
  | submitted {raw : Json.Bytes} {now : Instant} {reading : Speed.Reading}
      (read : Speed.read raw r.testing.speedUnit now = .ok reading) (taken : Except Problem Int64) :
      SpeedTrace r
        [ ⟨.inr (.inl (.run r.speedCommand)), .ok raw⟩, ⟨.inr (.inl .now), now⟩,
          ⟨.inr (.inr (.speed (.ofReading reading r.daemon))), taken⟩ ]

/-- A speed run that comes to its end leaves what it should. -/
theorem traces_speed {a : Except Problem Int64} (ends : r.speed.Ends turns a) :
    SpeedTrace r (traces turns) := by
  cases speedRun_of_ends ends with
  | failed p => exact .failed p
  | unread unread => exact .unread unread
  | submitted read => exact .submitted read _

end Rig

namespace Daemon

variable {r : Rig} {s s' : State} {e : Event} {note : Option Told}

/-! ### The end -/

/-- The daemon has an eye on each scheduled run that is still going on. -/
def Watched (s : State) : Prop :=
  ∀ (i : ℕ) (t : Task), s.tasks[i]? = some t → t.source.isDemand = false →
    i ∈ s.unjoined ∨ t.isFinished

/-- A run is watched until it is finished. -/
lemma Moves.unjoined (moves : Moves r s e note s') {i : ℕ} {t : Task} (get : s.tasks[i]? = some t)
    (mem : i ∈ s.unjoined) : i ∈ s'.unjoined ∨ t.isFinished := by
  have unjoined : s'.unjoined = (agendaAfter r s e).unjoined := by rw [← moves.agenda]
  rw [unjoined]
  cases e with
  | tick k => exact .inl (List.mem_append_left _ mem)
  | join j =>
    cases moves with
    | join get' _ finished =>
      by_cases eq : i = j
      · subst eq
        cases get.symm.trans get'
        exact .inr finished
      · exact .inl ((List.mem_erase_of_ne eq).mpr mem)
  | _ => exact .inl mem

lemma Watched.step (h : Watched s) (moves : Moves r s e note s') : Watched s' := by
  intro i t' get' scheduled
  rcases moves.origin get' with ⟨t, get, goes⟩ | ⟨rfl, source, new, rfl⟩
  · have same : t'.source = t.source := by
      generalize turnsOf note.toList i = turns at goes
      cases goes <;> rfl
    have before : i ∈ s'.unjoined ∨ t.isFinished :=
      (h i t get (same ▸ scheduled)).elim (moves.unjoined get) .inr
    rcases before with mem | finished
    · exact .inl mem
    · right
      generalize turnsOf note.toList i = turns at goes
      cases goes with
      | keeps b => exact finished
      | told rest a b => simp [Task.isFinished, rest] at finished
      | breaks => rfl
  · cases e with
    | tick k =>
      left
      have unjoined : s'.unjoined = s.unjoined ++ [s.tasks.length] := by
        rw [moves.agenda]
        rfl
      simp [unjoined]
    | demand d =>
      cases new
      contradiction
    | _ => cases new

/-- Once the daemon is over it stays so. -/
lemma Moves.isOver (moves : Moves r s e note s') (ended : s.isOver) : s'.isOver := by
  rw [moves.agenda]
  simp only [Agenda.isOver, Bool.and_eq_true, Bool.not_eq_true', List.isEmpty_iff] at ended ⊢
  cases moves with
  | tick scheduling =>
    rw [ended.1] at scheduling
    contradiction
  | join _ mem =>
    rw [ended.2] at mem
    contradiction
  | stop => exact ⟨rfl, ended.2⟩
  | _ => exact ended

/-- Who is told something is still going on. -/
lemma Moves.told_unfinished {n : Told} (moves : Moves r s e (some n) s') :
    ∃ t, s.tasks[n.task]? = some t ∧ t.isFinished = false := by
  cases moves with
  | proceed get rest | free get rest | drop get rest | reply get rest =>
    exact ⟨_, get, by rw [Task.isFinished, rest]⟩

/-- After the end only runs that clients asked for are told anything. -/
theorem Course.after_end {more : List Event} {new : List Told} (watched : Watched s)
    (ended : s.isOver) (course : Course r s more new s') :
    Watched s' ∧ s'.isOver ∧
      ∀ n ∈ new, ∃ t, s'.tasks[n.task]? = some t ∧ t.source.isDemand := by
  induction course with
  | refl => exact ⟨watched, ended, List.forall_mem_nil _⟩
  | @step more new s₁ s₂ _ e happens ih =>
    obtain ⟨watched, still, old⟩ := ih
    have moves := moves_of_step happens
    have stays {i : ℕ} {t : Task} (get : s₁.tasks[i]? = some t) (demanded : t.source.isDemand) :
        ∃ t', s₂.tasks[i]? = some t' ∧ t'.source.isDemand := by
      obtain ⟨t', get', goes⟩ := moves.goes get
      refine ⟨t', get', ?_⟩
      generalize turnsOf _ i = turns at goes
      cases goes <;> exact demanded
    refine ⟨watched.step moves, moves.isOver still, ?_⟩
    intro n mem
    rcases List.mem_append.mp mem with before | now
    · obtain ⟨t, get, demanded⟩ := old n before
      exact stays get demanded
    · rw [Option.mem_toList.mp now] at moves
      obtain ⟨t, get, unfinished⟩ := moves.told_unfinished
      apply stays get
      by_contra scheduled
      rw [Bool.not_eq_true] at scheduled
      rcases watched _ t get scheduled with mem | finished
      · simp only [Agenda.isOver, Bool.and_eq_true, List.isEmpty_iff] at still
        rw [still.2] at mem
        contradiction
      · simp [finished] at unfinished

lemma Course.watched {events : List Event} {log : List Told}
    (course : Course r (fresh r) events log s) : Watched s := by
  induction course with
  | refl => exact nofun
  | step _ _ happens ih => exact ih.step (moves_of_step happens)

/-- When the daemon is over, each scheduled run that did not panic has come to the end of its
plan. -/
lemma Course.ends_of_isOver {events : List Event} {log : List Told}
    (course : Course r (fresh r) events log s) (ended : s.isOver) {i : ℕ} {t : Task}
    (calm : .panic i ∉ events) (get : s.tasks[i]? = some t)
    (scheduled : t.source.isDemand = false) :
    (t.source.plan r).Ends (turnsOf log i) () := by
  have finished : t.isFinished := by
    rcases course.watched i t get scheduled with mem | finished
    · simp only [Agenda.isOver, Bool.and_eq_true, List.isEmpty_iff] at ended
      rw [ended.2] at mem
      contradiction
    · exact finished
  have whole : t.broken = false := by
    by_contra broken
    rw [Bool.not_eq_false] at broken
    rcases course.recorded.broken i t get broken with ⟨-, panicked | demanded⟩
    · exact calm panicked
    · simp [demanded] at scheduled
  obtain ⟨rest, leads, left⟩ := course.recorded.leads i t get
  rw [left whole, Task.isFinished_iff.mp finished] at leads
  exact leads

/-- Only what a job does leaves a trace. -/
lemma traces_tick {k : Schedule} {n : ℕ} {turns : List (Turn Measuring)}
    (ends : ((Source.tick k n).plan r).Ends turns ()) :
    traces turns = [] ∨ ∃ job, (k.job r).Ends job () ∧ traces turns = traces job := by
  rcases doneOnce_of_ends ends with rfl | ⟨job, done, rfl⟩
  · exact .inl rfl
  · refine .inr ⟨job, done, ?_⟩
    change traces (job ++ [_]) = traces job
    rw [traces_append]
    exact List.append_nil _

/-- When the daemon is over, every tool that a round started has had its outcome submitted, once and
as it was, and every speed run has submitted its reading, once, or nothing if there was none. That
holds of each scheduled run that did not panic, whenever it was started, however it was interleaved
with others and whatever tools and the place where results go answered, and of those that the end
came upon as well. After the end no scheduled run asks for anything any more. -/
theorem nothing_is_lost {events : List Event} {log : List Told}
    (course : Course r (fresh r) events log s) (ended : s.isOver) :
    (∀ (i n : ℕ) (t : Task), s.tasks[i]? = some t → .panic i ∉ events →
        t.source = .tick .throughput n →
        ∃ visits : List Visit,
          traces (turnsOf log i) =
              visits.flatMap (Visit.turns r r.testing.throughputDuration) ∧
            ∀ v ∈ visits, v.Honest r r.testing.throughputDuration) ∧
      (∀ (i n : ℕ) (t : Task), s.tasks[i]? = some t → .panic i ∉ events →
        t.source = .tick .speed n → Rig.SpeedTrace r (traces (turnsOf log i))) ∧
      ∀ (more : List Event) (new : List Told) (s' : State), Course r s more new s' →
        s'.isOver ∧ ∀ n ∈ new, ∃ t, s'.tasks[n.task]? = some t ∧ t.source.isDemand := by
  have ends {i n : ℕ} {t : Task} {k : Schedule} (get : s.tasks[i]? = some t)
      (calm : .panic i ∉ events) (source : t.source = .tick k n) :
      ((Source.tick k n).plan r).Ends (turnsOf log i) () := by
    have ends := course.ends_of_isOver ended calm get (by rw [source, Source.isDemand])
    rwa [source] at ends
  refine ⟨?throughput, ?speed,
    fun more new s' further => (further.after_end course.watched ended).2⟩
  case throughput =>
    intro i n t get calm source
    rcases traces_tick (ends get calm source) with none | ⟨job, done, eq⟩
    · exact ⟨[], none, List.forall_mem_nil _⟩
    · obtain ⟨_, turns, last, rfl, round, left⟩ := Plan.ends_bind.mp done
      obtain ⟨rfl, -⟩ := Plan.leads_done.mp left
      rw [eq, List.append_nil]
      exact Rig.traces_round round
  case speed =>
    intro i n t get calm source
    rcases traces_tick (ends get calm source) with none | ⟨job, done, eq⟩
    · rw [none]
      exact .unstarted
    · obtain ⟨_, turns, last, rfl, speed, left⟩ := Plan.ends_bind.mp done
      obtain ⟨rfl, -⟩ := Plan.leads_done.mp left
      rw [eq, List.append_nil]
      exact Rig.traces_speed speed

/-- A host that tools do not reach. -/
def unreached : Host :=
  ⟨1, "attic", "attic.local", 5201, .lan, true, none, ⟨1600000000, 0, by decide⟩,
    ⟨1600000000, 0, by decide⟩⟩

/-- The world in which it stands alone. -/
def unreachedWorld : (q : Surroundings.Question) → Surroundings.Answer q
  | .inl .now => (⟨1600000000, 0, by decide⟩ : Instant)
  | .inl (.draw last) => (⟨0, Nat.succ_pos last⟩ : Fin (last + 1))
  | .inl (.run c) => .error (.toolFailed c.program "cancelled" none)
  | .inr .hosts => .ok [unreached]
  | .inr (.speed _) => .ok 1
  | .inr (.throughput _) => .ok 1

/-- The daemon is told to stop while a tool runs. What came of it is still submitted. -/
theorem nothing_is_lost_unreached :
    ∃ (events : List Event) (log : List Told) (s : State) (visits : List Visit),
      Course usual (fresh usual) events log s ∧ s.isOver ∧
      traces (turnsOf log 0) =
        visits.flatMap (Visit.turns usual usual.testing.throughputDuration) ∧
      (∀ v ∈ visits, v.Honest usual usual.testing.throughputDuration) ∧ visits.length = 1 := by
  have started := ((Course.refl : Course usual (fresh usual) [] [] _).step
    (.tick .throughput) rfl).step (.enter 0) rfl
  have listed := (started.step (.proceed 0) rfl).step (.reply 0 unreachedWorld) rfl
  have drawn := (listed.step (.proceed 0) rfl).step (.reply 0 unreachedWorld) rfl
  have stopped := (drawn.step .cancel rfl).step .stop rfl
  have run := (stopped.step (.reply 0 unreachedWorld) rfl).step (.reply 0 unreachedWorld) rfl
  have submitted := (run.step (.reply 0 unreachedWorld) rfl).step (.proceed 0) rfl
  have course := (submitted.step (.proceed 0) rfl).step (.join 0) rfl
  obtain ⟨rounds, -, -⟩ := nothing_is_lost course rfl
  obtain ⟨visits, eq, honest⟩ := rounds 0 0 _ rfl (by simp) rfl
  refine ⟨_, _, _, visits, course, rfl, eq, honest, ?_⟩
  have three :
      (visits.flatMap (Visit.turns usual usual.testing.throughputDuration)).length = 3 := by
    rw [← eq]
    rfl
  rw [List.length_flatMap] at three
  simp [Visit.turns] at three
  omega

end Daemon

end LinkGauge
