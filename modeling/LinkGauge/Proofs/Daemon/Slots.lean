import LinkGauge.Proofs.Daemon.Schedules
import LinkGauge.Proofs.Throughput.Rounds

/-!
# Slots

However runs are interleaved and however they end, no slot is lost and none is taken twice. So no
more runs than there are slots go on at once, and runs wait only while all slots are taken.
-/

namespace LinkGauge

open Daemon (Schedule Source Demand)

/-! ### Questions of runs -/

/-- What a run may ask while it keeps its slot. -/
def Keeps : Measuring.Question → Prop
  | .inl .cancelled => True
  | .inl (.abort _) => True
  | .inl _ => False
  | .inr _ => True

namespace Rig

lemma speed_keeps (r : Rig) : r.speed.Asks Keeps := asks_speed trivial trivial fun _ => trivial

lemma InVisits.keeps {r : Rig} {duration : Span} {q : Measuring.Question}
    (h : r.InVisits duration q) : Keeps q := by
  rcases q with control | q
  · cases control with
    | cancelled | abort => trivial
    | takeSlot | takeSlotUnlessCancelled | freeSlot => exact h
  · trivial

end Rig

/-! ### Plans with and without a slot -/

/-- What is left of a run that holds a slot. Giving back the slot is the last thing it does. -/
inductive Inside : Plan Measuring Unit → Prop where
  | keeps {q : Measuring.Question} {next : Measuring.Answer q → Plan Measuring Unit}
      (here : Keeps q) (later : ∀ a, Inside (next a)) : Inside (.ask q next)
  | frees {next : Unit → Plan Measuring Unit} (last : next () = .done ()) :
      Inside (.ask (.inl .freeSlot) next)

/-- What is left of a run that holds no slot. It takes one before it does anything but ask for the
hosts. -/
inductive Outside : Plan Measuring Unit → Prop where
  | done : Outside (.done ())
  | takes {next : Unit → Plan Measuring Unit} (inside : Inside (next ())) :
      Outside (.ask (.inl .takeSlot) next)
  | mayTake {next : Bool → Plan Measuring Unit} (inside : Inside (next true))
      (otherwise : next false = .done ()) : Outside (.ask (.inl .takeSlotUnlessCancelled) next)
  | hosts {next : Except Problem (List Host) → Plan Measuring Unit}
      (later : ∀ a, Outside (next a)) : Outside (.ask (.inr (.inr .hosts)) next)

section Shape

variable {α : Type} {p : Plan Measuring α}

lemma inside_bind (h : p.Asks Keeps) :
    Inside (p.bind fun _ => .ask (.inl .freeSlot) fun _ => .done ()) := by
  induction h with
  | done a => exact .frees rfl
  | ask here _ ih => exact .keeps here ih

lemma outside_withSlot (h : p.Asks Keeps) :
    Outside ((Measuring.withSlot p).bind fun _ => .done ()) := by
  refine .takes ?_
  rw [Plan.bind_assoc]
  exact inside_bind h

lemma outside_withSlotUnlessCancelled {p : Plan Measuring Unit} (h : p.Asks Keeps) :
    Outside (Measuring.withSlotUnlessCancelled p) := .mayTake (inside_bind h) rfl

end Shape

lemma Daemon.Schedule.asks_job (r : Rig) (k : Schedule) : (k.job r).Asks Keeps := by
  cases k with
  | speed => exact r.speed_keeps.bind fun _ => .done _
  | throughput =>
    exact (Rig.InVisits.asks_round r _ trivial fun _ => Rig.InVisits.keeps).bind fun _ => .done _

/-- All runs begin without a slot. -/
lemma Daemon.Source.outside_plan (r : Rig) (source : Source) : Outside (source.plan r) := by
  cases source with
  | tick k n => exact outside_withSlotUnlessCancelled (k.asks_job r)
  | demand d =>
    cases d with
    | speed => exact outside_withSlot r.speed_keeps
    | round duration =>
      exact outside_withSlot (Rig.InVisits.asks_round r _ trivial fun _ => Rig.InVisits.keeps)
    | host id duration =>
      refine .hosts ?_
      intro answer
      cases answer with
      | error p => exact .done
      | ok hosts =>
        change Outside ((r.throughputAmong id duration hosts).bind _)
        simp only [Rig.throughputAmong]
        split
        · exact .done
        · exact outside_withSlot
            ((Rig.InVisits.asks_throughput r _ _).mono fun _ => Rig.InVisits.keeps)

namespace Daemon

/-! ### Runs in order -/

/-- A run holds a slot from when it was given one to when it gives it back, and holds none before
and after. -/
structure Task.Orderly (t : Task) : Prop where
  outside : t.holdsSlot = false → Outside t.rest
  inside : t.holdsSlot → Inside t.rest ∨ t.wantsSlot ∧ Outside t.rest

namespace Task.Orderly

variable {t : Task} (h : t.Orderly)

include h

/-- Who has finished holds no slot. -/
lemma holds_of_finished (finished : t.isFinished) : t.holdsSlot = false := by
  by_contra holds
  rw [Bool.not_eq_false] at holds
  rcases h.inside holds with inside | ⟨wants, -⟩
  · simp only [isFinished] at finished
    generalize t.rest = rest at inside finished
    cases inside <;> contradiction
  · simp only [isFinished] at finished
    simp only [wantsSlot] at wants
    cases eq : t.rest <;> simp [eq] at finished wants

/-- Who runs a tool holds a slot. -/
lemma holds_of_tool (runs : t.tool?.isSome) : t.holdsSlot := by
  by_contra holds
  rw [Bool.not_eq_true] at holds
  have outside := h.outside holds
  simp only [tool?] at runs
  generalize t.rest = rest at outside runs
  cases outside <;> contradiction

/-- Only a run that wants a slot is given one. -/
lemma grant (wants : t.wantsSlot) (holds : t.holdsSlot = false) :
    Orderly { t with holdsSlot := true } :=
  ⟨nofun, fun _ => .inr ⟨wants, h.outside holds⟩⟩

lemma proceed {s : State} {q : Control.Question} {next : Control.Answer q → Plan Measuring Unit}
    {a : Control.Answer q} (rest : t.rest = .ask (.inl q) next) (keeps : q ≠ .freeSlot)
    (answer : processAnswer s t q = some a) : Orderly { t with rest := next a } := by
  obtain ⟨outside, inside⟩ := h
  rw [rest] at outside inside
  cases holds : t.holdsSlot with
  | false =>
    cases outside holds <;> simp [processAnswer, holds] at answer
  | true =>
    refine ⟨nofun, fun _ => .inl ?_⟩
    rcases inside holds with inside | ⟨-, outside⟩
    · cases inside with
      | keeps _ later => exact later a
      | frees => contradiction
    · cases outside with
      | takes first => exact first
      | mayTake first _ =>
        simp only [processAnswer, holds, if_true] at answer
        cases answer
        exact first

lemma reply {q : Surroundings.Question} {next : Surroundings.Answer q → Plan Measuring Unit}
    (rest : t.rest = .ask (.inr q) next) (a : Surroundings.Answer q) :
    Orderly { t with rest := next a } := by
  have busy : t.wantsSlot = false := by rw [wantsSlot, rest]
  obtain ⟨outside, inside⟩ := h
  rw [rest] at outside inside
  constructor
  · intro holds
    cases outside holds with
    | hosts later => exact later a
  · intro holds
    left
    rcases inside holds with inside | ⟨wants, -⟩
    · cases inside with
      | keeps _ later => exact later a
    · rw [busy] at wants
      contradiction

/-- A slot is given back at the end. -/
lemma free {next : Unit → Plan Measuring Unit} (rest : t.rest = .ask (.inl .freeSlot) next) :
    next () = .done () := by
  have busy : t.wantsSlot = false := by rw [wantsSlot, rest]
  obtain ⟨outside, inside⟩ := h
  rw [rest] at outside inside
  cases holds : t.holdsSlot with
  | false => cases outside holds
  | true =>
    rcases inside holds with inside | ⟨wants, -⟩
    · cases inside with
      | frees last => exact last
      | keeps here _ => exact here.elim
    · rw [busy] at wants
      contradiction

/-- A run that stops waiting ends. -/
lemma drop {next : Bool → Plan Measuring Unit}
    (rest : t.rest = .ask (.inl .takeSlotUnlessCancelled) next) : next false = .done () := by
  have outside : Outside t.rest := by
    cases holds : t.holdsSlot with
    | false => exact h.outside holds
    | true =>
      rcases h.inside holds with inside | ⟨-, outside⟩
      · rw [rest] at inside
        cases inside with
        | keeps here _ => exact here.elim
      · exact outside
  rw [rest] at outside
  cases outside with
  | mayTake _ otherwise => exact otherwise

end Task.Orderly

/-! ### Slots and the line -/

/-- How many runs hold a slot. -/
def State.held (s : State) : ℕ := s.tasks.countP (·.holdsSlot)

/-- There are `n` slots, and runs that have none wait for them in turn. -/
structure Sound (n : ℕ) (s : State) : Prop where
  slots : s.freeSlots + s.held = n
  distinct : s.line.Nodup
  waiting : ∀ i ∈ s.line, ∃ t, s.tasks[i]? = some t ∧ t.wantsSlot ∧ t.holdsSlot = false
  full : s.line ≠ [] → s.freeSlots = 0
  orderly : ∀ t ∈ s.tasks, t.Orderly

namespace Sound

variable {n : ℕ} {s : State} {i : ℕ} {t : Task} (h : Sound n s)

include h

lemma orderly_get (get : s.tasks[i]? = some t) : t.Orderly :=
  h.orderly t (List.mem_of_getElem? get)

/-- Who goes on with a slot or does not want one is not in line. -/
lemma not_mem_line (get : s.tasks[i]? = some t) (idle : t.wantsSlot = false ∨ t.holdsSlot) :
    i ∉ s.line := by
  intro mem
  obtain ⟨u, get', wants, holds⟩ := h.waiting i mem
  cases get.symm.trans get'
  rcases idle with idle | idle
  · rw [wants] at idle
    contradiction
  · rw [holds] at idle
    contradiction

lemma spawn (r : Rig) (source : Source) : Sound n (s.spawn source r) where
  slots := by
    rw [← h.slots, State.held, State.spawn, List.countP_append]
    rfl
  distinct := h.distinct
  waiting j mem := by
    obtain ⟨u, get, wants⟩ := h.waiting j mem
    refine ⟨u, ?_, wants⟩
    rw [State.spawn, List.getElem?_append_left (List.getElem?_eq_some_iff.mp get).1, get]
  full := h.full
  orderly u mem := by
    rcases List.mem_append.mp mem with mem | mem
    · exact h.orderly u mem
    · cases List.mem_singleton.mp mem
      exact ⟨fun _ => source.outside_plan r, fun holds => absurd holds Bool.false_ne_true⟩

/-- A run that is not in line goes on, with or without its slot. -/
lemma setTask {m : ℕ} {u : Task} (get : s.tasks[i]? = some t) (out : i ∉ s.line)
    (orderly : u.Orderly)
    (count : m + t.holdsSlot.toNat = n + u.holdsSlot.toNat) : Sound m (s.setTask i u) where
  slots := by
    obtain ⟨lt, eq⟩ := List.getElem?_eq_some_iff.mp get
    have slots := h.slots
    have held : (s.setTask i u).held + t.holdsSlot.toNat = s.held + u.holdsSlot.toNat := by
      have some_holds : t.holdsSlot → 0 < s.held := fun holds =>
        List.countP_pos_iff.mpr ⟨t, List.mem_of_getElem? get, holds⟩
      simp only [State.held, State.setTask]
      rw [List.countP_set lt, eq]
      cases holds : t.holdsSlot with
      | false => cases u.holdsSlot <;> simp
      | true =>
        have pos := some_holds holds
        simp only [State.held] at pos
        cases u.holdsSlot <;> simp <;> omega
    have free : (s.setTask i u).freeSlots = s.freeSlots := rfl
    omega
  distinct := h.distinct
  waiting j mem := by
    have other : i ≠ j := by
      rintro rfl
      exact out mem
    rw [get_setTask get, if_neg other]
    exact h.waiting j mem
  full := h.full
  orderly v mem := by
    rcases List.mem_or_eq_of_mem_set mem with mem | rfl
    · exact h.orderly v mem
    · exact orderly

lemma grant (get : s.tasks[i]? = some t) (out : i ∉ s.line) (wants : t.wantsSlot)
    (holds : t.holdsSlot = false) : Sound (n + 1) (s.grant i) := by
  have eq : s.grant i = s.setTask i { t with holdsSlot := true } := by
    have : Inhabited Task := ⟨t⟩
    simp only [State.grant, State.setTask]
    congr 1
    rw [List.modify_eq_set, get]
    rfl
  rw [eq]
  exact h.setTask get out ((h.orderly_get get).grant wants holds) (by simp [holds])

/-- A slot that was given back goes to the first run in line, or it is free again. -/
lemma passSlot : Sound (n + 1) s.passSlot := by
  simp only [State.passSlot]
  split
  case h_1 empty =>
    refine ⟨?_, h.distinct, h.waiting, fun some => (some empty).elim, h.orderly⟩
    have slots := h.slots
    change s.freeSlots + 1 + s.held = n + 1
    omega
  case h_2 i line eq =>
    have distinct := h.distinct
    rw [eq, List.nodup_cons] at distinct
    have rest : Sound n { s with line } :=
      { h with
        distinct := distinct.2
        waiting := fun j mem => h.waiting j (eq ▸ List.mem_cons_of_mem i mem)
        full := fun _ => h.full (by simp [eq]) }
    obtain ⟨t, get, wants, holds⟩ := h.waiting i (by simp [eq])
    exact rest.grant get distinct.1 wants holds

/-- A run leaves its slot or its place in line to others. -/
lemma leave {rest : Plan Measuring Unit} (broken : Bool) (get : s.tasks[i]? = some t)
    (outside : Outside rest) : Sound n (s.leave i t rest broken) := by
  have gone : Sound n { s with line := s.line.erase i } :=
    { h with
      distinct := h.distinct.erase i
      waiting := fun j mem => h.waiting j (List.mem_of_mem_erase mem)
      full := fun some => h.full fun empty => some (by simp [empty]) }
  have out : i ∉ s.line.erase i := h.distinct.not_mem_erase
  have orderly : Task.Orderly { t with holdsSlot := false, rest, broken } :=
    ⟨fun _ => outside, nofun⟩
  simp only [State.leave]
  cases holds : t.holdsSlot with
  | false =>
    rw [if_neg (by simp)]
    exact gone.setTask get out orderly (by simp [holds])
  | true =>
    rw [if_pos rfl]
    have pos : 0 < s.held := List.countP_pos_iff.mpr ⟨t, List.mem_of_getElem? get, holds⟩
    have slots := h.slots
    obtain ⟨m, rfl⟩ : ∃ m, n = m + 1 := ⟨n - 1, by omega⟩
    exact (gone.setTask get out orderly (by simp [holds])).passSlot

/-- No event loses a slot or adds one. -/
theorem step {r : Rig} {e : Event} {note : Option Told} {s' : State} (moves : Moves r s e note s') :
    Sound n s' := by
  cases moves with
  | advance => exact { h with }
  | tick => exact { h.spawn r _ with }
  | demand d => exact h.spawn r _
  | cancel => exact { h with }
  | stop => exact { h with }
  | join => exact { h with }
  | take get wants holds out free =>
    have slots := h.slots
    obtain ⟨m, rfl⟩ : ∃ m, n = m + 1 := ⟨n - 1, by omega⟩
    have fewer : Sound m { s with freeSlots := s.freeSlots - 1 } :=
      { h with
        slots := by
          change s.freeSlots - 1 + s.held = m
          omega
        full := fun some => by
          change s.freeSlots - 1 = 0
          rw [h.full some] }
    exact fewer.grant get out wants holds
  | @queue i t get wants holds out full =>
    refine ⟨h.slots, ?_, ?_, fun _ => full, h.orderly⟩
    · exact List.nodup_append.mpr ⟨h.distinct, List.nodup_singleton i, by
        rintro a mem b same rfl
        exact out (List.mem_singleton.mp same ▸ mem)⟩
    · intro j mem
      rcases List.mem_append.mp mem with mem | mem
      · exact h.waiting j mem
      · cases List.mem_singleton.mp mem
        exact ⟨t, get, wants, holds⟩
  | proceed get rest keeps answer =>
    have orderly := (h.orderly_get get).proceed rest keeps answer
    refine h.setTask get (h.not_mem_line get ?_) orderly rfl
    rename_i t q _ _
    cases holds : t.holdsSlot with
    | true => exact .inr rfl
    | false => cases q <;> simp [processAnswer, holds] at answer <;> simp [Task.wantsSlot, rest]
  | free get rest =>
    have last := (h.orderly_get get).free rest
    exact h.leave _ get (last ▸ .done)
  | drop get rest _ =>
    have last := (h.orderly_get get).drop rest
    exact h.leave _ get (last ▸ .done)
  | reply get rest answer =>
    have orderly := (h.orderly_get get).reply rest (answer _)
    exact h.setTask get (h.not_mem_line get (.inl (by rw [Task.wantsSlot, rest]))) orderly rfl
  | panic get _ _ => exact h.leave _ get .done
  | abandon get _ _ => exact h.leave _ get .done

end Sound

lemma sound_fresh (r : Rig) : Sound r.testing.slots (fresh r) where
  slots := rfl
  distinct := List.nodup_nil
  waiting := nofun
  full some := (some rfl).elim
  orderly := nofun

section Course

variable {r : Rig} {s : State} {events : List Event} {log : List Told}

/-- Slots are kept in every course. -/
theorem Course.sound (course : Course r (fresh r) events log s) : Sound r.testing.slots s := by
  induction course with
  | refl => exact sound_fresh r
  | step _ _ happens ih => exact ih.step (moves_of_step happens)

/-! ### Turns of runs -/

/-- A run is given a slot. -/
def Takes (turn : Plan.Turn Measuring) : Prop :=
  turn = ⟨.inl .takeSlot, ()⟩ ∨ turn = ⟨.inl .takeSlotUnlessCancelled, true⟩

lemma not_takes {q : Measuring.Question} {a : Measuring.Answer q} (h : Keeps q) :
    ¬Takes ⟨q, a⟩ := by
  rintro (eq | eq) <;> cases eq <;> exact h

/-- Nothing is left both to who holds a slot and to who does not. -/
lemma not_inside_of_outside {p : Plan Measuring Unit} (outside : Outside p) : ¬Inside p := by
  induction outside with
  | done => exact nofun
  | takes =>
    rintro (here | _)
    exact here
  | mayTake =>
    rintro (here | _)
    exact here
  | hosts _ ih =>
    rintro (⟨-, later⟩ | _)
    exact ih (.ok []) (later (.ok []))

/-- Who holds a slot keeps it up to the end. -/
lemma inside_of_leads {p rest : Plan Measuring Unit} {turns : List (Plan.Turn Measuring)}
    (leads : p.Leads turns rest) (inside : Inside p) : Inside rest ∨ rest = .done () := by
  induction leads with
  | refl => exact .inl inside
  | ask answer leads ih =>
    cases inside with
    | keeps _ later => exact ih (later answer)
    | @frees next last =>
      have ended : next answer = .done () := last
      exact .inr (Plan.leads_done.mp (ended ▸ leads)).2

/-- Who was given a slot is inside or done. -/
lemma inside_of_takes {p rest : Plan Measuring Unit} {turns : List (Plan.Turn Measuring)}
    (leads : p.Leads turns rest) (outside : Outside p) (taken : ∃ turn ∈ turns, Takes turn) :
    Inside rest ∨ rest = .done () := by
  induction leads with
  | refl =>
    obtain ⟨_, mem, _⟩ := taken
    contradiction
  | ask answer leads ih =>
    cases outside with
    | takes inside => exact inside_of_leads leads inside
    | mayTake inside otherwise =>
      cases answer with
      | true => exact inside_of_leads leads inside
      | false =>
        rw [otherwise] at leads
        exact .inr (Plan.leads_done.mp leads).2
    | hosts later =>
      apply ih (later answer)
      obtain ⟨turn, mem, takes⟩ := taken
      rcases List.mem_cons.mp mem with rfl | mem
      · exact absurd takes (not_takes trivial)
      · exact ⟨turn, mem, takes⟩

/-- Who was told to stop stays so. -/
lemma cancelledAt_after {e : Event} {stop : ℕ} (told : s.cancelledAt = some stop) :
    (agendaAfter r s e).cancelledAt = some stop := by
  cases e with
  | cancel =>
    simp only [agendaAfter]
    rw [told]
    rfl
  | _ => exact told

/-- Before the process is told to stop, no run stops waiting. -/
lemma Course.not_dropped (course : Course r (fresh r) events log s)
    (running : s.cancelled = false) :
    ∀ n ∈ log, n.turn ≠ ⟨.inl .takeSlotUnlessCancelled, false⟩ := by
  induction course with
  | refl => exact List.forall_mem_nil _
  | @step events log s s' _ e happens ih =>
    have moves := moves_of_step happens
    have before : s.cancelled = false := by
      rw [Agenda.cancelled, moves.agenda] at running
      rw [Agenda.cancelled]
      cases was : s.cancelledAt with
      | none => rfl
      | some stop =>
        rw [cancelledAt_after was] at running
        contradiction
    intro n mem
    rcases List.mem_append.mp mem with old | new
    · exact ih before n old
    · rw [Option.mem_toList.mp new] at moves
      cases moves with
      | proceed get rest _ answer =>
        intro eq
        cases eq
        have given : true = false := Option.some.inj (Option.ite_none_right_eq_some.mp answer).2
        contradiction
      | free | reply =>
        intro eq
        cases eq
      | drop _ _ cancelled =>
        rw [before] at cancelled
        contradiction

/-- The job of a schedule was done once, from the first turn to the last, with a slot. -/
def DoneOnce (r : Rig) (k : Schedule) (turns : List (Plan.Turn Measuring)) : Prop :=
  ∃ job, (k.job r).Ends job () ∧
    turns = ⟨.inl .takeSlotUnlessCancelled, true⟩ :: (job ++ [⟨.inl .freeSlot, ()⟩])

/-- A scheduled run that comes to its end did its job once, or it never was given a slot. -/
lemma doneOnce_of_ends {k : Schedule} {n : ℕ} {turns : List (Plan.Turn Measuring)}
    (ends : ((Source.tick k n).plan r).Ends turns ()) :
    turns = [⟨.inl .takeSlotUnlessCancelled, false⟩] ∨ DoneOnce r k turns := by
  obtain ⟨taken, rest, rfl, going⟩ := Plan.ends_ask.mp ends
  cases taken with
  | false =>
    obtain ⟨rfl, -⟩ := Plan.leads_done.mp going
    exact .inl rfl
  | true =>
    obtain ⟨a, job, last, rfl, done, freeing⟩ := Plan.ends_bind.mp going
    obtain ⟨_, none, rfl, freed⟩ := Plan.ends_ask.mp freeing
    obtain ⟨rfl, -⟩ := Plan.leads_done.mp freed
    exact .inr ⟨job, done, rfl⟩

/-! ### States of runs -/

/-- Exactly one of three things is so. -/
def OneOf (a b c : Prop) : Prop := a ∧ ¬b ∧ ¬c ∨ ¬a ∧ b ∧ ¬c ∨ ¬a ∧ ¬b ∧ c

/-- A run has yet to be given a slot. -/
def Task.IsWaiting (t : Task) : Prop := t.wantsSlot ∧ t.holdsSlot = false

lemma Task.isFinished_iff {t : Task} : t.isFinished ↔ t.rest = .done () := by
  simp only [isFinished]
  cases t.rest <;> simp

lemma Task.wantsSlot_of_isFinished {t : Task} (h : t.isFinished) : t.wantsSlot = false := by
  rw [wantsSlot, isFinished_iff.mp h]

/-- A scheduled run that has no slot waits and was told nothing so far, or it is finished. -/
lemma Course.waits_or_finished (course : Course r (fresh r) events log s) {i n : ℕ} {t : Task}
    {k : Schedule} (get : s.tasks[i]? = some t) (source : t.source = .tick k n)
    (holds : t.holdsSlot = false) : t.wantsSlot ∧ turnsOf log i = [] ∨ t.isFinished := by
  have recorded := course.recorded
  cases broken : t.broken with
  | true => exact .inr (recorded.broken i t get broken).1
  | false =>
    obtain ⟨rest, leads, left⟩ := recorded.leads i t get
    have outside := (course.sound.orderly_get get).outside holds
    rw [← left broken] at outside
    rw [source] at leads
    generalize turns_eq : turnsOf log i = turns at leads
    cases leads with
    | refl =>
      refine .inl ⟨?_, rfl⟩
      rw [Task.wantsSlot, ← left broken]
      rfl
    | ask taken leads =>
      right
      rw [Task.isFinished_iff, ← left broken]
      cases taken with
      | true =>
        rcases inside_of_leads leads (inside_bind (k.asks_job r)) with inside | done
        · exact absurd inside (not_inside_of_outside outside)
        · exact done
      | false => exact (Plan.leads_done.mp leads).2

/-- Before the process is told to stop, a scheduled run that was done to the end did its job
once. -/
lemma Course.doneOnce (course : Course r (fresh r) events log s) (running : s.cancelled = false)
    {i n : ℕ} {t : Task} {k : Schedule} (get : s.tasks[i]? = some t) (source : t.source = .tick k n)
    (finished : t.isFinished) (whole : t.broken = false) : DoneOnce r k (turnsOf log i) := by
  obtain ⟨rest, leads, left⟩ := course.recorded.leads i t get
  rw [left whole, Task.isFinished_iff.mp finished, source] at leads
  rcases doneOnce_of_ends leads with unstarted | done
  · have mem : ⟨.inl .takeSlotUnlessCancelled, false⟩ ∈ turnsOf log i := by simp [unstarted]
    obtain ⟨note, mem, here⟩ := List.mem_filterMap.mp mem
    obtain ⟨-, dropped⟩ := Option.ite_none_right_eq_some.mp here
    exact absurd (Option.some.inj dropped) (course.not_dropped running note mem)
  · exact done

/-- A scheduled run is in exactly one of three states. -/
lemma Course.oneOf (course : Course r (fresh r) events log s) {i n : ℕ} {t : Task} {k : Schedule}
    (get : s.tasks[i]? = some t) (source : t.source = .tick k n) :
    OneOf t.IsWaiting t.holdsSlot t.isFinished := by
  have apart (finished : t.isFinished) : ¬t.IsWaiting := by
    rintro ⟨wants, -⟩
    rw [Task.wantsSlot_of_isFinished finished] at wants
    contradiction
  cases holds : t.holdsSlot with
  | true =>
    refine .inr (.inl ⟨?_, rfl, ?_⟩)
    · intro waits
      simp [waits.2] at holds
    · intro finished
      simp [(course.sound.orderly_get get).holds_of_finished finished] at holds
  | false =>
    rcases course.waits_or_finished get source holds with ⟨wants, -⟩ | finished
    · have waits : t.IsWaiting := ⟨wants, holds⟩
      exact .inl ⟨waits, nofun, fun finished => apart finished waits⟩
    · exact .inr (.inr ⟨apart finished, nofun, finished⟩)

/-- Whoever was given a slot holds it up to its end. -/
lemma Course.holds_of_takes (course : Course r (fresh r) events log s) {i : ℕ} {t : Task}
    (get : s.tasks[i]? = some t) (taken : ∃ turn ∈ turnsOf log i, Takes turn)
    (unfinished : t.isFinished = false) : t.holdsSlot := by
  by_contra holds
  rw [Bool.not_eq_true] at holds
  have outside := (course.sound.orderly_get get).outside holds
  obtain ⟨rest, leads, left⟩ := course.recorded.leads i t get
  have whole : t.broken = false := by
    by_contra broken
    rw [Bool.not_eq_false] at broken
    simp [(course.recorded.broken i t get broken).1] at unfinished
  rw [left whole] at leads
  rcases inside_of_takes leads (t.source.outside_plan r) taken with inside | done
  · exact not_inside_of_outside outside inside
  · simp [Task.isFinished_iff.mpr done] at unfinished

/-- While a slot is free, whoever wants it is given it. -/
lemma enters {n i : ℕ} {t : Task} (h : Sound n s) (free : 0 < s.freeSlots)
    (get : s.tasks[i]? = some t) (waits : t.IsWaiting) :
    ∃ s' t', step r s (.enter i) = some s' ∧ s'.tasks[i]? = some t' ∧ t'.holdsSlot := by
  have out : i ∉ s.line := by
    intro mem
    have none := h.full (List.ne_nil_of_mem mem)
    omega
  have given : enter s i t = some ({ s with freeSlots := s.freeSlots - 1 }.grant i) := by
    rw [enter, if_pos ⟨waits.1, by simp [waits.2], out⟩, if_pos free]
  refine ⟨{ s with freeSlots := s.freeSlots - 1 }.grant i, { t with holdsSlot := true },
    ?_, ?_, rfl⟩
  · rw [step, get, Option.bind_some, given]
  · rw [State.grant, List.getElem?_modify, get, Option.map_eq_map, Option.map_some, if_pos rfl]

/-- No slot is lost and none is taken twice, however runs of schedules and runs on demand are
interleaved and however they end. Only who holds a slot runs a tool, and whoever was given one holds
it up to its end. Runs wait in line only while all slots are held; while one is free, whoever wants
it is given it. And until the process is told to stop, each tick stands for one run, which waits,
goes on or is finished; unless it panicked, it has then done its job, once. -/
theorem slots_are_kept (course : Course r (fresh r) events log s) :
    (s.freeSlots + s.held = max 1 r.testing.maxConcurrentRuns.toNat ∧
      s.tasks.countP (·.tool?.isSome) ≤ s.held ∧
      ∀ (i : ℕ) (t : Task), s.tasks[i]? = some t → (∃ turn ∈ turnsOf log i, Takes turn) →
        t.isFinished = false → t.holdsSlot) ∧
    ((s.line ≠ [] → s.held = max 1 r.testing.maxConcurrentRuns.toNat) ∧
      (0 < s.freeSlots → ∀ (i : ℕ) (t : Task), s.tasks[i]? = some t → t.IsWaiting →
        ∃ s' t', step r s (.enter i) = some s' ∧ s'.tasks[i]? = some t' ∧ t'.holdsSlot)) ∧
    (s.cancelled = false → ∀ (k : Schedule) (n : ℕ), n < s.started k →
      ∃ (i : ℕ) (t : Task), s.tasks[i]? = some t ∧ t.source = .tick k n ∧
        (∀ (j : ℕ) (u : Task), s.tasks[j]? = some u → u.source = .tick k n → j = i) ∧
        OneOf t.IsWaiting t.holdsSlot t.isFinished ∧ (t.IsWaiting → turnsOf log i = []) ∧
        (t.isFinished → t.broken = false → DoneOnce r k (turnsOf log i))) := by
  have sound := course.sound
  have slots : s.freeSlots + s.held = max 1 r.testing.maxConcurrentRuns.toNat := sound.slots
  refine ⟨⟨slots, ?tools, fun i t => course.holds_of_takes⟩,
    ⟨?full, fun free i t => enters sound free⟩, ?once⟩
  case tools => exact List.countP_mono_left fun t mem => (sound.orderly t mem).holds_of_tool
  case full =>
    intro some
    have none := sound.full some
    omega
  case once =>
    intro running k n lt
    obtain ⟨i, t, get, source, unique⟩ := course.existsUnique_place lt
    refine ⟨i, t, get, source, unique, course.oneOf get source, ?_,
      course.doneOnce running get source⟩
    intro waits
    rcases course.waits_or_finished get source waits.2 with ⟨-, none⟩ | finished
    · exact none
    · have wants := waits.1
      rw [Task.wantsSlot_of_isFinished finished] at wants
      contradiction

/-- A rig with a single slot. -/
def narrow : Rig := { usual with testing := { usual.testing with maxConcurrentRuns := 0 } }

theorem slots_are_kept_narrow :
    ∃ log s, Course narrow (fresh narrow) [.tick .speed, .demand (.round none), .enter 1, .enter 0]
      log s ∧ s.line = [0] ∧ s.held = 1 ∧ s.cancelled = false ∧
      ∃ (i : ℕ) (t : Task), s.tasks[i]? = some t ∧ t.source = .tick .speed 0 := by
  have ticked := (Course.refl : Course narrow (fresh narrow) [] [] _).step (.tick .speed) rfl
  have asked := ticked.step (.demand (.round none)) rfl
  have given := asked.step (.enter 1) rfl
  have course := given.step (.enter 0) rfl
  obtain ⟨-, ⟨full, -⟩, once⟩ := slots_are_kept course
  obtain ⟨i, t, get, source, -⟩ := once rfl .speed 0 (by decide)
  exact ⟨_, _, course, rfl, full (by simp), rfl, i, t, get, source⟩

end Course

end Daemon

end LinkGauge
