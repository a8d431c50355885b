import LinkGauge.Speed.Run
import LinkGauge.Throughput.Round

/-!
# The daemon

The daemon starts a speed run and a round of throughput tests whenever their intervals have passed,
first at once. Clients may ask for further runs. All runs go on side by side, but only as many as
there are slots; the others wait in line. Here is the daemon as a machine that takes one event at a
time. Which event comes next is left open, so a property of all sequences of events holds however
runs are interleaved, however long they take and whatever comes of them.
-/

namespace LinkGauge.Daemon

/-! ### Runs -/

/-- What is done at intervals. -/
inductive Schedule where
  | speed
  | throughput
  deriving DecidableEq, Repr

/-- The time between two runs of a schedule. -/
def Schedule.interval (r : Rig) : Schedule → Span
  | .speed => r.testing.speedInterval
  | .throughput => r.testing.throughputInterval

/-- What a schedule does at each interval. Problems go no further. -/
def Schedule.job (r : Rig) : Schedule → Plan Measuring Unit
  | .speed => r.speed.bind fun _ => .done ()
  | .throughput => (r.round r.testing.throughputDuration).bind fun _ => .done ()

/-- Change what is known of a schedule. -/
def Schedule.put (f : Schedule → Nat) (k : Schedule) (n : Nat) : Schedule → Nat :=
  fun j => if j = k then n else f j

@[simp] theorem Schedule.put_same (f : Schedule → Nat) (k : Schedule) (n : Nat) :
    Schedule.put f k n k = n := if_pos rfl

theorem Schedule.put_other (f : Schedule → Nat) {j k : Schedule} (n : Nat) (h : j ≠ k) :
    Schedule.put f k n j = f j := if_neg h

/-- What clients may ask for. -/
inductive Demand where
  | speed
  | round (duration : Option Span)
  | host (id : Int64) (duration : Option Span)

/-- What led to a run. -/
inductive Source where
  /-- A schedule, and how many of its runs were started before. -/
  | tick (k : Schedule) (n : Nat)
  | demand (d : Demand)

/-- What is to be done in a run. -/
def Source.plan (r : Rig) : Source → Plan Measuring Unit
  | .tick k _ => Measuring.withSlotUnlessCancelled (k.job r)
  | .demand .speed => r.speedNow.bind fun _ => .done ()
  | .demand (.round duration) => (r.roundNow duration).bind fun _ => .done ()
  | .demand (.host id duration) => (r.throughputNow id duration).bind fun _ => .done ()

def Source.isDemand : Source → Bool
  | .tick _ _ => false
  | .demand _ => true

/-- A run. -/
structure Task where
  source : Source
  /-- When it was started. -/
  start : Nat
  holdsSlot : Bool
  /-- What is still to be done. -/
  rest : Plan Measuring Unit
  /-- The run broke off before it was done. -/
  broken : Bool

namespace Task

/-- The run waits for a slot. -/
def wantsSlot (t : Task) : Bool :=
  match t.rest with
  | .ask (.inl .takeSlot) _ | .ask (.inl .takeSlotUnlessCancelled) _ => true
  | _ => false

def isFinished (t : Task) : Bool :=
  match t.rest with
  | .done _ => true
  | .ask _ _ => false

/-- The tool that the run waits for, if it does. -/
def tool? (t : Task) : Option Command :=
  match t.rest with
  | .ask (.inr (.inl (.run c))) _ => some c
  | _ => none

end Task

/-! ### States -/

/-- What the daemon keeps of its schedules, with times in nanoseconds from its start. -/
structure Agenda where
  now : Nat
  /-- When the process was told to stop, if it was. -/
  cancelledAt : Option Nat
  /-- The daemon still starts runs. -/
  scheduling : Bool
  /-- When the next run of each schedule is due. -/
  due : Schedule → Nat
  /-- How many runs of each schedule were started. -/
  started : Schedule → Nat
  /-- The scheduled runs whose end the daemon has not seen yet, by their places among the tasks. -/
  unjoined : List Nat

/-- The daemon and its runs at an instant. -/
structure State extends Agenda where
  freeSlots : Nat
  /-- The runs that are in line for a slot, by their places. -/
  line : List Nat
  /-- All runs, in the order in which they were started. -/
  tasks : List Task

/-- The beginning. -/
def fresh (r : Rig) : State where
  now := 0
  cancelledAt := none
  scheduling := true
  due := fun _ => 0
  started := fun _ => 0
  unjoined := []
  freeSlots := r.testing.slots
  line := []
  tasks := []

/-- The beginning, unless the settings do not permit one. -/
def start (r : Rig) : Except Abort State := do
  r.check
  if r.testing.speedInterval.isZero || r.testing.throughputInterval.isZero then
    .error .noInterval
  else
    .ok (fresh r)

namespace Agenda

def cancelled (a : Agenda) : Bool := a.cancelledAt.isSome

/-- The daemon has stopped and has seen the end of all its scheduled runs. -/
def isOver (a : Agenda) : Bool := !a.scheduling && a.unjoined.isEmpty

/-- A tick that is more than this late, in nanoseconds, puts off those after it. -/
def tolerance : Nat := 5000000

/-- When the run of a schedule after the one that is due will be due. -/
def dueNext (a : Agenda) (r : Rig) (k : Schedule) : Nat :=
  (if a.due k + tolerance < a.now then a.now else a.due k) + (k.interval r).nanos

end Agenda

namespace State

/-- Put a task in the place of another one. -/
def setTask (s : State) (i : Nat) (t : Task) : State := { s with tasks := s.tasks.set i t }

/-- Give a slot to a task. -/
def grant (s : State) (i : Nat) : State :=
  { s with tasks := s.tasks.modify i fun t => { t with holdsSlot := true } }

/-- Pass on a slot that was given back: to the first run in line, or to none. -/
def passSlot (s : State) : State :=
  match s.line with
  | [] => { s with freeSlots := s.freeSlots + 1 }
  | i :: line => { s with line }.grant i

/-- A task goes on without a slot: it gives back the one it holds, or its place in line. -/
def leave (s : State) (i : Nat) (t : Task) (rest : Plan Measuring Unit) (broken : Bool) : State :=
  let s := { s with line := s.line.erase i }.setTask i { t with holdsSlot := false, rest, broken }
  if t.holdsSlot then s.passSlot else s

/-- Start a run. -/
def spawn (s : State) (source : Source) (r : Rig) : State :=
  { s with tasks := s.tasks ++ [⟨source, s.now, false, source.plan r, false⟩] }

end State

/-! ### Events -/

/-- What can happen next. Runs are told by their places among the tasks. -/
inductive Event where
  | advance (time : Nat)
  /-- A run of a schedule is started. -/
  | tick (k : Schedule)
  /-- A client asks for a run. -/
  | demand (d : Demand)
  /-- The process is told to stop. -/
  | cancel
  /-- The daemon stops starting runs. -/
  | stop
  /-- The daemon sees the end of a scheduled run. -/
  | join (i : Nat)
  /-- A run gets in line for a slot, or takes one that is free. -/
  | enter (i : Nat)
  /-- A run learns from the process what it asked. -/
  | proceed (i : Nat)
  /-- A run stops waiting for a slot because the process is to stop. -/
  | drop (i : Nat)
  /-- A run learns from the world what it asked. -/
  | reply (i : Nat) (answer : (q : Surroundings.Question) → Surroundings.Answer q)
  | panic (i : Nat)
  /-- A client does not wait any longer for the run it asked for. -/
  | abandon (i : Nat)

/-- A run of a schedule is started, once it is due. -/
def tick (r : Rig) (s : State) (k : Schedule) : Option State :=
  if s.scheduling ∧ s.due k ≤ s.now then
    some { s.spawn (.tick k (s.started k)) r with
      due := Schedule.put s.due k (s.dueNext r k)
      started := Schedule.put s.started k (s.started k + 1)
      unjoined := s.unjoined ++ [s.tasks.length] }
  else none

/-- The end of a scheduled run is seen. -/
def join (s : State) (i : Nat) (t : Task) : Option State :=
  if i ∈ s.unjoined ∧ t.isFinished then some { s with unjoined := s.unjoined.erase i } else none

/-- A run gets in line. -/
def enter (s : State) (i : Nat) (t : Task) : Option State :=
  if t.wantsSlot ∧ ¬t.holdsSlot ∧ i ∉ s.line then
    if 0 < s.freeSlots then some ({ s with freeSlots := s.freeSlots - 1 }.grant i)
    else some { s with line := s.line ++ [i] }
  else none

/-- What the process answers a run, once it does. Who breaks off is not answered. -/
def processAnswer (s : State) (t : Task) : (q : Control.Question) → Option (Control.Answer q)
  | .cancelled => some s.cancelled
  | .takeSlot => if t.holdsSlot then some () else none
  | .takeSlotUnlessCancelled => if t.holdsSlot then some true else none
  | .freeSlot => some ()
  | .abort _ => none

/-- A run goes on where the process answers it. -/
def proceed (s : State) (i : Nat) (t : Task) : Option State :=
  match t.rest with
  | .ask (.inl q) next =>
    (processAnswer s t q).map fun a =>
      match q with
      | .freeSlot => s.leave i t (next a) t.broken
      | _ => s.setTask i { t with rest := next a }
  | _ => none

/-- A run stops waiting. A slot that it was just given goes to the next one. -/
def drop (s : State) (i : Nat) (t : Task) : Option State :=
  match t.rest with
  | .ask (.inl .takeSlotUnlessCancelled) next =>
    if s.cancelled then some (s.leave i t (next false) t.broken) else none
  | _ => none

/-- A run goes on where the world answers it. -/
def reply (s : State) (i : Nat) (t : Task)
    (answer : (q : Surroundings.Question) → Surroundings.Answer q) : Option State :=
  match t.rest with
  | .ask (.inr q) next => some (s.setTask i { t with rest := next (answer q) })
  | _ => none

/-- A run panics. While it waits for a slot it does nothing that could. -/
def panic (s : State) (i : Nat) (t : Task) : Option State :=
  if t.isFinished ∨ t.wantsSlot then none else some (s.leave i t (.done ()) true)

/-- A run that a client asked for is given up. -/
def abandon (s : State) (i : Nat) (t : Task) : Option State :=
  if t.source.isDemand ∧ ¬t.isFinished then some (s.leave i t (.done ()) true) else none

/-- The state after an event, unless it cannot happen. -/
def step (r : Rig) (s : State) : Event → Option State
  | .advance time => if s.now ≤ time then some { s with now := time } else none
  | .tick k => tick r s k
  | .demand d => some (s.spawn (.demand d) r)
  | .cancel => some { s with cancelledAt := some (s.cancelledAt.getD s.now) }
  | .stop => if s.cancelled then some { s with scheduling := false } else none
  | .join i => s.tasks[i]?.bind (join s i)
  | .enter i => s.tasks[i]?.bind (enter s i)
  | .proceed i => s.tasks[i]?.bind (proceed s i)
  | .drop i => s.tasks[i]?.bind (drop s i)
  | .reply i answer => s.tasks[i]?.bind fun t => reply s i t answer
  | .panic i => s.tasks[i]?.bind (panic s i)
  | .abandon i => s.tasks[i]?.bind (abandon s i)

end LinkGauge.Daemon
