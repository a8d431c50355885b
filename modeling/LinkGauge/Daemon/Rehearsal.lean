import LinkGauge.Daemon.Machine

/-!
# Rehearsals of the daemon

The daemon can be rehearsed on a virtual clock, which goes from one event to the next. Tools take
as long as they are said to, and the first run that can go on does so before time goes by. When the
process is told to stop, those who wait hear of it in the order in which they began to wait. Who
hears of it and is given a slot at once takes the slot.
-/

namespace LinkGauge.Daemon

/-- What a tool is said to do. -/
structure Cue where
  /-- The process is told to stop when the tool starts. -/
  cancels : Bool
  /-- How long the tool takes, in nanoseconds. Without it, the tool ends before it can be cut. -/
  length : Option Nat
  result : Except Problem Json.Bytes

/-- What surrounds a rehearsed daemon, with a state of its own. -/
structure Stage (σ : Type) where
  now : Instant
  run : Command → σ → Cue × σ
  hosts : σ → Except Problem (List Host)
  speed : Speed.Submission → σ → Except Problem Int64 × σ
  throughput : Throughput.Submission → σ → Except Problem Int64 × σ

/-- What is noted of a tool. -/
inductive Mark where
  | started
  | ended
  | cut
  deriving DecidableEq, Repr

/-- A tool that runs for a task, until a time. -/
structure Running where
  task : Nat
  wake : Nat
  command : Command
  result : Except Problem Json.Bytes

/-- A rehearsal that is going on. -/
structure Rehearsal (σ : Type) where
  rig : Rig
  stage : Stage σ
  state : State
  surroundings : σ
  running : List Running
  /-- The tasks that wait for a tool or in line, in the order in which they began to. -/
  waiting : List Nat
  /-- What was noted, and when. -/
  notes : List (Nat × Mark × Command)

namespace Rehearsal

variable {σ : Type}

/-- Something happens to the daemon, if it can. -/
def happen (r : Rehearsal σ) (e : Event) : Rehearsal σ :=
  match step r.rig r.state e with
  | some state => { r with state }
  | none => r

/-- A task begins to wait. -/
def await (r : Rehearsal σ) (i : Nat) : Rehearsal σ :=
  { r with waiting := r.waiting.erase i ++ [i] }

def note (r : Rehearsal σ) (mark : Mark) (c : Command) : Rehearsal σ :=
  { r with notes := r.notes ++ [(r.state.now, mark, c)] }

/-- The answers to a task that waits for one of them. Draws are the first position. -/
def answers (now : Instant) (run : Except Problem Json.Bytes) (hosts : Except Problem (List Host))
    (taken : Except Problem Int64) : (q : Surroundings.Question) → Surroundings.Answer q
  | .inl .now => now
  | .inl (.draw last) => (⟨0, Nat.succ_pos last⟩ : Fin (last + 1))
  | .inl (.run _) => run
  | .inr .hosts => hosts
  | .inr (.speed _) => taken
  | .inr (.throughput _) => taken

/-- The answers to a task that waits for its tool. -/
def toolAnswers (r : Rehearsal σ) (result : Except Problem Json.Bytes) :
    (q : Surroundings.Question) → Surroundings.Answer q :=
  answers r.stage.now result (.ok []) (.ok 0)

/-- A tool ends. -/
def finish (r : Rehearsal σ) (t : Running) : Rehearsal σ :=
  let r := { r with running := r.running.filter (·.task != t.task) }
  (r.note .ended t.command).happen (.reply t.task (r.toolAnswers t.result))

/-- A tool is cut off. -/
def cut (r : Rehearsal σ) (task : Nat) (c : Command) : Rehearsal σ :=
  let r := { r with running := r.running.filter (·.task != task) }
  (r.note .cut c).happen
    (.reply task (r.toolAnswers (.error (.toolFailed c.program "cancelled" none))))

/-- A tool starts, unless the process was told to stop. -/
def launch (r : Rehearsal σ) (task : Nat) (c : Command) : Rehearsal σ :=
  let (cue, surroundings) := r.stage.run c r.surroundings
  let r := { r.note .started c with surroundings }
  let r :=
    if cue.cancels then { r.happen .cancel with waiting := task :: r.waiting.erase task } else r
  match cue.length with
  | none => r.finish ⟨task, r.state.now, c, cue.result⟩
  | some length =>
    if r.state.cancelled then r.cut task c
    else { r.await task with
      running := r.running ++ [⟨task, r.state.now + length, c, cue.result⟩] }

/-- What a task can do at once, or what the daemon can do about it. -/
def act? (r : Rehearsal σ) (i : Nat) (t : Task) : Option (Rehearsal σ) :=
  match t.rest with
  | .done _ => if r.state.unjoined.contains i then some (r.happen (.join i)) else none
  | .ask (.inl (.abort _)) _ => some (r.happen (.panic i))
  | .ask (.inl _) _ =>
    if t.wantsSlot && !t.holdsSlot then
      if r.state.cancelled then
        (step r.rig r.state (.drop i)).map fun state => { r with state }
      else if r.state.line.contains i then none
      else some ((r.await i).happen (.enter i))
    else some (r.happen (.proceed i))
  | .ask (.inr (.inl (.run c))) _ =>
    if r.running.any (·.task == i) then
      if r.state.cancelled then some (r.cut i c) else none
    else some (r.launch i c)
  | .ask (.inr (.inr .hosts)) _ =>
    some (r.happen (.reply i
      (answers r.stage.now (.ok []) (r.stage.hosts r.surroundings) (.ok 0))))
  | .ask (.inr (.inr (.speed s))) _ =>
    let (taken, surroundings) := r.stage.speed s r.surroundings
    some ({ r with surroundings }.happen (.reply i (answers r.stage.now (.ok []) (.ok []) taken)))
  | .ask (.inr (.inr (.throughput s))) _ =>
    let (taken, surroundings) := r.stage.throughput s r.surroundings
    some ({ r with surroundings }.happen (.reply i (answers r.stage.now (.ok []) (.ok []) taken)))
  | .ask (.inr (.inl _)) _ => some (r.happen (.reply i (r.toolAnswers (.ok []))))

/-- The first task that can do something at once does so. -/
def first? (r : Rehearsal σ) : Option (Rehearsal σ) :=
  let told :=
    if r.state.cancelled then
      r.waiting.findSome? fun i => r.state.tasks[i]?.bind (r.act? i)
    else none
  told <|> r.state.tasks.zipIdx.findSome? fun (t, i) => r.act? i t

/-- Time goes by up to the next event. Who is told to stop does so. -/
def advance (r : Rehearsal σ) (cancelAt : Nat) : Rehearsal σ :=
  if r.state.cancelled then r.happen .stop
  else
    let due := r.state.due
    let next := r.running.foldl (fun time t => min time t.wake)
      (min cancelAt (min (due .speed) (due .throughput)))
    let r := r.happen (.advance next)
    if next = cancelAt then r.happen .cancel
    else
      let r := (r.running.filter (·.wake = next)).foldl finish r
      let r := if due .speed = next then r.happen (.tick .speed) else r
      if due .throughput = next then r.happen (.tick .throughput) else r

/-- Go on to the end, and then up to the time at which the process would be told to stop. Each step
takes one of `fuel`. -/
def play (cancelAt : Nat) : Nat → Rehearsal σ → Rehearsal σ
  | 0, r => r
  | fuel + 1, r =>
    match r.first? with
    | some r => play cancelAt fuel r
    | none =>
      if r.state.isOver then r.happen (.advance cancelAt)
      else play cancelAt fuel (r.advance cancelAt)

/-- A bound on the steps of a rehearsal: on the runs that are started, and on what each of them
does. -/
def bound (r : Rig) (cancelAt : Nat) : Nat :=
  let runs (k : Schedule) := cancelAt / max 1 (k.interval r).nanos + 2
  40 * (runs .speed + runs .throughput)

end Rehearsal

/-- Rehearse the daemon, which is told to stop at a time in nanoseconds. -/
def rehearse {σ : Type} (r : Rig) (stage : Stage σ) (surroundings : σ) (cancelAt : Nat) :
    Except Abort (Rehearsal σ) := do
  let state ← start r
  .ok (Rehearsal.play cancelAt (Rehearsal.bound r cancelAt)
    ⟨r, stage, state, surroundings, [], [], []⟩)

end LinkGauge.Daemon
