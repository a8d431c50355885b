import LinkGauge.Measurement.Bench
import LinkGauge.Text.Blank
import LinkGauge.Tool.Status
import LinkGauge.Word

/-!
# Watching a tool

A tool runs as a process with two pipes. Whoever waits for it collects what comes out of them until
the process has exited and both pipes have ended, or until the deadline or a cancellation comes
first. Then a process that still runs is killed, and its end is waited for. What comes of a run
depends on the order of events alone.
-/

namespace LinkGauge.Tool

/-- What happens while a tool is watched. -/
inductive Event where
  /-- The process has ended. -/
  | exited (status : ExitStatus)
  /-- Bytes come out of the pipe for output. -/
  | output (bytes : Json.Bytes)
  /-- Bytes come out of the pipe for errors. -/
  | errors (bytes : Json.Bytes)
  | outputEnds
  | errorsEnd
  /-- The deadline passes. -/
  | deadline
  /-- The watcher is told to stop. -/
  | cancel
  deriving DecidableEq, Repr

/-- What came out of a pipe so far, and whether more can come. -/
structure Pipe where
  bytes : Json.Bytes
  ended : Bool
  deriving DecidableEq, Repr

/-- What a run comes to: the output, or why there is none. -/
abbrev Result := Except Problem Json.Bytes

/-- How far the watch has come. -/
inductive Phase where
  | running
  /-- The process has ended, but not yet both of its pipes. -/
  | draining (status : ExitStatus)
  /-- The process was killed; its end is waited for. -/
  | killing (result : Result)
  | over (result : Result)

/-- The watch over a tool. -/
structure Watch where
  command : Command
  phase : Phase
  output : Pipe
  errors : Pipe

/-- The problem of a tool that cannot be started; the system says why. -/
def notStarted (c : Command) (reason : String) : Problem :=
  .toolFailed c.program ("failed to spawn: " ++ reason) none

/-- Begin to watch a tool that was started. The clock must reach as far as the deadline. -/
def watch (c : Command) : Except Abort Watch :=
  if c.deadline.seconds < Word.half64 then .ok ⟨c, .running, ⟨[], false⟩, ⟨[], false⟩⟩
  else .error .clockExceeded

namespace Watch

/-- What an interruption comes to. -/
def timedOut (w : Watch) : Result := .error (.timedOut w.command.program w.command.deadline)

/-- What a cancellation comes to. -/
def cancelled (w : Watch) : Result := .error (.toolFailed w.command.program "cancelled" none)

/-- What a tool wrote about its failure, unless that is blank. -/
def complaint? (w : Watch) : Option String :=
  match trim (Utf8.decodeLossy w.errors.bytes) with
  | "" => none
  | text => some text

/-- What a complete run comes to. -/
def outcome (w : Watch) (status : ExitStatus) : Result :=
  if status.isSuccess then .ok w.output.bytes
  else .error (.toolFailed w.command.program ("exited with " ++ status.text) w.complaint?)

/-- Come to the end if the run is complete. -/
def settle (w : Watch) : Watch :=
  match w.phase with
  | .draining status =>
    if w.output.ended && w.errors.ended then { w with phase := .over (w.outcome status) } else w
  | _ => w

/-- An interruption with a result. -/
def interrupt (w : Watch) (result : Result) : Watch :=
  match w.phase with
  | .running => { w with phase := .killing result }
  | .draining _ => { w with phase := .over result }
  | .killing _ | .over _ => w

/-- Take note of an event. -/
def step (w : Watch) : Event → Watch
  | .exited status =>
    match w.phase with
    | .running => { w with phase := .draining status }.settle
    | .killing result => { w with phase := .over result }
    | .draining _ | .over _ => w
  | .output bytes => { w with output.bytes := w.output.bytes ++ bytes }
  | .errors bytes => { w with errors.bytes := w.errors.bytes ++ bytes }
  | .outputEnds => { w with output.ended := true }.settle
  | .errorsEnd => { w with errors.ended := true }.settle
  | .deadline => w.interrupt w.timedOut
  | .cancel => w.interrupt w.cancelled

/-- Take note of events in their order. -/
def steps (w : Watch) (events : List Event) : Watch := events.foldl step w

/-- What the run came to, once it did. -/
def result? (w : Watch) : Option Result :=
  match w.phase with
  | .over result => some result
  | _ => none

/-! ### What stays -/

theorem result?_step {w : Watch} {r : Result} (h : w.result? = some r) (e : Event) :
    (w.step e).result? = some r := by
  obtain ⟨c, phase, output, errors⟩ := w
  cases phase <;> simp_all [result?]
  cases e <;> simp [step, interrupt, settle]

theorem result?_steps {w : Watch} {r : Result} (h : w.result? = some r) (events : List Event) :
    (w.steps events).result? = some r := by
  induction events generalizing w with
  | nil => exact h
  | cons e rest ih => exact ih (result?_step h e)

end Watch

end LinkGauge.Tool
