import LinkGauge.Delivery.Basic
import LinkGauge.Settings.Basic
import LinkGauge.Word

/-!
# The bench

What measuring needs: slots that bound how many runs go on at once and word of a cancellation, from
the process itself; the clock, draws and tools to run, from the bench; and delivery of results.
-/

namespace LinkGauge

/-- A tool to run, and how long it may take. -/
structure Command where
  program : String
  args : List String
  deadline : Span

def maxSlots : Nat := Word.size64 / 8 - 1

/-- Why a run breaks off with nothing to show, or cannot begin. -/
inductive Abort where
  /-- The deadline of a tool is beyond every span. -/
  | deadlineTooLong
  | tooManySlots
  /-- A schedule without time between its runs. -/
  | noInterval
  /-- The deadline of a tool is later than the clock can tell. -/
  | clockExceeded
  deriving DecidableEq, Repr

def Abort.message : Abort → String
  | .deadlineTooLong => "overflow when adding durations"
  | .tooManySlots =>
    "a semaphore may not have more than MAX_PERMITS permits (" ++ toString maxSlots ++ ")"
  | .noInterval => "`period` must be non-zero."
  | .clockExceeded => "overflow when adding duration to instant"

/-- What is asked of the process itself. -/
inductive Control.Question where
  /-- Whether the process is to stop. -/
  | cancelled
  /-- Wait for a slot and take it. -/
  | takeSlot
  /-- Wait for a slot and take it, or stop waiting once the process is to stop. -/
  | takeSlotUnlessCancelled
  /-- Give the slot back. -/
  | freeSlot
  /-- Break off. There is no answer. -/
  | abort (reason : Abort)

/-- What the process itself offers to its runs. -/
def Control : Interface where
  Question := Control.Question
  Answer
    | .cancelled => Bool
    | .takeSlot => Unit
    | .takeSlotUnlessCancelled => Bool
    | .freeSlot => Unit
    | .abort _ => Empty

/-- What is asked of the bench. -/
inductive Bench.Question where
  | now
  /-- A position in a list, up to the last one. -/
  | draw (last : Nat)
  /-- Run a tool to its end. The answer is its output. -/
  | run (c : Command)

/-- What the bench offers. -/
def Bench : Interface where
  Question := Bench.Question
  Answer
    | .now => Instant
    | .draw last => Fin (last + 1)
    | .run _ => Except Problem Json.Bytes

/-- What measuring needs of the world. -/
abbrev Surroundings : Interface := Bench.sum Delivery

/-- What measuring needs. -/
abbrev Measuring : Interface := Control.sum Surroundings

namespace Measuring

variable {α : Type}

def cancelled : Plan Measuring Bool := .ask (.inl .cancelled) .done

def abort (reason : Abort) : Plan Measuring α := .ask (.inl (.abort reason)) fun no => nomatch no

def now : Plan Measuring Instant := .ask (.inr (.inl .now)) .done

def draw (last : Nat) : Plan Measuring (Fin (last + 1)) := .ask (.inr (.inl (.draw last))) .done

def run (c : Command) : Plan Measuring (Except Problem Json.Bytes) :=
  .ask (.inr (.inl (.run c))) .done

def hosts : Plan Measuring (Except Problem (List Host)) := .ask (.inr (.inr .hosts)) .done

def submitSpeed (s : Speed.Submission) : Plan Measuring (Except Problem Int64) :=
  .ask (.inr (.inr (.speed s))) .done

def submitThroughput (s : Throughput.Submission) : Plan Measuring (Except Problem Int64) :=
  .ask (.inr (.inr (.throughput s))) .done

/-- Take a slot for as long as a plan goes on. -/
def withSlot (p : Plan Measuring α) : Plan Measuring α :=
  .ask (.inl .takeSlot) fun _ => p.bind fun a => .ask (.inl .freeSlot) fun _ => .done a

/-- Take a slot for as long as a plan goes on, unless the process is to stop before there is one. -/
def withSlotUnlessCancelled (p : Plan Measuring Unit) : Plan Measuring Unit :=
  .ask (.inl .takeSlotUnlessCancelled) fun (taken : Bool) =>
    if taken then p.bind fun _ => .ask (.inl .freeSlot) fun _ => .done () else .done ()

end Measuring

/-- What a process measures with: limits, tools, and the name that results carry. -/
structure Rig where
  testing : Settings.Testing
  tools : Settings.Tools
  daemon : DaemonId

/-- Whether there can be as many slots as are set. -/
def Rig.check (r : Rig) : Except Abort Unit :=
  if r.testing.slots ≤ maxSlots then .ok () else .error .tooManySlots

end LinkGauge
