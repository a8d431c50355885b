import LinkGauge.Tool.Watch
import LinkGauge.Script.Basic
import LinkGauge.Script.Program
import LinkGauge.Script.Token

/-!
# Playing scripts

A script is played on a clock of its own. What it amounts to is what it writes to each of the two
pipes and when, when and how its process ends, and when the last program that holds a pipe does.
-/

namespace LinkGauge.Script

open Json (Bytes)

/-- Where a descriptor leads. -/
inductive Target where
  | output
  | errors
  | nowhere
  /-- To the next program. -/
  | next
  deriving DecidableEq, Repr

/-- What surrounds a program. -/
structure Scope where
  /-- The name of the shell in its complaints. -/
  shell : String
  output : Target
  errors : Target
  input : Bytes

/-- What was played so far. Times are in microseconds. -/
structure Course where
  time : Nat
  status : Nat
  /-- The process of the script has ended. -/
  ended : Option ExitStatus
  /-- What was written to the pipes, and when. -/
  written : List (Nat × Tool.Event)
  /-- What was written to the next program. -/
  passedOn : Bytes
  /-- When the last holder of the pipe for output ends. -/
  outputHeld : Nat
  /-- When the last holder of the pipe for errors ends. -/
  errorsHeld : Nat
  /-- When the last program in the background ends. -/
  background : Nat

/-- The scope with a descriptor led elsewhere. -/
def Scope.redirect (s : Scope) (r : Redirect) : Scope :=
  let goal := match r.source with
    | some 1 => s.output
    | some 2 => s.errors
    | _ => .nowhere
  match r.descriptor with
  | 1 => { s with output := goal }
  | 2 => { s with errors := goal }
  | _ => { s with input := [] }

namespace Course

/-- The beginning, a moment after the process was asked for. -/
def start : Course := ⟨2000, 0, none, [], [], 0, 0, 0⟩

def write (c : Course) (t : Target) (bytes : Bytes) : Course :=
  match t with
  | .output => { c with written := c.written ++ [(c.time, .output bytes)] }
  | .errors => { c with written := c.written ++ [(c.time, .errors bytes)] }
  | .next => { c with passedOn := c.passedOn ++ bytes }
  | .nowhere => c

/-- What leads to a pipe in a scope holds it up to now. -/
def hold (c : Course) (s : Scope) : Course :=
  { c with
    outputHeld :=
      if s.output = .output ∨ s.errors = .output then max c.outputHeld c.time else c.outputHeld
    errorsHeld :=
      if s.output = .errors ∨ s.errors = .errors then max c.errorsHeld c.time else c.errorsHeld }

/-- Time goes by in a scope. -/
def wait (c : Course) (s : Scope) (micros : Nat) : Course :=
  { c with time := min never (c.time + micros) }.hold s

/-- The process ends. -/
def finish (c : Course) (status : ExitStatus) : Course := { c with ended := some status }

/-- A process of its own has ended; the one of the script goes on. -/
def resume (c : Course) : Course :=
  match c.ended with
  | some (.code n) => { c with ended := none, status := n }
  | _ => c

/-- Do what a program does. -/
def perform (c : Course) (s : Scope) (e : Effect) : Course :=
  let c := (c.write s.output e.output).write s.errors e.errors
  { c.wait s e.micros with status := e.status }

end Course

/-! ### Signals -/

/-- The number of a signal that is given by number or by name. -/
def signalNumber (s : String) : Nat :=
  match s.toNat? with
  | some n => n
  | none =>
    let name := if s.startsWith "SIG" then String.ofList (s.toList.drop 3) else s
    ExitStatus.signalNames.idxOf name + 1

/-- Signals that change nothing. -/
def harmless : List Nat := [0, 17, 18, 23, 28]

/-- Signals that make a process stand still. -/
def halting : List Nat := [19, 20, 21, 22]

/-- Send a signal to the process of the script. -/
def signalled (s : Scope) (c : Course) (n : Nat) : Course :=
  if n ∈ harmless then { c with status := 0 }
  else if n ∈ halting then c.wait s never
  else c.finish (.signal n false)

/-- The signal that `kill` sends with its arguments, and where to. -/
def signalOf : List String → Nat × List String
  | "-s" :: name :: goals => (signalNumber name, goals)
  | first :: goals =>
    match first.toList with
    | '-' :: name => (signalNumber (String.ofList name), goals)
    | _ => (15, first :: goals)
  | [] => (15, [])

/-! ### Playing -/

/-- Do what a shell does itself, or start a program. -/
def command (s : Scope) (c : Course) (words : List String) : Course :=
  match words with
  | [] => { c with status := 0 }
  | name :: args =>
    if name ∈ ["trap", "ulimit", "set", "cd", "export"] ∨ name.toList.contains '=' then
      { c with status := 0 }
    else if name = "wait" then { c with time := max c.time c.background, status := 0 }
    else if name = "kill" then
      let (n, goals) := signalOf args
      if ownNumber ∈ goals then signalled s c n else { c with status := 1 }
    else
      match program? true (s.output = .next) s.input name args with
      | some e => c.perform s e
      | none => c.perform s (.complains (s.shell ++ ": 1: " ++ name ++ ": not found\n") 127)

/-- Play the words of a program. -/
def playWords (s : Scope) (c : Course) (words : List String) : Course :=
  match words with
  | "exit" :: args => c.finish (.code ((args.head?.bind String.toNat?).getD c.status % 256))
  | ["exec"] => c
  | "exec" :: words =>
    let c := command s c words
    if c.ended.isSome then c else c.finish (.code c.status)
  | words => command s c words

/-- Play a script, unless its process has ended. -/
def play (s : Scope) (script : Script) (c : Course) : Course :=
  if c.ended.isSome then c
  else
    match script with
    | nothing => c
    | program words => playWords s c words
    | redirected inner changes => play (changes.foldl Scope.redirect s) inner c
    | inside inner => ((play s inner c).hold s).resume
    | forever inner => (play s inner c).wait s never
    | pipe first rest =>
      let d := (play { s with output := .next } first { c with passedOn := [] }).resume
      let e := play { s with input := d.passedOn } rest { d with time := c.time, passedOn := [] }
      { e with time := max d.time e.time }
    | both first rest =>
      let c := play s first c
      if c.status = 0 then play s rest c else c
    | either first rest =>
      let c := play s first c
      if c.status = 0 then c else play s rest c
    | behind inner =>
      let d := (play { s with input := [] } inner c).hold s
      { d with
        time := c.time, status := 0, ended := none, background := max d.background d.time }
    | sequence first rest => play s rest (play s first c)

/-- What happens to the process of a script, each event with its time. -/
def Course.events (c : Course) : List (Nat × Tool.Event) :=
  c.written ++
    [ (c.time, .exited (c.ended.getD (.code c.status))),
      (max c.time c.outputHeld, .outputEnds),
      (max c.time c.errorsHeld, .errorsEnd) ]

end LinkGauge.Script
