import LinkGauge.Script.Play
import LinkGauge.Script.Reading

/-!
# Rehearsals

A run can be rehearsed without a system: a shell and a few programs are played on a virtual clock,
and the watch over them comes to what it would come to. Nothing else is installed.
-/

namespace LinkGauge.Tool

def shells : List String := ["sh", "dash", "bash"]

/-- Programs, besides shells, that are installed. -/
def installed : List String :=
  ["true", "false", "echo", "printf", "sleep", "cat", "head", "tr", "seq", "wc", "yes"]

/-- Folders in which programs are found. A name alone is looked up in all of them. -/
def folders : List String := ["", "/bin/", "/usr/bin/"]

/-- Places that exist and hold no program. -/
def noPrograms : List String :=
  [ "/", "/bin", "/dev", "/dev/null", "/dev/zero", "/etc", "/etc/hosts", "/etc/passwd", "/home",
    "/root", "/tmp", "/tmp/", "/usr", "/usr/bin", "/var", ".", "..", "./" ]

/-- The folder that a name of a program gives. -/
def folderOf (program : String) : String :=
  String.ofList (program.toList.take (program.toList.length - (Script.baseName program).length))

/-- Play a shell with its arguments. -/
def playShell (scope : Script.Scope) (args : List String) : Script.Course :=
  let complain (reason : String) : Script.Course :=
    Script.Course.start.perform scope (.complains (scope.shell ++ ": 0: " ++ reason ++ "\n") 2)
  match args with
  | "-c" :: script :: names =>
    let names := if names.isEmpty then [scope.shell] else names
    Script.play { scope with shell := names.headD scope.shell } (Script.read names script) .start
  | ["-c"] => complain "-c requires an argument"
  | file :: _ => complain ("cannot open " ++ file ++ ": No such file")
  | [] => .start

/-- Play a program, or tell why it does not start. -/
def play (c : Command) : Except String Script.Course :=
  let scope : Script.Scope := ⟨c.program, .output, .errors, []⟩
  let name := Script.baseName c.program
  if (c.program :: c.args).any fun s => s.toList.contains (Char.ofNat 0) then
    .error "nul byte found in provided data"
  else if folderOf c.program ∈ folders ∧ name ∈ shells then .ok (playShell scope c.args)
  else if folderOf c.program ∈ folders ∧ name ∈ installed then
    match Script.program? false false [] name c.args with
    | some e => .ok (Script.Course.start.perform scope e)
    | none => .ok .start
  else if c.program ∈ noPrograms then .error "Permission denied (os error 13)"
  else .error "No such file or directory (os error 2)"

/-- All that happens to a run, in the order of time. A run that goes on is killed in the end. -/
def happenings (c : Command) (course : Script.Course) (cancelAfter : Option Nat) : List Event :=
  let interruptions : List (Nat × Event) :=
    (c.deadline.millis * 1000, .deadline) ::
      (cancelAfter.map fun millis => (millis * 1000, .cancel)).toList
  let timed := (course.events ++ interruptions).filter fun (time, _) => time < Script.never
  (timed.mergeSort fun a b => a.1 ≤ b.1).map (·.2) ++ [.exited (.signal 9 false)]

/-- What a run comes to if it is cancelled after so many milliseconds, or not at all. Where no
event ends it, there is no result. -/
def rehearse (c : Command) (cancelAfter : Option Nat) : Except Abort (Option Result) :=
  match play c with
  | .error reason => .ok (some (.error (notStarted c reason)))
  | .ok course => do
    let w ← watch c
    .ok (w.steps (happenings c course cancelAfter)).result?

end LinkGauge.Tool
