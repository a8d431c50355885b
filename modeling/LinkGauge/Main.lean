import LinkGauge.CommandLine.Arguments
import LinkGauge.Settings.Load
import LinkGauge.Startup
import LinkGauge.Tool.Watch
import LinkGauge.Tracing
import LinkGauge.Trial.Session

/-!
# The program

The outermost layer: arguments, variables and the file with the settings are read, plans are
carried out, and what comes of them is printed. Processes and networks are out of reach here, so
questions about them are answered with that.
-/

namespace LinkGauge.Console

/-- The variables of the process, as the system lists them. -/
def environment : IO Environment := do
  try
    let bytes ← IO.FS.readBinFile "/proc/self/environ"
    let entries := bytes.toList.splitOn 0
    return entries.filterMap fun entry =>
      match entry.dropWhile (· ≠ 0x3D) with
      | _ :: value =>
        some (Utf8.decodeLossy (entry.takeWhile (· ≠ 0x3D)), Utf8.decodeLossy value)
      | [] => none
  catch _ => return []

/-- The text of a file, if it is there. -/
def file? (path : String) : IO (Option String) := do
  try
    return some (← IO.FS.readFile path)
  catch _ => return none

/-- Why processes and networks give no answers. -/
def outOfReach : String := "processes and networks are out of reach"

/-- The answers of the process itself and of what surrounds it. -/
def fieldwork : (q : Fieldwork.Question) → ExceptT Abort IO (Fieldwork.Answer q)
  | .inl .cancelled => pure false
  | .inl .takeSlot => pure ()
  | .inl .takeSlotUnlessCancelled => pure true
  | .inl .freeSlot => pure ()
  | .inl (.abort reason) => throw reason
  | .inr (.inl .now) => pure { second := 0, nano := 0 : Instant }
  | .inr (.inl (.draw last)) => pure (⟨0, Nat.succ_pos last⟩ : Fin (last + 1))
  | .inr (.inl (.run c)) => pure (.error (Tool.notStarted c outOfReach))
  | .inr (.inr (.inl .connect)) => pure (.error (.disconnected outOfReach))
  | .inr (.inr (.inl (.execute _))) => pure (.lost outOfReach)
  | .inr (.inr (.inr _)) => pure (.unreached [outOfReach])

/-- The answers to who wants to open the database. -/
def opening (_ : Store.Opening.Question) (u : Unit) : Except (List String) Unit × Unit :=
  (.error [outOfReach], u)

/-- The answers to a process that makes a trial. -/
def world : (q : Trial.World.Question) → ExceptT Abort IO (Trial.World.Answer q)
  | .inl q => pure (opening q ()).1
  | .inr q => fieldwork q

/-- Tell why the program ends without having done what it was to do. -/
def fail (chain : List String) : IO UInt32 := do
  IO.eprintln ("Error: " ++ String.intercalate ": " chain)
  return 1

/-- Make a trial. -/
def tryOut (s : Settings) (daemon : DaemonId) (t : Trial) : IO UInt32 := do
  match ← ((Trial.session s daemon t).interpret world).run with
  | .ok (.ok report) =>
    report.lines.forM fun line => IO.println line
    return 0
  | .ok (.error chain) => fail chain
  | .error reason => fail [reason.message]

/-- Start up, and run on. -/
def runOn (s : Settings) (daemon : DaemonId) : IO UInt32 := do
  match ((Startup.start s daemon).run opening ()).1 with
  | .ok _ => fail [outOfReach]
  | .error (.store f) => fail f.chain
  | .error (.delivery reason) => fail [reason]
  | .error (.abort reason) => fail [reason.message]

/-- Do what the command line says. -/
def run (a : Arguments) (env : Environment) : IO UInt32 := do
  match Settings.load (← file? a.file) env with
  | .error failure => fail [failure.path, failure.message]
  | .ok s =>
    if a.checkOnly then
      IO.println "Configuration is valid."
      return 0
    if let some line := tracingAnnouncement s.exportTraces env then IO.eprintln line
    let daemon : DaemonId := ⟨(env.get? "HOSTNAME").getD "localhost", 0⟩
    match a.trial with
    | some t => tryOut s daemon t
    | none => runOn s daemon

end LinkGauge.Console

open LinkGauge in
def main (args : List String) : IO UInt32 := do
  let env ← Console.environment
  match CommandLine.read args env with
  | .error c =>
    IO.eprintln c.message
    return UInt32.ofNat c.status
  | .ok a => Console.run a env
