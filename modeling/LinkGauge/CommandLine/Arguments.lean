import LinkGauge.CommandLine.Grammar
import LinkGauge.Decimal.Reading
import LinkGauge.Environment.Basic
import LinkGauge.Trial.Basic
import LinkGauge.Word

/-!
# Arguments

What the program can be told on its command line: which file has the settings, that they are only
to be checked, and a single trial to make instead of running on.
-/

namespace LinkGauge

/-- What a command line says. -/
structure Arguments where
  file : String
  /-- Check the settings and do nothing else. -/
  checkOnly : Bool
  trial : Option Trial
  deriving DecidableEq, Repr

namespace CommandLine

/-! ### Values -/

def hostNumber? (s : String) : Option Int64 :=
  match Decimal.integer? s.toList with
  | some n => if Word.isInt64 n then some (Int64.ofInt n) else none
  | none => none

def seconds? (s : String) : Option UInt64 :=
  match Decimal.natural? s.toList with
  | some n => if n < Word.size64 then some (UInt64.ofNat n) else none
  | none => none

/-! ### Levels -/

def helpParameter : Parameter := ⟨"help", some 'h', .help, fun _ => true⟩

def versionParameter : Parameter := ⟨"version", some 'V', .version, fun _ => true⟩

def fileParameter : Parameter := ⟨"config", some 'f', .value, fun _ => true⟩

def checkParameter : Parameter := ⟨"validate", none, .switch, fun _ => true⟩

def durationParameter : Parameter :=
  ⟨"duration", some 'd', .value, fun s => (seconds? s).isSome⟩

def hostOperand : Parameter := ⟨"host_id", none, .value, fun s => (hostNumber? s).isSome⟩

/-- Behind the command for a speed test. -/
def speedLevel : Level Empty := ⟨[helpParameter], none, [], fun no => nomatch no⟩

/-- Behind the command for throughput tests. -/
def throughputLevel : Level Empty :=
  ⟨[durationParameter, helpParameter], some hostOperand, [], fun no => nomatch no⟩

inductive TrialKind where
  | speed
  | throughput
  deriving DecidableEq, Repr

/-- Behind the command for trials. -/
def trialLevel : Level TrialKind :=
  ⟨[helpParameter], none, [("speed", .speed), ("iperf", .throughput)], fun _ rest => rest.isEmpty⟩

/-- The outermost level, whose only command is the one for trials. -/
def outerLevel : Level Unit :=
  ⟨[fileParameter, checkParameter, helpParameter, versionParameter], none, [("test", ())],
    fun _ rest => trialLevel.explains rest⟩

/-! ### Reading -/

/-- Read what stands behind the command for trials. -/
def readTrial (args : List String) : Except Complaint Trial := do
  match ← trialLevel.scan .start args with
  | (_, some (.speed, rest)) =>
    let _ ← speedLevel.values rest
    .ok .speed
  | (_, some (.throughput, rest)) =>
    let given ← throughputLevel.values rest
    .ok (.throughput ((given.lookup "host_id").bind hostNumber?)
      ((given.lookup "duration").bind seconds?))
  | (_, none) => .error .missingCommand

/-- The file with the settings, if neither the command line nor a variable names one. -/
def defaultFile : String := "config.yaml"

/-- Read a command line. -/
def read (args : List String) (env : Environment) : Except Complaint Arguments := do
  let (s, command) ← outerLevel.scan .start args
  let trial ← command.mapM fun (_, rest) => readTrial rest
  let s ← s.settle
  .ok
    { file := ((s.given.lookup "config").or (env.get? "SPEEDCTL_CONFIG")).getD defaultFile
      checkOnly := (s.given.lookup "validate").isSome
      trial }

end CommandLine

end LinkGauge
