import LinkGauge.Speed.Run
import LinkGauge.Throughput.Round

/-!
# Trials

A trial is one measurement that is made on demand, outside of any schedule, and reported line by
line. It fails if it leaves nothing behind, and a single host also if it could not be measured.
-/

namespace LinkGauge

/-- A single measurement. -/
inductive Trial where
  | speed
  /-- Of one host, or of a drawn host of each category; for so many seconds. -/
  | throughput (host : Option Int64) (seconds : Option UInt64)
  deriving DecidableEq, Repr

namespace Trial

/-- What a trial has to show. -/
inductive Report where
  | speed (test : Int64)
  | throughput (host test : Int64)
  | round (outcomes : List (Category × Outcome))

/-- What kept a trial from showing anything. -/
inductive Failure where
  | speed (p : Problem)
  | throughput (host : Int64) (p : Problem)
  /-- The host could not be measured, which was stored. -/
  | unsuccessful (host test : Int64)
  /-- No category was visited. -/
  | emptyRound

/-- The line about a category. -/
def outcomeLine : Category × Outcome → String
  | (category, .recorded host test true) =>
    category.name ++ ": host " ++ toString host.toInt ++ " measured, stored as " ++
      toString test.toInt
  | (category, .recorded host test false) =>
    category.name ++ ": host " ++ toString host.toInt ++ " failed, stored as " ++
      toString test.toInt
  | (category, .skipped) => category.name ++ ": no active hosts, skipped"
  | (category, .notSubmitted p) => category.name ++ ": could not store result: " ++ p.message

def Report.lines : Report → List String
  | .speed test => ["Speed test stored with id " ++ toString test.toInt]
  | .throughput host test =>
    ["Throughput test against host " ++ toString host.toInt ++ " stored with id " ++
      toString test.toInt]
  | .round outcomes => outcomes.map outcomeLine

/-- The messages of a failure, from the outermost to the innermost. -/
def Failure.chain : Failure → List String
  | .speed p => "Speed test failed" :: p.chain
  | .throughput host p =>
    ("Throughput test against host " ++ toString host.toInt ++ " failed") :: p.chain
  | .unsuccessful host test =>
    ["Throughput test against host " ++ toString host.toInt ++ " failed, stored as " ++
      toString test.toInt]
  | .emptyRound => ["Throughput round did not run, see the log for details"]

/-! ### What an answer amounts to -/

/-- What comes of a speed run. -/
def speedReport (answer : Except Problem Int64) : Except Failure Report :=
  match answer with
  | .ok test => .ok (.speed test)
  | .error p => .error (.speed p)

/-- What comes of a throughput run. -/
def throughputReport (host : Int64) (answer : Except Problem (Int64 × Bool)) :
    Except Failure Report :=
  match answer with
  | .ok (test, true) => .ok (.throughput host test)
  | .ok (test, false) => .error (.unsuccessful host test)
  | .error p => .error (.throughput host p)

/-- What comes of a round. -/
def roundReport (outcomes : List (Category × Outcome)) : Except Failure Report :=
  if outcomes.isEmpty then .error .emptyRound else .ok (.round outcomes)

end Trial

def Rig.trial (r : Rig) : Trial → Plan Measuring (Except Trial.Failure Trial.Report)
  | .speed => r.speedNow.bind fun answer => .done (Trial.speedReport answer)
  | .throughput (some host) seconds =>
    (r.throughputNow host (seconds.map .ofSeconds)).bind fun answer =>
      .done (Trial.throughputReport host answer)
  | .throughput none seconds =>
    (r.roundNow (seconds.map .ofSeconds)).bind fun outcomes => .done (Trial.roundReport outcomes)

end LinkGauge
