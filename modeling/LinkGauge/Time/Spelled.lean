import LinkGauge.Text.Blank
import LinkGauge.Time.Span
import LinkGauge.Word

/-!
# Spelled spans

Spans as people write them: numbers with units, as in `1h 30m` or `1.5s`. A text is read one
character at a time, and each unit adds its amount to the total.
-/

namespace LinkGauge

namespace Span

/-- What one of a unit is worth. -/
inductive Worth where
  | nanos (n : Nat)
  | seconds (n : Nat)

/-- A unit: its names, what a whole one is worth and how fractions of it are counted. -/
structure TimeUnit where
  names : List String
  whole : Worth
  fraction : Worth

/-- The units. A month is the twelfth part of a year of 365.28 days, a year has 365.25 days. -/
def units : List TimeUnit :=
  [ ⟨["nanos", "nsec", "ns"], .nanos 1, .nanos 1⟩,
    ⟨["usec", "us", "µs"], .nanos 1000, .nanos 1000⟩,
    ⟨["millis", "msec", "ms"], .nanos 1000000, .nanos 1000000⟩,
    ⟨["seconds", "second", "secs", "sec", "s"], .seconds 1, .nanos 1000000000⟩,
    ⟨["minutes", "minute", "min", "mins", "m"], .seconds 60, .nanos 60000000000⟩,
    ⟨["hours", "hour", "hr", "hrs", "h"], .seconds 3600, .seconds 3600⟩,
    ⟨["days", "day", "d"], .seconds 86400, .seconds 86400⟩,
    ⟨["weeks", "week", "wk", "wks", "w"], .seconds 604800, .seconds 604800⟩,
    ⟨["months", "month", "M"], .seconds 2630016, .seconds 2630016⟩,
    ⟨["years", "year", "yr", "yrs", "y"], .seconds 31557600, .seconds 31557600⟩ ]

def unit? (name : String) : Option TimeUnit :=
  units.find? fun u => name ∈ u.names

/-! ### Reading -/

/-- Numbers are counted in 64 bits. -/
def word? (n : Nat) : Option Nat := if n < Word.size64 then some n else none

/-- A total with `n / d` times `worth` added to it. -/
def addWorth? (total : Span) (worth : Worth) (n d : Nat) : Option Span :=
  match worth with
  | .nanos one => do
    let product ← word? (n * one)
    let _ ← word? (total.subNanos + product / d)
    ofNanos? (total.nanos + product / d)
  | .seconds one => do
    let product ← word? (n * one)
    ofNanos? (total.nanos + product / d * nanosPerSecond)

/-- Where reading stands. -/
inductive Phase where
  /-- A number is due; the text may end here if there was one before. -/
  | due (started : Bool)
  | whole (n : Nat)
  /-- The digits after a point, and how many there are. -/
  | fraction (n digits places : Nat)
  /-- A unit; its letters stand in reverse. -/
  | unit (n : Nat) (fraction : Option (Nat × Nat)) (letters : List Char)

/-- A letter of a unit. -/
def isUnitLetter (c : Char) : Bool :=
  c.isAlpha || c == 'µ'

/-- A total with the amount of a finished unit. -/
def addUnit? (total : Span) (n : Nat) (fraction : Option (Nat × Nat)) (letters : List Char) :
    Option Span := do
  let u ← unit? (String.ofList letters.reverse)
  let total ← addWorth? total u.whole n 1
  match fraction with
  | some (digits, places) => addWorth? total u.fraction digits (Nat.pow 10 places)
  | none => some total

def digitValue (c : Char) : Nat := c.toNat - 48

def readChar : Phase × Span → Char → Option (Phase × Span)
  | (.due started, total), c =>
    if c.isDigit then some (.whole (digitValue c), total)
    else if isBlankChar c then some (.due started, total)
    else none
  | (.whole n, total), c =>
    if c.isDigit then do
      let n ← word? (n * 10 + digitValue c)
      some (.whole n, total)
    else if isBlankChar c then some (.whole n, total)
    else if isUnitLetter c then some (.unit n none [c], total)
    else if c = '.' then some (.fraction n 0 0, total)
    else none
  | (.fraction n digits places, total), c =>
    if c.isDigit then do
      let digits ← word? (digits * 10 + digitValue c)
      let _ ← word? (Nat.pow 10 (places + 1))
      some (.fraction n digits (places + 1), total)
    else if isBlankChar c then some (.fraction n digits places, total)
    else if isUnitLetter c ∧ places ≠ 0 then some (.unit n (some (digits, places)) [c], total)
    else none
  | (.unit n fraction letters, total), c =>
    if c.isDigit then do
      let total ← addUnit? total n fraction letters
      some (.whole (digitValue c), total)
    else if isBlankChar c then do
      let total ← addUnit? total n fraction letters
      some (.due true, total)
    else if isUnitLetter c then some (.unit n fraction (c :: letters), total)
    else none

/-- The total at the end of the text. -/
def finish : Phase × Span → Option Span
  | (.due started, total) => if started then some total else none
  | (.whole _, _) | (.fraction _ _ _, _) => none
  | (.unit n fraction letters, total) => addUnit? total n fraction letters

/-- Read a span. Only zero may be written without a unit. -/
def read? (s : String) : Option Span :=
  if s = "0" then some ⟨0, by decide⟩
  else (s.toList.foldlM readChar (.due false, ⟨0, by decide⟩)).bind finish

/-! ### Writing -/

/-- The amounts of the units that spell a span, from the largest to the smallest. -/
def amounts (s : Span) : List (Nat × String) :=
  let inYear := s.seconds % 31557600
  let inMonth := inYear % 2630016
  let inDay := inMonth % 86400
  let years := s.seconds / 31557600
  let months := inYear / 2630016
  let days := inMonth / 86400
  [ (years, if years = 1 then "year" else "years"),
    (months, if months = 1 then "month" else "months"),
    (days, if days = 1 then "day" else "days"),
    (inDay / 3600, "h"), (inDay % 3600 / 60, "m"), (inDay % 60, "s"),
    (s.subNanos / 1000000, "ms"), (s.subNanos / 1000 % 1000, "us"), (s.subNanos % 1000, "ns") ]

/-- A span in units, those without an amount left out. -/
def spelled (s : Span) : String :=
  match s.amounts.filter (·.1 ≠ 0) with
  | [] => "0s"
  | parts => String.intercalate " " (parts.map fun (n, name) => toString n ++ name)

end Span

end LinkGauge
