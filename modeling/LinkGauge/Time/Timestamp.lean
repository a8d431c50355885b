import LinkGauge.Text.Blank
import LinkGauge.Time.Instant
import LinkGauge.Word

/-!
# Timestamps

Instants read from text: a date, a time and an offset from UTC. Blanks may stand around the
separators, a year may have a sign, and after nine digits of a fraction the others do not count.
-/

namespace LinkGauge

namespace Timestamp

/-- Why a text is no timestamp. -/
inductive Fault where
  | outOfRange
  | impossible
  | tooShort
  | invalid
  | tooLong
  deriving DecidableEq, Repr

def Fault.message : Fault → String
  | .outOfRange => "input is out of range"
  | .impossible => "no possible date and time matching input"
  | .tooShort => "premature end of input"
  | .invalid => "input contains invalid characters"
  | .tooLong => "trailing input"

/-- The number that digits spell. -/
def digitsValue (ds : List Char) : Nat :=
  ds.foldl (fun n c => n * 10 + (c.toNat - 48)) 0

/-- A number of at least one digit. With a `limit`, digits beyond it are left alone. -/
def number (limit : Option Nat) : List Char → Except Fault (Nat × List Char)
  | [] => .error .tooShort
  | c :: cs =>
    if c.isDigit then
      let field := match limit with
        | some n => (c :: cs).take n
        | none => c :: cs
      let ds := field.takeWhile Char.isDigit
      .ok (digitsValue ds, (c :: cs).drop ds.length)
    else .error .invalid

/-- A number of at most two digits from `low` to `high`, after blanks. -/
def field (low high : Nat) (cs : List Char) : Except Fault (Nat × List Char) := do
  let (n, rest) ← number (some 2) (trimStartChars cs)
  if low ≤ n ∧ n ≤ high then .ok (n, rest) else .error .outOfRange

/-- The year, after blanks: four digits, or any number of them behind a sign. -/
def year (cs : List Char) : Except Fault (Int × List Char) := do
  let (y, rest) ← match trimStartChars cs with
    | '-' :: rest => (number none rest).map fun (n, rest) => (-(n : Int), rest)
    | '+' :: rest => (number none rest).map fun (n, rest) => ((n : Int), rest)
    | rest => (number (some 4) rest).map fun (n, rest) => ((n : Int), rest)
  if Word.isInt32 y then .ok (y, rest) else .error .outOfRange

/-- A separator, after blanks. -/
def separator (sep : Char) (cs : List Char) : Except Fault (List Char) :=
  match trimStartChars cs with
  | [] => .error .tooShort
  | c :: rest => if c = sep then .ok rest else .error .invalid

def date (cs : List Char) : Except Fault (Date × List Char) := do
  let (y, cs) ← year cs
  let cs ← separator '-' cs
  let (m, cs) ← field 1 12 cs
  let cs ← separator '-' cs
  let (d, cs) ← field 1 31 cs
  .ok (⟨y, m, d⟩, cs)

/-- The nanoseconds of a fraction. -/
def fraction : List Char → Except Fault (Nat × List Char)
  | '.' :: cs => do
    let (n, rest) ← number (some 9) cs
    let consumed := cs.length - rest.length
    .ok (n * Nat.pow 10 (9 - consumed), rest.dropWhile Char.isDigit)
  | cs => .ok (0, cs)

/-- A time of day. -/
structure Clock where
  hour : Nat
  minute : Nat
  second : Nat
  nano : Nat

def clock (cs : List Char) : Except Fault (Clock × List Char) := do
  let (h, cs) ← field 0 23 cs
  let cs ← separator ':' cs
  let (m, cs) ← field 0 59 cs
  let cs ← separator ':' cs
  let (s, cs) ← field 0 60 cs
  let (n, cs) ← fraction cs
  .ok (⟨h, m, s, n⟩, cs)

/-- Two digits. A single character is too short a text, unless it cannot be a digit at all. -/
def pair : List Char → Except Fault (Char × Char × List Char)
  | [] => .error .tooShort
  | [c] => if c.val < 0x80 then .error .tooShort else .error .invalid
  | a :: b :: rest => .ok (a, b, rest)

/-- The offset from UTC in seconds: `Z`, `UTC`, or hours and minutes with a sign. -/
def offset (cs : List Char) : Except Fault (Int × List Char) :=
  if (cs.take 3).map Char.toLower = ['u', 't', 'c'] then .ok (0, cs.drop 3)
  else
    match cs with
    | [] => .error .tooShort
    | 'Z' :: rest | 'z' :: rest => .ok (0, rest)
    | sign :: rest => do
      let negative ←
        if sign = '+' then .ok false
        else if sign = '-' ∨ sign = '\u2212' then .ok true
        else .error .invalid
      let (a, b, rest) ← pair rest
      if !(a.isDigit && b.isDigit) then .error .invalid
      else
        let rest := rest.dropWhile fun c => c = ':' || isBlankChar c
        let (c, d, rest) ← pair rest
        if !(c.isDigit && d.isDigit) then .error .invalid
        else if '6' ≤ c then .error .outOfRange
        else
          let seconds : Int := digitsValue [a, b] * 3600 + digitsValue [c, d] * 60
          .ok (if negative then -seconds else seconds, rest)

/-- The instant of a date, a time and an offset. Second 60 is a leap second. -/
def resolve (d : Date) (t : Clock) (offset : Int) : Except Fault Instant :=
  if !d.isValid then .error .outOfRange
  else if offset ≤ -86400 ∨ 86400 ≤ offset then .error .outOfRange
  else
    let leap := t.second / 60
    let second := d.toDays * 86400 + t.hour * 3600 + t.minute * 60 + (t.second - leap : Nat) - offset
    let nano := t.nano + leap * nanosPerSecond
    if h : OnClock second nano then .ok ⟨second, nano, h⟩ else .error .impossible

def read (s : String) : Except Fault Instant := do
  let (d, cs) ← date s.toList
  let cs ← match cs with
    | [] => .error .tooShort
    | c :: rest => if c = 'T' ∨ c = 't' ∨ c = ' ' then .ok rest else .error .invalid
  let (t, cs) ← clock cs
  let (o, cs) ← offset (trimStartChars cs)
  if (trimStartChars cs).isEmpty then resolve d t o else .error .tooLong

end Timestamp

end LinkGauge
