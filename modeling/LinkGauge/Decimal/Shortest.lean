import LinkGauge.Word

/-!
# The shortest decimal of a double

A finite double stands for `m · 2 ^ q`. Every real of an interval around it rounds to it; the
shortest decimal is the first grid `10 ^ k`, from coarse to fine, with a point in that interval,
and of two such points the nearer one. All of it is exact arithmetic on natural numbers.
-/

namespace LinkGauge.Decimal

/-- A finite double, taken apart: `(-1) ^ negative · significand · 2 ^ exponent`. -/
structure Binary where
  negative : Bool
  significand : Nat
  exponent : Int
  /-- The next smaller double is only half as far away as the next larger one. -/
  narrowBelow : Bool

/-- What a bit pattern of 64 bits stands for. -/
inductive Class where
  | nan
  | infinite (negative : Bool)
  | finite (b : Binary)

/-- How many fractions a double tells apart: its last 52 bits. -/
abbrev fractionSize : Nat := 4503599627370496

/-- Take a double apart. -/
def classify (x : Float) : Class :=
  let bits := x.toBits.toNat
  let negative := bits / Word.half64 == 1
  let biased := bits / fractionSize % 2048
  let fraction := bits % fractionSize
  if biased == 0x7FF then
    if fraction == 0 then .infinite negative else .nan
  else if biased == 0 then
    .finite ⟨negative, fraction, -1074, false⟩
  else
    .finite ⟨negative, fraction + fractionSize, Int.ofNat biased - 1075, fraction == 0 && 1 < biased⟩

/-- A positive decimal: `digits · 10 ^ exponent`, with no trailing zero in `digits`. -/
structure Digits where
  digits : Nat
  exponent : Int
  deriving DecidableEq, Repr

/-- The number of decimal digits of a natural number, with one digit for zero. -/
def digitCount (n : Nat) : Nat :=
  (Nat.toDigits 10 n).length

/-- Move trailing zeros into the exponent. `fuel` bounds the number of zeros. -/
def stripZeros : Nat → Nat → Int → Digits
  | 0, n, e => ⟨n, e⟩
  | fuel + 1, n, e =>
    if n ≠ 0 ∧ n % 10 = 0 then stripZeros fuel (n / 10) (e + 1) else ⟨n, e⟩

/-- A nonnegative rational with a positive denominator. -/
structure Ratio where
  num : Nat
  den : Nat

/-- `r / 10 ^ k` -/
def Ratio.shift (r : Ratio) (k : Int) : Ratio :=
  if 0 ≤ k then ⟨r.num, r.den * Nat.pow 10 k.toNat⟩ else ⟨r.num * Nat.pow 10 (-k).toNat, r.den⟩

def Ratio.lt (a b : Ratio) : Bool :=
  a.num * b.den < b.num * a.den

def Ratio.le (a b : Ratio) : Bool :=
  a.num * b.den ≤ b.num * a.den

/-- `n · 2 ^ q` -/
def Ratio.binary (n : Nat) (q : Int) : Ratio :=
  if 0 ≤ q then ⟨n * Nat.pow 2 q.toNat, 1⟩ else ⟨n, Nat.pow 2 (-q).toNat⟩

/-- The reals that round to a double, with their two ends if the significand is even. -/
structure Interval where
  low : Ratio
  value : Ratio
  high : Ratio
  closed : Bool

/-- The interval of a positive finite double. -/
def Binary.interval (b : Binary) : Interval :=
  { low := Ratio.binary (4 * b.significand - if b.narrowBelow then 1 else 2) (b.exponent - 2)
    value := Ratio.binary (4 * b.significand) (b.exponent - 2)
    high := Ratio.binary (4 * b.significand + 2) (b.exponent - 2)
    closed := b.significand % 2 == 0 }

def Interval.contains (i : Interval) (r : Ratio) : Bool :=
  if i.closed then i.low.le r && r.le i.high else i.low.lt r && r.lt i.high

/-- `n · 10 ^ k` -/
def Ratio.decimal (n : Nat) (k : Int) : Ratio :=
  (⟨n, 1⟩ : Ratio).shift (-k)

/-- The point of the grid `10 ^ k` to print, if one of the two neighbours of the value lies in the
interval. Of two, the nearer; at an equal distance, the even one. -/
def Interval.gridPoint (i : Interval) (k : Int) : Option Nat :=
  let v := i.value.shift k
  let below := v.num / v.den
  let above := below + 1
  let hitsBelow := 0 < below && i.contains (Ratio.decimal below k)
  let hitsAbove := i.contains (Ratio.decimal above k)
  match hitsBelow, hitsAbove with
  | true, true =>
    let twice := 2 * (v.num % v.den)
    if twice < v.den || (twice == v.den && below % 2 == 0) then some below else some above
  | true, false => some below
  | false, true => some above
  | false, false => none

/-- An exponent `e` with `value < 10 ^ e`, at most two above the least. -/
def Binary.decimalBound (b : Binary) : Int :=
  let bitLength : Int := b.significand.log2 + 1
  ((bitLength + b.exponent) * 30103).fdiv 100000 + 1

/-- Try the grids from `10 ^ k` on downwards. -/
def Interval.search (i : Interval) : Nat → Int → Digits
  | 0, k => ⟨0, k⟩
  | fuel + 1, k =>
    match i.gridPoint k with
    | some n => stripZeros (digitCount n) n k
    | none => i.search fuel (k - 1)

/-- The shortest decimal that reads back as a positive finite double. -/
def Binary.shortest (b : Binary) : Digits :=
  b.interval.search 24 b.decimalBound

end LinkGauge.Decimal
