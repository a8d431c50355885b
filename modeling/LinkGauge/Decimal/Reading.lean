import LinkGauge.Decimal.Shortest

/-!
# Reading decimals

The double nearest to `digits · 10 ^ exponent`, and `none` if every finite double is too small.
-/

namespace LinkGauge.Decimal

/-- The double nearest to `n · 10 ^ e`. Decimals far outside the range of doubles are settled by
the exponent of their leading digit, so the power of ten stays small. -/
def nearest? (n : Nat) (e : Int) : Option Float :=
  if n = 0 then some 0
  else
    let leading := e + digitCount n
    if 310 < leading then none
    else if leading < -330 then some 0
    else
      let x := Float.ofScientific n (e < 0) e.natAbs
      if x.isFinite then some x else none

/-- The double nearest to `± n · 10 ^ e`. -/
def signed? (negative : Bool) (n : Nat) (e : Int) : Option Float :=
  (nearest? n e).map fun x => if negative then -x else x

/-! ### Literals -/

/-- A decimal as it is written: sign, digits before and behind the point, and exponent. -/
structure Literal where
  negative : Bool
  whole : List Char
  fraction : List Char
  exponent : Int

/-- The number that digits spell. -/
def natOfDigits (ds : List Char) : Nat :=
  ds.foldl (fun n c => n * 10 + (c.toNat - 48)) 0

/-- A natural number in digits. A plus sign may stand before them. -/
def natural? (cs : List Char) : Option Nat :=
  let digits := match cs with
    | '+' :: ds => ds
    | ds => ds
  if digits ≠ [] ∧ digits.all Char.isDigit then some (natOfDigits digits) else none

/-- An integer in digits, with or without a sign. -/
def integer? : List Char → Option Int
  | '-' :: '+' :: _ => none
  | '-' :: ds => (natural? ds).map fun n => -(n : Int)
  | cs => (natural? cs).map fun n => (n : Int)

/-- A sign, if there is one, and what follows. -/
def cutSign : List Char → Bool × List Char
  | '-' :: cs => (true, cs)
  | '+' :: cs => (false, cs)
  | cs => (false, cs)

/-- The exponent behind the digits of a literal. -/
def exponent? : List Char → Option Int
  | [] => some 0
  | mark :: cs =>
    let (negative, ds) := cutSign cs
    if (mark = 'e' ∨ mark = 'E') ∧ ds ≠ [] ∧ ds.all Char.isDigit then
      some (if negative then -(natOfDigits ds : Int) else natOfDigits ds)
    else none

/-- Read a literal. There is a digit before or behind the point. -/
def literal? (cs : List Char) : Option Literal := do
  let (negative, cs) := cutSign cs
  let whole := cs.takeWhile Char.isDigit
  let cs := cs.drop whole.length
  let (fraction, cs) := match cs with
    | '.' :: rest =>
      let ds := rest.takeWhile Char.isDigit
      (ds, rest.drop ds.length)
    | cs => ([], cs)
  if whole = [] ∧ fraction = [] then none
  else some ⟨negative, whole, fraction, ← exponent? cs⟩

/-- The double nearest to a literal, and `none` if every finite double is too small. -/
def Literal.nearest? (l : Literal) : Option Float :=
  signed? l.negative (natOfDigits (l.whole ++ l.fraction)) (l.exponent - l.fraction.length)

end LinkGauge.Decimal
