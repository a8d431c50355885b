import LinkGauge.Decimal.Shortest

/-!
# Written numbers

How a double is written: the digits are the shortest that read back, and a `Style` says which
exponents are written out, and how.
-/

namespace LinkGauge.Decimal

/-- A way to write a double. -/
structure Style where
  /-- The least exponent of the leading digit that is written positionally. -/
  least : Int
  /-- The greatest exponent of the leading digit that is written positionally. -/
  greatest : Int
  /-- Whole numbers end in `.0`. -/
  pointZero : Bool
  nan : String
  /-- Infinity, or its negative. -/
  infinity : (negative : Bool) → String

/-- Numbers of a JSON text: positional from `1e-5` to below `1e16`, and the exponent always has a
sign. JSON has no word for what is not finite. -/
def Style.json : Style :=
  ⟨-5, 15, true, "null", fun _ => "null"⟩

/-- Infinity in running text. -/
def infinityText (negative : Bool) : String :=
  if negative then "-inf" else "inf"

/-- Numbers in running text: always positional, a whole number without a point. -/
def Style.plain : Style :=
  ⟨-400, 400, false, "NaN", infinityText⟩

/-- Numbers in running text that cannot be taken for integers: as `plain`, but with a point. -/
def Style.pointed : Style :=
  { Style.plain with pointZero := true }

/-- The digits of a natural number. -/
def digitChars (n : Nat) : List Char :=
  Nat.toDigits 10 n

/-- Digits with the point after the first `point` of them, padded with zeros. -/
def positional (ds : List Char) (point : Int) (pointZero : Bool) : List Char :=
  if point ≤ 0 then
    '0' :: '.' :: (List.replicate (-point).toNat '0' ++ ds)
  else
    let whole := ds.take point.toNat ++ List.replicate (point.toNat - ds.length) '0'
    match ds.drop point.toNat with
    | [] => if pointZero then whole ++ ['.', '0'] else whole
    | rest => whole ++ '.' :: rest

/-- Digits with the point after the first one and an explicit exponent. -/
def scientific (ds : List Char) (leading : Int) : List Char :=
  let mantissa := match ds with
    | [] => []
    | [d] => [d]
    | d :: rest => d :: '.' :: rest
  let sign := if leading < 0 then '-' else '+'
  mantissa ++ 'e' :: sign :: digitChars leading.natAbs

/-- The text of a positive decimal. -/
def Style.writeDigits (style : Style) (d : Digits) : List Char :=
  let ds := digitChars d.digits
  let leading := d.exponent + ds.length - 1
  if style.least ≤ leading ∧ leading ≤ style.greatest then
    positional ds (leading + 1) style.pointZero
  else
    scientific ds leading

/-- The text of a double. -/
def Style.write (style : Style) (x : Float) : String :=
  match classify x with
  | .nan => style.nan
  | .infinite negative => style.infinity negative
  | .finite b =>
    let text :=
      if b.significand = 0 then (if style.pointZero then ['0', '.', '0'] else ['0'])
      else style.writeDigits b.shortest
    String.ofList (if b.negative then '-' :: text else text)

end LinkGauge.Decimal
