import LinkGauge.Decimal.Reading
import LinkGauge.Document.Tree
import LinkGauge.Text.Digit
import LinkGauge.Word

/-!
# Plain scalars

What a scalar without quotation marks stands for: nothing, a truth value, a number, or else itself.
-/

namespace LinkGauge.Yaml

/-- Digits after a zero, which are no number. -/
def isPadded (cs : List Char) : Bool :=
  match cs with
  | '0' :: rest => rest ≠ [] && rest.all Char.isDigit
  | _ => false

/-- The number that a text without a sign spells, in base ten, or another one that is named. -/
def unsigned? : List Char → Option Nat
  | '0' :: 'x' :: rest => Text.digits? 16 rest
  | '0' :: 'o' :: rest => Text.digits? 8 rest
  | '0' :: 'b' :: rest => Text.digits? 2 rest
  | cs => if isPadded cs then none else Text.digits? 10 cs

/-- An integer, which may have a sign. -/
def integer? : List Char → Option Int
  | '+' :: cs => (unsigned? cs).map fun n => (n : Int)
  | '-' :: cs => (unsigned? cs).map fun n => -(n : Int)
  | cs => (unsigned? cs).map fun n => (n : Int)

/-- An integer as a number of 64 bits, where it has so few. -/
def ofInteger (n : Int) : Tree :=
  if 0 ≤ n then
    if n < Word.size64 then .number (.natural (UInt64.ofNat n.toNat))
    else .strange ("integer `" ++ toString n ++ "` as u128")
  else if Word.isInt64 n then .number (.negative (Int64.ofInt n))
  else .strange ("integer `" ++ toString n ++ "` as i128")

/-- The words for what is not finite. -/
def special? (cs : List Char) : Option Float :=
  let unsigned := match cs with
    | '+' :: rest => rest
    | cs => cs
  if String.ofList unsigned ∈ [".inf", ".Inf", ".INF"] then some (1.0 / 0.0)
  else if String.ofList cs ∈ ["-.inf", "-.Inf", "-.INF"] then some (-1.0 / 0.0)
  else if String.ofList cs ∈ [".nan", ".NaN", ".NAN"] then some (0.0 / 0.0)
  else none

/-- A number that is no integer. -/
def real? (cs : List Char) : Option Float :=
  match special? cs with
  | some x => some x
  | none =>
    if isPadded (Decimal.cutSign cs).2 then none else (Decimal.literal? cs).bind (·.nearest?)

/-- What a plain scalar stands for. -/
def plain (s : String) : Tree :=
  if s ∈ ["", "~", "null", "Null", "NULL"] then .null
  else if s ∈ ["true", "True", "TRUE"] then .bool true
  else if s ∈ ["false", "False", "FALSE"] then .bool false
  else
    match integer? s.toList with
    | some n => ofInteger n
    | none =>
      match real? s.toList with
      | some x => .number (.real x)
      | none => .text s

end LinkGauge.Yaml
