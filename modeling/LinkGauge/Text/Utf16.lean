/-!
# UTF-16

Octets make code units two by two, in one of two orders, and a character takes one unit or a pair of
surrogates. As in the decoding of UTF-8, `none` stands for a part that makes no sense.
-/

namespace LinkGauge.Utf16

/-- Which half of a code unit comes first. -/
inductive Order where
  | little
  | big
  deriving DecidableEq, Repr

/-- The code unit of two octets. -/
def Order.unit : Order → UInt8 → UInt8 → Nat
  | .little, a, b => b.toNat * 0x100 + a.toNat
  | .big, a, b => a.toNat * 0x100 + b.toNat

/-- A surrogate that begins a pair. -/
def isLeading (u : Nat) : Bool := 0xD800 ≤ u && u < 0xDC00

/-- A surrogate that ends a pair. -/
def isTrailing (u : Nat) : Bool := 0xDC00 ≤ u && u < 0xE000

/-- The character of a pair of surrogates. -/
def pair (u v : Nat) : Char :=
  Char.ofNat ((u - 0xD800) * 0x400 + (v - 0xDC00) + 0x10000)

/-- The characters of a byte sequence, behind a surrogate that began a pair, if there is one. What
is left over at the end is one part, be it such a surrogate, half a code unit or both. -/
def decodeFrom (order : Order) : (begun : Option Nat) → List UInt8 → List (Option Char)
  | none, [] => []
  | some _, [] => [none]
  | _, [_] => [none]
  | begun, a :: b :: rest =>
    let u := order.unit a b
    let alone :=
      if isLeading u then decodeFrom order (some u) rest
      else (if isTrailing u then none else some (Char.ofNat u)) :: decodeFrom order none rest
    match begun with
    | none => alone
    | some v =>
      if isTrailing u then some (pair v u) :: decodeFrom order none rest else none :: alone

/-- The text of a byte sequence, with U+FFFD for each part that makes no sense. -/
def decodeLossy (order : Order) (bytes : List UInt8) : String :=
  String.ofList ((decodeFrom order none bytes).map (·.getD '\uFFFD'))

end LinkGauge.Utf16
