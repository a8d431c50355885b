/-!
# UTF-8

Octets are decoded one at a time by a small machine. Where the octets are no UTF-8 it emits
`none` once for each longest prefix that could still have begun a character, so the strict and
the lenient reading of a byte sequence are two views of one decoding.
-/

namespace LinkGauge.Utf8

/-- A character begun and not finished: how many octets it still lacks, the range of the next
one, and the bits collected so far. -/
structure Partial where
  lacking : Nat
  low : UInt8
  high : UInt8
  bits : Nat

/-- What an octet in first position stands for. -/
inductive Lead where
  | whole (c : Char)
  | opens (p : Partial)
  | stray

/-- The meaning of an octet in first position. -/
def lead (b : UInt8) : Lead :=
  if b < 0x80 then .whole (Char.ofNat b.toNat)
  else if b < 0xC2 then .stray
  else if b < 0xE0 then .opens ⟨1, 0x80, 0xBF, b.toNat - 0xC0⟩
  else if b == 0xE0 then .opens ⟨2, 0xA0, 0xBF, 0⟩
  else if b == 0xED then .opens ⟨2, 0x80, 0x9F, 0xD⟩
  else if b < 0xF0 then .opens ⟨2, 0x80, 0xBF, b.toNat - 0xE0⟩
  else if b == 0xF0 then .opens ⟨3, 0x90, 0xBF, 0⟩
  else if b < 0xF4 then .opens ⟨3, 0x80, 0xBF, b.toNat - 0xF0⟩
  else if b == 0xF4 then .opens ⟨3, 0x80, 0x8F, 4⟩
  else .stray

/-- The characters of a byte sequence, with `none` for each part that is no UTF-8. -/
def decodeFrom : Option Partial → List UInt8 → List (Option Char)
  | none, [] => []
  | some _, [] => [none]
  | none, b :: rest =>
    match lead b with
    | .whole c => some c :: decodeFrom none rest
    | .opens p => decodeFrom (some p) rest
    | .stray => none :: decodeFrom none rest
  | some p, b :: rest =>
    if p.low ≤ b ∧ b ≤ p.high then
      let bits := p.bits * 64 + (b.toNat - 0x80)
      if p.lacking = 1 then some (Char.ofNat bits) :: decodeFrom none rest
      else decodeFrom (some ⟨p.lacking - 1, 0x80, 0xBF, bits⟩) rest
    else
      none :: match lead b with
        | .whole c => some c :: decodeFrom none rest
        | .opens q => decodeFrom (some q) rest
        | .stray => none :: decodeFrom none rest

/-- The text that a byte sequence encodes, if it is UTF-8. -/
def decode? (bytes : List UInt8) : Option String :=
  ((decodeFrom none bytes).mapM id).map String.ofList

/-- The text of a byte sequence, with U+FFFD for each part that is no UTF-8. -/
def decodeLossy (bytes : List UInt8) : String :=
  String.ofList ((decodeFrom none bytes).map (·.getD '\uFFFD'))

/-- The octets of a text. -/
def encode (s : String) : List UInt8 :=
  s.toList.flatMap String.utf8EncodeChar

@[simp] theorem encode_empty : encode "" = [] := rfl

end LinkGauge.Utf8
