import LinkGauge.Text.Utf8

/-!
# Percent encoding

Octets that may not stand in a part of an address are written as `%` and two hexadecimal digits.
-/

namespace LinkGauge.Percent

/-- A hexadecimal digit, in upper case. -/
def hexDigit (n : Nat) : Char :=
  if n < 10 then Char.ofNat (48 + n) else Char.ofNat (55 + n)

def hexValue? (b : UInt8) : Option Nat :=
  if 0x30 ≤ b ∧ b ≤ 0x39 then some (b.toNat - 0x30)
  else if 0x61 ≤ b ∧ b ≤ 0x66 then some (b.toNat - 0x57)
  else if 0x41 ≤ b ∧ b ≤ 0x46 then some (b.toNat - 0x37)
  else none

/-- An octet as `%` and two digits. -/
def encodeByte (b : UInt8) : List Char :=
  ['%', hexDigit (b.toNat / 16), hexDigit (b.toNat % 16)]

/-- A character, encoded if `must` says so. What is not ASCII is always encoded. -/
def encodeChar (must : Char → Bool) (c : Char) : List Char :=
  if 0x80 ≤ c.val || must c then (String.utf8EncodeChar c).flatMap encodeByte else [c]

/-- A text whose characters are encoded where `must` says so. -/
def encode (must : Char → Bool) (cs : List Char) : List Char :=
  cs.flatMap (encodeChar must)

/-- The octets of a text, with each `%` and two digits taken for the octet they stand for. -/
def decodeBytes : List UInt8 → List UInt8
  | mark :: high :: low :: rest =>
    if mark = 0x25 then
      match hexValue? high, hexValue? low with
      | some h, some l => UInt8.ofNat (h * 16 + l) :: decodeBytes rest
      | _, _ => mark :: decodeBytes (high :: low :: rest)
    else mark :: decodeBytes (high :: low :: rest)
  | short => short

end LinkGauge.Percent
