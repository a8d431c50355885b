import LinkGauge.Url.Punycode

/-!
# Domains

A domain may be written with letters of the usual alphabets. Each is brought to one form, upper case
to lower case above all, and labels that are not ASCII then are put into ASCII behind `xn--`.
-/

namespace LinkGauge.Url.Domain

/-! ### Characters -/

/-- Characters that stay as they are: small Latin, Greek and Cyrillic letters, signs of other
alphabets and syllabaries, ideographs and pictures. -/
def kept : List (Nat × Nat) :=
  [ (0xA1, 0xA7), (0xA9, 0xA9), (0xAB, 0xAC), (0xAE, 0xAE), (0xB0, 0xB1), (0xB6, 0xB7),
    (0xBB, 0xBB), (0xBF, 0xBF), (0xD7, 0xD7), (0xDF, 0xFF), (0x390, 0x390), (0x3AC, 0x3CE),
    (0x430, 0x45F), (0x561, 0x586), (0x5D0, 0x5EA), (0x621, 0x63A), (0x641, 0x64A),
    (0x905, 0x939), (0xE01, 0xE32), (0xE40, 0xE46), (0x10D0, 0x10F0), (0x2190, 0x21FF),
    (0x2600, 0x27BF), (0x3005, 0x3005), (0x3007, 0x3007), (0x3041, 0x3096), (0x309D, 0x309E),
    (0x30A1, 0x30FA), (0x30FC, 0x30FE), (0x3400, 0x4DBF), (0x4E00, 0x9FFF), (0xAC00, 0xD7A3),
    (0x1F300, 0x1F64F), (0x1F680, 0x1F6D7), (0x1F90C, 0x1F9FF), (0x20000, 0x2A6DF) ]

/-- Characters that stand for others, at a distance behind them. -/
def risen : List (Nat × Nat × Nat) :=
  [ (0x41, 0x5A, 0x20), (0xC0, 0xD6, 0x20), (0xD8, 0xDE, 0x20), (0x386, 0x386, 0x26),
    (0x388, 0x38A, 0x25), (0x38C, 0x38C, 0x40), (0x38E, 0x38F, 0x3F), (0x391, 0x3A1, 0x20),
    (0x3A3, 0x3AB, 0x20), (0x400, 0x40F, 0x50), (0x410, 0x42F, 0x20), (0x531, 0x556, 0x30) ]

/-- Characters in pairs of a large and a small one. The first of a range is large. -/
def paired : List (Nat × Nat) :=
  [ (0x100, 0x12F), (0x134, 0x137), (0x139, 0x13E), (0x141, 0x148), (0x14A, 0x177),
    (0x179, 0x17E), (0x48A, 0x4BF), (0x4C1, 0x4CE), (0x4D0, 0x52F), (0x1E00, 0x1E95),
    (0x1EA0, 0x1EFF) ]

/-- Characters that are left out. -/
def dropped : List Nat := [0xAD, 0x200B, 0x2060, 0x2064, 0xFE0E, 0xFE0F, 0xFEFF]

/-- Single characters that stand for others. -/
def singles : List (Nat × List Char) :=
  [ (0xAA, ['a']), (0xB2, ['2']), (0xB3, ['3']), (0xB5, ['μ']), (0xB9, ['1']), (0xBA, ['o']),
    (0x131, ['ı']), (0x132, ['i', 'j']), (0x133, ['i', 'j']), (0x138, ['ĸ']), (0x178, ['ÿ']),
    (0x17F, ['s']), (0x3002, ['.']), (0xFF0E, ['.']), (0xFF61, ['.']) ]

/-- What a character is brought to, if it may stand in a domain. -/
def canonical? (c : Char) : Option (List Char) :=
  let n := c.toNat
  let within (r : Nat × Nat) : Bool := r.1 ≤ n && n ≤ r.2
  match risen.find? fun (low, high, _) => within (low, high) with
  | some (_, _, distance) => some [Char.ofNat (n + distance)]
  | none =>
    if n < 0x80 || kept.any within then some [c]
    else if dropped.contains n then some []
    else if 0xFF01 ≤ n && n ≤ 0xFF5E && n != 0xFF0E then some [(Char.ofNat (n - 0xFEE0)).toLower]
    else
      match paired.find? within with
      | some (low, _) => some [if (n - low) % 2 = 0 then Char.ofNat (n + 1) else c]
      | none => singles.lookup n

/-! ### Labels -/

/-- What a label in ASCII begins with if it stands for one that is not. -/
def mark : List Char := ['x', 'n', '-', '-']

/-- A label in ASCII, unless what it says it stands for makes no sense. -/
def label? (cs : List Char) : Option (List Char) :=
  if !cs.all Punycode.isBasic then some (mark ++ Punycode.encode cs)
  else if mark.isPrefixOf cs then do
    let spelled ← Punycode.decode? (cs.drop mark.length)
    if spelled.all Punycode.isBasic || spelled.any fun c => canonical? c != some [c] then none
    else some cs
  else some cs

/-- A domain in ASCII. -/
def toAscii? (cs : List Char) : Option (List Char) := do
  let cs ← cs.mapM canonical?
  let labels ← (cs.flatten.splitOn '.').mapM label?
  some (['.'].intercalate labels)

end LinkGauge.Url.Domain
