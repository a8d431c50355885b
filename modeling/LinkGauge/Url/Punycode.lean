/-!
# Punycode

A label of a domain has only ASCII characters. One that is to have others is written without them,
followed by their insertions. Characters are inserted in ascending order, from the left to the
right; each insertion is a number in base 36 that tells how many others were passed by since the
last one.
-/

namespace LinkGauge.Punycode

/-! ### Numbers -/

/-- A digit: letters come first, then decimal digits. -/
def digit (n : Nat) : Char :=
  if n < 26 then Char.ofNat (97 + n) else Char.ofNat (22 + n)

def digitValue? (c : Char) : Option Nat :=
  if 'a' ≤ c ∧ c ≤ 'z' then some (c.toNat - 97)
  else if '0' ≤ c ∧ c ≤ '9' then some (c.toNat - 22)
  else none

theorem digitValue?_digit {n : Nat} (h : n < 36) : digitValue? (digit n) = some n := by
  have all : ∀ k ∈ List.range 36, digitValue? (digit k) = some k := by decide
  exact all n (List.mem_range.mpr h)

/-- A smaller digit than this is the last of its number. -/
def threshold (bias place : Nat) : Nat := max 1 (min 26 (place - bias))

theorem threshold_pos (bias place : Nat) : 0 < threshold bias place := by
  simp only [threshold]
  omega

/-- A number, its least digit first. -/
def write (bias place n : Nat) : List Char :=
  let t := threshold bias place
  if n < t then [digit n]
  else digit (t + (n - t) % (36 - t)) :: write bias (place + 36) ((n - t) / (36 - t))
termination_by n
decreasing_by
  have := threshold_pos bias place
  have := Nat.div_le_self (n - threshold bias place) (36 - threshold bias place)
  omega

/-- Read a number, and add it to `n`. Its first digit counts `weight` times. -/
def read? (bias : Nat) : (place weight n : Nat) → List Char → Option (Nat × List Char)
  | _, _, _, [] => none
  | place, weight, n, c :: rest => do
    let d ← digitValue? c
    let t := threshold bias place
    if d < t then some (n + d * weight, rest)
    else read? bias (place + 36) (weight * (36 - t)) (n + d * weight) rest

/-- The bias for numbers that follow a large one. -/
def settled (n place : Nat) : Nat :=
  if 455 < n then settled (n / 35) (place + 36) else place + 36 * n / (n + 38)
termination_by n

/-- The bias after the number `n`, when so many characters are in place. -/
def adapted (n placed : Nat) (first : Bool) : Nat :=
  let n := n / (if first then 700 else 2)
  settled (n + n / placed) 0

/-! ### Writing -/

/-- How far the writing of insertions has come. -/
structure Writing where
  /-- What was passed by since the last insertion. -/
  passed : Nat
  bias : Nat
  /-- How many characters are in place. -/
  placed : Nat
  written : List Char

/-- Pass a character, or insert it if it is the one with the code `n`. `basic` characters were in
place from the beginning. -/
def Writing.step (basic n : Nat) (w : Writing) (c : Char) : Writing :=
  if c.toNat < n then { w with passed := w.passed + 1 }
  else if c.toNat = n then
    { passed := 0
      bias := adapted w.passed (w.placed + 1) (w.placed = basic)
      placed := w.placed + 1
      written := w.written ++ write w.bias 36 w.passed }
  else w

/-- Insert all characters of a label with the codes `codes`, which ascend from `next` on. -/
def Writing.insert (label : List Char) (basic : Nat) :
    (codes : List Nat) → (next : Nat) → Writing → Writing
  | [], _, w => w
  | n :: codes, next, w =>
    let w := { w with passed := w.passed + (n - next) * (w.placed + 1) }
    let w := label.foldl (Writing.step basic n) w
    insert label basic codes (n + 1) { w with passed := w.passed + 1 }

/-- A character is ASCII. -/
def isBasic (c : Char) : Bool := c.val < 0x80

/-- The label in ASCII. -/
def encode (label : List Char) : List Char :=
  let basic := label.filter isBasic
  let codes := (((label.filter fun c => !isBasic c).map Char.toNat).mergeSort (· ≤ ·)).eraseDups
  let w := Writing.insert label basic.length codes 0x80 ⟨0, 72, basic.length, []⟩
  basic ++ (if basic.isEmpty then [] else ['-']) ++ w.written

/-! ### Reading -/

/-- Carry out insertions. `fuel` exceeds the number of digits. -/
def inserted? : (fuel bias code place : Nat) → (label : List Char) → List Char →
    Option (List Char)
  | _, _, _, _, label, [] => some label
  | 0, _, _, _, _, _ :: _ => none
  | fuel + 1, bias, code, place, label, digits => do
    let (n, rest) ← read? bias 36 1 place digits
    let placed := label.length + 1
    let code := code + n / placed
    if code.isValidChar then
      inserted? fuel (adapted (n - place) placed (place = 0)) code (n % placed + 1)
        (label.insertIdx (n % placed) (Char.ofNat code)) rest
    else none

/-- The label that is written in ASCII. -/
def decode? (cs : List Char) : Option (List Char) :=
  let digits := (cs.reverse.takeWhile (· ≠ '-')).reverse
  inserted? (digits.length + 1) 72 0x80 0 (cs.take (cs.length - digits.length - 1)) digits

end LinkGauge.Punycode
