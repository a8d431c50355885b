import LinkGauge.Text.Utf8
import Mathlib.Tactic

/-!
# UTF-8 both ways

What is encoded is decoded to the same text, whether strictly or leniently, and whatever follows
it.
-/

namespace LinkGauge.Utf8

/-! ### Octets of a character -/

/-- What an octet in first position stands for, by its value. -/
lemma lead_ofNat {n : ℕ} (hn : n < 256) :
    lead (UInt8.ofNat n) =
      if n < 0x80 then .whole (Char.ofNat n)
      else if n < 0xC2 then .stray
      else if n < 0xE0 then .opens ⟨1, 0x80, 0xBF, n - 0xC0⟩
      else if n = 0xE0 then .opens ⟨2, 0xA0, 0xBF, 0⟩
      else if n = 0xED then .opens ⟨2, 0x80, 0x9F, 0xD⟩
      else if n < 0xF0 then .opens ⟨2, 0x80, 0xBF, n - 0xE0⟩
      else if n = 0xF0 then .opens ⟨3, 0x90, 0xBF, 0⟩
      else if n < 0xF4 then .opens ⟨3, 0x80, 0xBF, n - 0xF0⟩
      else if n = 0xF4 then .opens ⟨3, 0x80, 0x8F, 4⟩
      else .stray := by
  have hb : (UInt8.ofNat n).toNat = n := UInt8.toNat_ofNat_of_lt' hn
  simp only [lead, UInt8.lt_iff_toNat_lt, beq_iff_eq, ← UInt8.toNat_inj, hb, UInt8.reduceToNat]

/-- An octet that a character goes on with. -/
lemma decodeFrom_more {left n bits : ℕ} {low high : UInt8} (hn : n < 256) (hlow : low.toNat ≤ n)
    (hhigh : n ≤ high.toNat) (rest : List UInt8) :
    decodeFrom (some ⟨left + 2, low, high, bits⟩) (UInt8.ofNat n :: rest) =
      decodeFrom (some ⟨left + 1, 0x80, 0xBF, bits * 64 + (n - 0x80)⟩) rest := by
  have hb : (UInt8.ofNat n).toNat = n := UInt8.toNat_ofNat_of_lt' hn
  have inside : low ≤ UInt8.ofNat n ∧ UInt8.ofNat n ≤ high := by
    rw [UInt8.le_iff_toNat_le, UInt8.le_iff_toNat_le, hb]
    exact ⟨hlow, hhigh⟩
  rw [decodeFrom, if_pos inside, hb]
  exact if_neg (by simp)

/-- The octet that a character ends with. -/
lemma decodeFrom_last {n bits : ℕ} {low high : UInt8} (hn : n < 256) (hlow : low.toNat ≤ n)
    (hhigh : n ≤ high.toNat) (rest : List UInt8) :
    decodeFrom (some ⟨1, low, high, bits⟩) (UInt8.ofNat n :: rest) =
      some (Char.ofNat (bits * 64 + (n - 0x80))) :: decodeFrom none rest := by
  have hb : (UInt8.ofNat n).toNat = n := UInt8.toNat_ofNat_of_lt' hn
  have inside : low ≤ UInt8.ofNat n ∧ UInt8.ofNat n ≤ high := by
    rw [UInt8.le_iff_toNat_le, UInt8.le_iff_toNat_le, hb]
    exact ⟨hlow, hhigh⟩
  rw [decodeFrom, if_pos inside, hb, if_pos rfl]

/-- An octet that begins a character of several. -/
lemma decodeFrom_opens {b : UInt8} {p : Partial} (h : lead b = .opens p) (rest : List UInt8) :
    decodeFrom none (b :: rest) = decodeFrom (some p) rest := by
  rw [decodeFrom, h]

/-- A character of two octets, by its code point. -/
lemma decodeFrom_two {v : ℕ} (low : 0x7f < v) (high : v ≤ 0x7ff) (rest : List UInt8) :
    decodeFrom none
        (UInt8.ofNat (v / 64 % 0x20 + 0xc0) :: UInt8.ofNat (v % 0x40 + 0x80) :: rest) =
      some (Char.ofNat v) :: decodeFrom none rest := by
  have first : lead (UInt8.ofNat (v / 64 % 0x20 + 0xc0)) = .opens ⟨1, 0x80, 0xBF, v / 64⟩ := by
    rw [lead_ofNat (by omega), if_neg (by omega), if_neg (by omega), if_pos (by omega)]
    have rest : v / 64 % 0x20 + 0xc0 - 0xC0 = v / 64 := by omega
    rw [rest]
  have bits : v / 64 * 64 + (v % 0x40 + 0x80 - 0x80) = v := by omega
  rw [decodeFrom_opens first, decodeFrom_last (by omega) (by simp) (by simp; omega), bits]

/-- The last two octets of a character. -/
lemma decodeFrom_lastTwo {v bits : ℕ} {low high : UInt8} (hlow : low.toNat ≤ v / 64 % 0x40 + 0x80)
    (hhigh : v / 64 % 0x40 + 0x80 ≤ high.toNat) (hbits : bits = v / 4096) (rest : List UInt8) :
    decodeFrom (some ⟨2, low, high, bits⟩)
        (UInt8.ofNat (v / 64 % 0x40 + 0x80) :: UInt8.ofNat (v % 0x40 + 0x80) :: rest) =
      some (Char.ofNat v) :: decodeFrom none rest := by
  have all : (bits * 64 + (v / 64 % 0x40 + 0x80 - 0x80)) * 64 + (v % 0x40 + 0x80 - 0x80) = v := by
    omega
  rw [decodeFrom_more (by omega) hlow hhigh,
    decodeFrom_last (by omega) (by simp) (by simp; omega), all]

/-- A character of three octets, by its code point, which is no surrogate. -/
lemma decodeFrom_three {v : ℕ} (low : 0x7ff < v) (high : v ≤ 0xffff)
    (scalar : v < 0xD800 ∨ 0xDFFF < v) (rest : List UInt8) :
    decodeFrom none
        (UInt8.ofNat (v / 4096 % 0x10 + 0xe0) :: UInt8.ofNat (v / 64 % 0x40 + 0x80) ::
          UInt8.ofNat (v % 0x40 + 0x80) :: rest) =
      some (Char.ofNat v) :: decodeFrom none rest := by
  have first := lead_ofNat (n := v / 4096 % 0x10 + 0xe0) (by omega)
  rw [if_neg (by omega), if_neg (by omega), if_neg (by omega)] at first
  -- The second octet is kept in a smaller range where it could spell too small a number or a
  -- surrogate.
  by_cases small : v / 4096 = 0
  · rw [if_pos (by omega)] at first
    rw [decodeFrom_opens first]
    exact decodeFrom_lastTwo (by simp; omega) (by simp; omega) small.symm rest
  · rw [if_neg (by omega)] at first
    by_cases near : v / 4096 = 0xD
    · rw [if_pos (by omega)] at first
      rw [decodeFrom_opens first]
      exact decodeFrom_lastTwo (by simp) (by simp; omega) near.symm rest
    · rw [if_neg (by omega), if_pos (by omega)] at first
      rw [decodeFrom_opens first]
      exact decodeFrom_lastTwo (by simp) (by simp; omega) (by omega) rest

/-- The last three octets of a character. -/
lemma decodeFrom_lastThree {v bits : ℕ} {low high : UInt8}
    (hlow : low.toNat ≤ v / 4096 % 0x40 + 0x80) (hhigh : v / 4096 % 0x40 + 0x80 ≤ high.toNat)
    (hbits : bits = v / 262144) (rest : List UInt8) :
    decodeFrom (some ⟨3, low, high, bits⟩)
        (UInt8.ofNat (v / 4096 % 0x40 + 0x80) :: UInt8.ofNat (v / 64 % 0x40 + 0x80) ::
          UInt8.ofNat (v % 0x40 + 0x80) :: rest) =
      some (Char.ofNat v) :: decodeFrom none rest := by
  rw [decodeFrom_more (by omega) hlow hhigh]
  exact decodeFrom_lastTwo (by simp) (by simp; omega) (by omega) rest

/-- A character of four octets, by its code point. -/
lemma decodeFrom_four {v : ℕ} (low : 0xffff < v) (high : v < 0x110000) (rest : List UInt8) :
    decodeFrom none
        (UInt8.ofNat (v / 262144 % 0x08 + 0xf0) :: UInt8.ofNat (v / 4096 % 0x40 + 0x80) ::
          UInt8.ofNat (v / 64 % 0x40 + 0x80) :: UInt8.ofNat (v % 0x40 + 0x80) :: rest) =
      some (Char.ofNat v) :: decodeFrom none rest := by
  have first := lead_ofNat (n := v / 262144 % 0x08 + 0xf0) (by omega)
  rw [if_neg (by omega), if_neg (by omega), if_neg (by omega), if_neg (by omega),
    if_neg (by omega), if_neg (by omega)] at first
  by_cases small : v / 262144 = 0
  · rw [if_pos (by omega)] at first
    rw [decodeFrom_opens first]
    exact decodeFrom_lastThree (by simp; omega) (by simp; omega) small.symm rest
  · rw [if_neg (by omega)] at first
    by_cases inner : v / 262144 < 4
    · rw [if_pos (by omega)] at first
      rw [decodeFrom_opens first]
      exact decodeFrom_lastThree (by simp) (by simp; omega) (by omega) rest
    · rw [if_neg (by omega), if_pos (by omega)] at first
      rw [decodeFrom_opens first]
      exact decodeFrom_lastThree (by simp) (by simp; omega) (by omega) rest

/-- The decoder takes exactly the octets of a character. -/
lemma decodeFrom_encodeChar (c : Char) (rest : List UInt8) :
    decodeFrom none (String.utf8EncodeChar c ++ rest) = some c :: decodeFrom none rest := by
  have hv : c.val.toNat < 0xD800 ∨ (0xDFFF < c.val.toNat ∧ c.val.toNat < 0x110000) := c.valid
  have hc : Char.ofNat c.val.toNat = c := Char.ofNat_toNat c
  simp only [String.utf8EncodeChar]
  generalize c.val.toNat = v at hv hc
  subst hc
  by_cases one : v ≤ 0x7f
  · rw [if_pos one, List.singleton_append, decodeFrom, lead_ofNat (by omega), if_pos (by omega)]
  · rw [if_neg one]
    by_cases two : v ≤ 0x7ff
    · rw [if_pos two]
      exact decodeFrom_two (by omega) two rest
    · rw [if_neg two]
      by_cases three : v ≤ 0xffff
      · rw [if_pos three]
        exact decodeFrom_three (by omega) three (by omega) rest
      · rw [if_neg three]
        exact decodeFrom_four (by omega) (by omega) rest

/-! ### Texts -/

/-- The octets of characters. -/
def octets (cs : List Char) : List UInt8 := cs.flatMap String.utf8EncodeChar

@[simp] lemma octets_nil : octets [] = [] := rfl

@[simp] lemma octets_cons (c : Char) (cs : List Char) :
    octets (c :: cs) = String.utf8EncodeChar c ++ octets cs := rfl

@[simp] lemma octets_append (cs ds : List Char) : octets (cs ++ ds) = octets cs ++ octets ds := by
  simp [octets]

@[simp] lemma encode_ofList (cs : List Char) : encode (String.ofList cs) = octets cs := by
  simp [encode, octets]

lemma encode_eq (s : String) : encode s = octets s.toList := rfl

/-- Nothing is lost when a text is decoded again. -/
lemma decodeFrom_octets (cs : List Char) : decodeFrom none (octets cs) = cs.map some := by
  induction cs with
  | nil => rfl
  | cons c cs ih => rw [octets_cons, decodeFrom_encodeChar, ih, List.map_cons]

@[simp]
theorem decode?_octets (cs : List Char) : decode? (octets cs) = some (String.ofList cs) := by
  have all : (cs.map some).mapM id = some cs := by
    induction cs with
    | nil => rfl
    | cons c cs ih => simp [ih]
  rw [decode?, decodeFrom_octets, all]
  rfl

@[simp]
theorem decodeLossy_octets (cs : List Char) : decodeLossy (octets cs) = String.ofList cs := by
  rw [decodeLossy, decodeFrom_octets, List.map_map]
  simp [Function.comp_def]

@[simp] theorem decodeLossy_encode (s : String) : decodeLossy (encode s) = s := by
  rw [encode_eq, decodeLossy_octets, String.ofList_toList]

/-! ### ASCII -/

/-- The octet of an ASCII character. -/
lemma encodeChar_ascii {c : Char} (h : c.toNat < 0x80) :
    String.utf8EncodeChar c = [UInt8.ofNat c.toNat] := by
  have one : c.val.toNat ≤ 0x7f := Nat.le_of_lt_succ h
  simp only [String.utf8EncodeChar]
  rw [if_pos one]
  rfl

lemma toNat_ascii {c : Char} (h : c.toNat < 0x80) : (UInt8.ofNat c.toNat).toNat = c.toNat :=
  UInt8.toNat_ofNat_of_lt' (Nat.lt_trans h (by decide))

/-- No octet of another character is ASCII. -/
lemma le_of_mem_encodeChar {c : Char} (h : 0x80 ≤ c.toNat) {b : UInt8}
    (mem : b ∈ String.utf8EncodeChar c) : 0x80 ≤ b.toNat := by
  have hv : ¬ c.val.toNat ≤ 0x7f := Nat.not_le_of_lt h
  have high {n : ℕ} (low : 0x80 ≤ n) (hn : n < 256) : 0x80 ≤ (UInt8.ofNat n).toNat := by
    rwa [UInt8.toNat_ofNat_of_lt' hn]
  simp only [String.utf8EncodeChar] at mem
  rw [if_neg hv] at mem
  split at mem
  · rcases List.mem_pair.mp mem with rfl | rfl
    · exact high (by omega) (by omega)
    · exact high (by omega) (by omega)
  · split at mem
    all_goals
      simp only [List.mem_cons, List.not_mem_nil, or_false] at mem
    · rcases mem with rfl | rfl | rfl <;> exact high (by omega) (by omega)
    · rcases mem with rfl | rfl | rfl | rfl <;> exact high (by omega) (by omega)

end LinkGauge.Utf8
