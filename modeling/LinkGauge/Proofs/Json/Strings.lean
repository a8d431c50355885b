import LinkGauge.Json.Scan
import LinkGauge.Json.Value
import LinkGauge.Proofs.Answers
import LinkGauge.Proofs.Text.Utf8

/-!
# Strings of a JSON text

A text in quotation marks is scanned as the text itself, whatever its characters are and whatever
follows it.
-/

namespace LinkGauge.Json

open Utf8 (octets)

/-! ### Octets that stand for themselves -/

/-- An octet that is no quotation mark, no backslash and no control character. -/
def IsPlain (b : UInt8) : Prop := b ≠ 0x22 ∧ b ≠ 0x5C ∧ ¬ b < 0x20

/-- A character that needs no escape has plain octets. -/
lemma isPlain_encodeChar {c : Char} (hq : c ≠ '"') (hb : c ≠ '\\') (hc : ¬ c.val < 0x20) :
    ∀ b ∈ String.utf8EncodeChar c, IsPlain b := by
  have least : 0x20 ≤ c.toNat := by
    rw [UInt32.lt_iff_toNat_lt] at hc
    exact Nat.le_of_not_lt hc
  intro b mem
  by_cases ascii : c.toNat < 0x80
  · rw [Utf8.encodeChar_ascii ascii, List.mem_singleton] at mem
    subst mem
    have hn := Utf8.toNat_ascii ascii
    refine ⟨?_, ?_, ?_⟩
    · intro eq
      apply hq
      rw [← UInt8.toNat_inj, hn] at eq
      exact Char.toNat_inj.mp eq
    · intro eq
      apply hb
      rw [← UInt8.toNat_inj, hn] at eq
      exact Char.toNat_inj.mp eq
    · rw [UInt8.lt_iff_toNat_lt, hn]
      exact Nat.not_lt.mpr least
  · have high : 0x80 ≤ b.toNat := Utf8.le_of_mem_encodeChar (Nat.le_of_not_lt ascii) mem
    refine ⟨?_, ?_, ?_⟩
    · rintro rfl
      exact absurd high (by simp)
    · rintro rfl
      exact absurd high (by simp)
    · rw [UInt8.lt_iff_toNat_lt]
      exact Nat.not_lt.mpr (Nat.le_trans (by simp) high)

lemma skipString_cons {b : UInt8} (h : IsPlain b) (rest : Bytes) :
    skipString (b :: rest) = skipString rest := by
  obtain ⟨quote, escape, control⟩ := h
  rw [skipString.eq_def]
  simp only [beq_iff_eq, quote, escape, control, if_false]

lemma readString_cons {b : UInt8} (h : IsPlain b) (rest : Bytes) :
    readString 0 (b :: rest) = (readString 0 rest).map (b :: ·) := by
  obtain ⟨quote, escape, control⟩ := h
  rw [readString.eq_def]
  simp only [beq_iff_eq, quote, escape, control, if_false]

lemma skipString_plain {bs : Bytes} (h : ∀ b ∈ bs, IsPlain b) (rest : Bytes) :
    skipString (bs ++ rest) = skipString rest := by
  induction bs with
  | nil => rfl
  | cons b bs ih =>
    rw [List.cons_append, skipString_cons (h b (List.mem_cons_self ..))]
    exact ih fun b mem => h b (List.mem_cons_of_mem _ mem)

lemma readString_plain {bs : Bytes} (h : ∀ b ∈ bs, IsPlain b) (rest : Bytes) :
    readString 0 (bs ++ rest) = (readString 0 rest).map (bs ++ ·) := by
  induction bs with
  | nil =>
    simp only [List.nil_append]
    cases readString 0 rest <;> rfl
  | cons b bs ih =>
    rw [List.cons_append, readString_cons (h b (List.mem_cons_self ..)),
      ih fun b mem => h b (List.mem_cons_of_mem _ mem)]
    cases readString 0 rest <;> rfl

/-! ### Escapes -/

/-- A letter that stands for a character does not announce a code unit. -/
lemma ne_unit_of_simpleEscape {e : UInt8} {c : Char} (h : simpleEscape? e = some c) : e ≠ 0x75 := by
  rintro rfl
  have none : simpleEscape? 0x75 = none := by decide
  rw [none] at h
  cases h

lemma skipString_simple {e : UInt8} {c : Char} (h : simpleEscape? e = some c) (rest : Bytes) :
    skipString (0x5C :: e :: rest) = skipString rest := by
  rw [skipString.eq_def]
  simp [ne_unit_of_simpleEscape h, h]

lemma readString_simple {e : UInt8} {c : Char} (h : simpleEscape? e = some c) (rest : Bytes) :
    readString 0 (0x5C :: e :: rest) =
      (readString 0 rest).map (String.utf8EncodeChar c ++ ·) := by
  have past : readString 1 (e :: rest) = readString 0 rest := by rw [readString.eq_def]
  rw [readString.eq_def]
  simp [ne_unit_of_simpleEscape h, h, past]
  cases readString 0 rest <;> rfl

/-- The octet of a hexadecimal digit. -/
def hexOctet (n : ℕ) : UInt8 := UInt8.ofNat (hexDigit n).toNat

lemma encodeChar_hexDigit {n : ℕ} (h : n < 16) :
    String.utf8EncodeChar (hexDigit n) = [hexOctet n] := by
  have ascii : ∀ n < 16, (hexDigit n).toNat < 0x80 := by decide
  exact Utf8.encodeChar_ascii (ascii n h)

lemma hexValue?_hexOctet {n : ℕ} (h : n < 16) : hexValue? (hexOctet n) = some n := by
  have all : ∀ n < 16, hexValue? (hexOctet n) = some n := by decide
  exact all n h

/-- The unit of an escape for a control character. -/
lemma hexUnit_control {n : ℕ} (h : n < 0x20) (rest : Bytes) :
    hexUnit (0x30 :: 0x30 :: hexOctet (n / 16) :: hexOctet (n % 16) :: rest) = .ok (n, rest) := by
  have zero : hexValue? 0x30 = some 0 := by decide
  have value : n / 16 * 16 + n % 16 = n := Nat.div_add_mod' n 16
  simp [hexUnit, zero, hexValue?_hexOctet (n := n / 16) (by omega),
    hexValue?_hexOctet (n := n % 16) (by omega), value]

lemma skipString_control {n : ℕ} (h : n < 0x20) (rest : Bytes) :
    skipString (0x5C :: 0x75 :: 0x30 :: 0x30 :: hexOctet (n / 16) :: hexOctet (n % 16) :: rest) =
      skipString rest := by
  rw [skipString.eq_def]
  simp [hexUnit_control h]

lemma readString_control {n : ℕ} (h : n < 0x20) (rest : Bytes) :
    readString 0
        (0x5C :: 0x75 :: 0x30 :: 0x30 :: hexOctet (n / 16) :: hexOctet (n % 16) :: rest) =
      (readString 0 rest).map (String.utf8EncodeChar (Char.ofNat n) ++ ·) := by
  have past (u a b c d : UInt8) : readString 5 (u :: a :: b :: c :: d :: rest) =
      readString 0 rest := by
    simp only [readString]
  have point : codePoint n rest = .ok (n, 0) := by
    simp only [codePoint]
    rw [if_neg (by omega), if_pos (by omega)]
  rw [readString.eq_def]
  simp only [beq_iff_eq, hexUnit_control h, ok_bind, point, past]
  cases readString 0 rest <;> rfl

/-! ### Texts in quotation marks -/

/-- What the octets of a written character are for the scanner. -/
lemma octets_escapeChar (c : Char) :
    (∃ e, simpleEscape? e = some c ∧ octets (escapeChar c) = [0x5C, e]) ∨
    (∃ n < 0x20, c = Char.ofNat n ∧ octets (escapeChar c) =
      [0x5C, 0x75, 0x30, 0x30, hexOctet (n / 16), hexOctet (n % 16)]) ∨
    (octets (escapeChar c) = String.utf8EncodeChar c ∧
      ∀ b ∈ String.utf8EncodeChar c, IsPlain b) := by
  simp only [escapeChar]
  by_cases quote : c = '"'
  · subst quote
    exact .inl ⟨0x22, by decide, by decide⟩
  by_cases backslash : c = '\\'
  · subst backslash
    exact .inl ⟨0x5C, by decide, by decide⟩
  rw [if_neg quote, if_neg backslash]
  by_cases feed : c = '\n'
  · subst feed
    exact .inl ⟨0x6E, by decide, by decide⟩
  by_cases back : c = '\r'
  · subst back
    exact .inl ⟨0x72, by decide, by decide⟩
  by_cases tab : c = '\t'
  · subst tab
    exact .inl ⟨0x74, by decide, by decide⟩
  rw [if_neg feed, if_neg back, if_neg tab]
  by_cases eight : c.val = 8
  · obtain rfl : c = Char.ofNat 8 := Char.ext eight
    exact .inl ⟨0x62, by decide, by decide⟩
  by_cases twelve : c.val = 12
  · obtain rfl : c = Char.ofNat 12 := Char.ext twelve
    exact .inl ⟨0x66, by decide, by decide⟩
  rw [if_neg eight, if_neg twelve]
  by_cases control : c.val < 0x20
  · have small : c.toNat < 0x20 := UInt32.lt_iff_toNat_lt.mp control
    refine .inr (.inl ⟨c.toNat, small, (Char.ofNat_toNat c).symm, ?_⟩)
    have start : octets ['\\', 'u', '0', '0'] = [0x5C, 0x75, 0x30, 0x30] := by decide
    rw [if_pos control]
    change octets (['\\', 'u', '0', '0'] ++ [hexDigit (c.toNat / 16), hexDigit (c.toNat % 16)]) = _
    rw [Utf8.octets_append, start]
    simp [encodeChar_hexDigit (n := c.toNat / 16) (by omega),
      encodeChar_hexDigit (n := c.toNat % 16) (by omega)]
  · rw [if_neg control]
    exact .inr (.inr ⟨by simp, isPlain_encodeChar quote backslash control⟩)

/-- Passing over a written character. -/
lemma skipString_escapeChar (c : Char) (rest : Bytes) :
    skipString (octets (escapeChar c) ++ rest) = skipString rest := by
  rcases octets_escapeChar c with ⟨e, h, eq⟩ | ⟨n, h, -, eq⟩ | ⟨eq, plain⟩
  · rw [eq]
    exact skipString_simple h rest
  · rw [eq]
    exact skipString_control h rest
  · rw [eq]
    exact skipString_plain plain rest

/-- Reading a written character. -/
lemma readString_escapeChar (c : Char) (rest : Bytes) :
    readString 0 (octets (escapeChar c) ++ rest) =
      (readString 0 rest).map (String.utf8EncodeChar c ++ ·) := by
  rcases octets_escapeChar c with ⟨e, h, eq⟩ | ⟨n, h, rfl, eq⟩ | ⟨eq, plain⟩
  · rw [eq]
    exact readString_simple h rest
  · rw [eq]
    exact readString_control h rest
  · rw [eq]
    exact readString_plain plain rest

/-- The octets of a text up to its closing quotation mark. -/
def quotedOctets (cs : List Char) : Bytes := octets (cs.flatMap escapeChar) ++ [0x22]

lemma quotedOctets_cons (c : Char) (cs : List Char) :
    quotedOctets (c :: cs) = octets (escapeChar c) ++ quotedOctets cs := by
  simp [quotedOctets]

lemma skipString_quotedOctets (cs : List Char) (rest : Bytes) :
    skipString (quotedOctets cs ++ rest) = .ok rest := by
  induction cs with
  | nil =>
    change skipString (0x22 :: rest) = _
    rw [skipString.eq_def]
    rfl
  | cons c cs ih => rw [quotedOctets_cons, List.append_assoc, skipString_escapeChar, ih]

lemma readString_quotedOctets (cs : List Char) (rest : Bytes) :
    readString 0 (quotedOctets cs ++ rest) = .ok (octets cs) := by
  induction cs with
  | nil => rfl
  | cons c cs ih =>
    rw [quotedOctets_cons, List.append_assoc, readString_escapeChar, ih]
    rfl

lemma octets_quote (s : String) : octets (quote s) = 0x22 :: quotedOctets s.toList := by
  simp [quote, quotedOctets, Utf8.encodeChar_ascii]

/-- A written text is scanned as itself. -/
theorem scanString_quotedOctets (s : String) (rest : Bytes) :
    scanString (quotedOctets s.toList ++ rest) = .ok (.ok s, rest) := by
  have text : readText (quotedOctets s.toList ++ rest) = .ok s := by
    simp [readText, readString_quotedOctets]
  rw [scanString, skipString_quotedOctets]
  simp only [text]

end LinkGauge.Json
