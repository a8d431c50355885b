import LinkGauge.Proofs.Text.Utf8
import LinkGauge.Text.Percent

/-!
# What encoding leaves

An encoded text is made of characters that are kept and of octets in hexadecimal digits. Where full
stops are kept, no encoded octet stands for one.
-/

namespace LinkGauge.Percent

variable {must : Char → Bool} {c : Char} {cs : List Char}

/-- A character that is written as it is. -/
def IsKept (must : Char → Bool) (c : Char) : Prop := c.val < 0x80 ∧ must c = false

instance : Decidable (IsKept must c) := inferInstanceAs (Decidable (_ ∧ _))

lemma encodeChar_of_isKept (kept : IsKept must c) : encodeChar must c = [c] := by
  obtain ⟨ascii, plain⟩ := kept
  simp only [encodeChar, plain, Bool.or_false, decide_eq_true_eq]
  exact if_neg (UInt32.not_le.mpr ascii)

lemma encodeChar_of_not_isKept (changed : ¬IsKept must c) :
    encodeChar must c = (String.utf8EncodeChar c).flatMap encodeByte := by
  rw [encodeChar, if_pos]
  by_contra plain
  simp only [Bool.or_eq_true, decide_eq_true_eq, not_or, Bool.not_eq_true] at plain
  exact changed ⟨UInt32.not_le.mp plain.1, plain.2⟩

lemma encode_of_isKept (kept : ∀ c ∈ cs, IsKept must c) : encode must cs = cs := by
  induction cs with
  | nil => rfl
  | cons c cs ih =>
    rw [List.forall_mem_cons] at kept
    rw [encode, List.flatMap_cons, encodeChar_of_isKept kept.1]
    exact congrArg (c :: ·) (ih kept.2)

/-- The characters that octets are written with. -/
def marks : List Char := '%' :: "0123456789ABCDEF".toList

lemma mem_marks_of_mem_encodeByte {b : UInt8} (mem : c ∈ encodeByte b) : c ∈ marks := by
  have digits : ∀ n ∈ List.range 16, hexDigit n ∈ marks := by decide
  have bound := b.toNat_lt
  simp only [encodeByte, List.mem_cons, List.not_mem_nil, or_false] at mem
  rcases mem with rfl | rfl | rfl
  · decide
  · exact digits _ (List.mem_range.mpr (by omega))
  · exact digits _ (List.mem_range.mpr (by omega))

/-- What is written is a character that is kept, or belongs to an octet. -/
lemma mem_encode (mem : c ∈ encode must cs) : c ∈ cs ∧ IsKept must c ∨ c ∈ marks := by
  obtain ⟨source, inside, part⟩ := List.mem_flatMap.mp mem
  by_cases kept : IsKept must source
  · rw [encodeChar_of_isKept kept, List.mem_singleton] at part
    rw [part]
    exact .inl ⟨inside, kept⟩
  · rw [encodeChar_of_not_isKept kept] at part
    obtain ⟨b, -, written⟩ := List.mem_flatMap.mp part
    exact .inr (mem_marks_of_mem_encodeByte written)

/-- Only the octet of a full stop is written as one. -/
lemma eq_of_encodeByte {b : UInt8} (high : (hexDigit (b.toNat / 16)).toLower = '2')
    (low : (hexDigit (b.toNat % 16)).toLower = 'e') : b.toNat = 0x2E := by
  have two : ∀ n ∈ List.range 16, (hexDigit n).toLower = '2' → n = 2 := by decide
  have fourteen : ∀ n ∈ List.range 16, (hexDigit n).toLower = 'e' → n = 14 := by decide
  have bound := b.toNat_lt
  have := two _ (List.mem_range.mpr (by omega)) high
  have := fourteen _ (List.mem_range.mpr (by omega)) low
  omega

/-- A full stop is not written as an octet, so what holds no other octets is written as it is. -/
lemma encode_eq_self (stop : must '.' = false)
    (stops : ∀ t ∈ ((encode must cs).map Char.toLower).tails, t.head? = some '%' →
      t.take 3 = ['%', '2', 'e']) : encode must cs = cs := by
  apply encode_of_isKept
  intro c mem
  by_contra changed
  obtain ⟨front, back, rfl⟩ := List.append_of_mem mem
  obtain ⟨b, bs, octets⟩ := List.exists_cons_of_ne_nil (String.utf8EncodeChar_ne_nil (c := c))
  have written : encode must (front ++ c :: back) =
      encode must front ++ (encodeByte b ++ (bs.flatMap encodeByte ++ encode must back)) := by
    simp only [encode, List.flatMap_append, List.flatMap_cons, encodeChar_of_not_isKept changed,
      octets, List.append_assoc]
  have here := stops ((encodeByte b ++ (bs.flatMap encodeByte ++ encode must back)).map
    Char.toLower) (by
      rw [written, List.map_append, List.mem_tails]
      exact List.suffix_append _ _) rfl
  simp only [encodeByte, List.cons_append, List.nil_append, List.map_cons, List.take_succ_cons,
    List.take_zero, List.cons.injEq, and_true] at here
  have full := eq_of_encodeByte here.2.1 here.2.2
  by_cases ascii : c.toNat < 0x80
  · rw [Utf8.encodeChar_ascii ascii, List.cons.injEq] at octets
    rw [← octets.1, Utf8.toNat_ascii ascii] at full
    obtain rfl : c = '.' := Char.ext (UInt32.toNat_inj.mp full)
    exact changed ⟨by decide, stop⟩
  · have high := Utf8.le_of_mem_encodeChar (Nat.le_of_not_lt ascii) (b := b) (by simp [octets])
    omega

end LinkGauge.Percent
