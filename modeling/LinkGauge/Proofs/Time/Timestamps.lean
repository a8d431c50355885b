import LinkGauge.Proofs.Answers
import LinkGauge.Proofs.Text.Digits
import LinkGauge.Proofs.Time.Calendar
import LinkGauge.Time.Timestamp

/-!
# Timestamps are read back

The text of an instant is read as that instant, leap seconds and years of more than four digits
among them.
-/

namespace LinkGauge

open Text (Ends takeWhile_run dropWhile_run)

/-! ### Padded digits -/

namespace Date

variable {width n : ℕ}

lemma isDigit_of_mem_padded {c : Char} (mem : c ∈ padded width n) : c.isDigit := by
  rcases List.mem_append.mp mem with zero | digit
  · obtain rfl := List.eq_of_mem_replicate zero
    decide
  · exact Text.isDigit_of_mem_digits digit

lemma padded_ne_nil : padded width n ≠ [] := by
  intro empty
  exact Nat.toDigits_ne_nil (List.append_eq_nil_iff.mp empty).2

lemma length_padded (width : ℕ) (pos : 0 < width) (fits : n < 10 ^ width) :
    (padded width n).length = width := by
  have short := (Nat.length_toDigits_le_iff (by simp : 1 < 10) pos).mpr fits
  simp only [padded, List.length_append, List.length_replicate]
  omega

end Date

namespace Timestamp

open Date (padded)

/-- Digits are worth what the number is that they spell. -/
lemma digitsValue_eq (ds : List Char) : digitsValue ds = Nat.ofDigitChars 10 ds 0 := by
  rw [Nat.ofDigitChars_eq_foldl, digitsValue]
  congr 1
  funext n c
  rw [Nat.mul_comm]
  rfl

lemma digitsValue_padded (width n : ℕ) : digitsValue (padded width n) = n := by
  rw [digitsValue_eq, padded, Nat.ofDigitChars_append, Nat.ofDigitChars_replicate_zero,
    Nat.mul_zero]
  exact Nat.ofDigitChars_ten_toDigits

/-! ### Digits -/

/-- A digit is not blank. -/
lemma not_blank_of_isDigit {c : Char} (h : c.isDigit) : isBlankChar c = false := by
  obtain ⟨low, high⟩ := Text.toNat_of_isDigit h
  rw [← Char.ofNat_toNat c]
  generalize c.toNat = n at low high
  interval_cases n <;> decide

variable {ds rest : List Char}

/-- No blanks stand in front of digits. -/
lemma trimStartChars_digits (digits : ∀ c ∈ ds, c.isDigit) (some : ds ≠ []) :
    trimStartChars (ds ++ rest) = ds ++ rest := by
  cases ds with
  | nil => exact absurd rfl some
  | cons d ds =>
    have visible := not_blank_of_isDigit (digits d (List.mem_cons_self ..))
    rw [List.cons_append, trimStartChars, List.dropWhile_cons_of_neg (by simp [visible])]

/-- A text that begins with digits does not begin with anything else. -/
lemma digits_ne_cons (digits : ∀ c ∈ ds, c.isDigit) (some : ds ≠ []) {c : Char}
    (other : c.isDigit = false) {rest' : List Char} : ds ++ rest ≠ c :: rest' := by
  cases ds with
  | nil => exact absurd rfl some
  | cons d ds =>
    rintro eq
    obtain ⟨rfl, -⟩ := List.cons.inj eq
    rw [digits d (List.mem_cons_self ..)] at other
    cases other

/-- All digits in a row. -/
lemma number_none (digits : ∀ c ∈ ds, c.isDigit) (some : ds ≠ []) (ends : Ends Char.isDigit rest) :
    number none (ds ++ rest) = .ok (digitsValue ds, rest) := by
  have take := takeWhile_run digits ends
  cases ds with
  | nil => exact absurd rfl some
  | cons d ds =>
    have digit := digits d (List.mem_cons_self ..)
    rw [List.cons_append] at take ⊢
    simp only [number, digit, if_true, take]
    simp

/-- As many digits as there are, if they are not too many. -/
lemma number_some (limit : ℕ) (digits : ∀ c ∈ ds, c.isDigit) (some : ds ≠ [])
    (few : ds.length ≤ limit) (ends : Ends Char.isDigit (rest.take (limit - ds.length))) :
    number (.some limit) (ds ++ rest) = .ok (digitsValue ds, rest) := by
  have take := takeWhile_run digits ends
  have start : (ds ++ rest).take limit = ds ++ rest.take (limit - ds.length) := by
    rw [List.take_append, List.take_of_length_le few]
  rw [← start] at take
  cases ds with
  | nil => exact absurd rfl some
  | cons d ds =>
    have digit := digits d (List.mem_cons_self ..)
    rw [List.cons_append] at take ⊢
    simp only [number, digit, if_true, take]
    simp

/-! ### Parts of a timestamp -/

/-- A number of two digits. -/
lemma field_padded {low high n : ℕ} (least : low ≤ n) (most : n ≤ high) (fits : n < 100)
    (rest : List Char) : field low high (padded 2 n ++ rest) = .ok (n, rest) := by
  have digits : ∀ c ∈ padded 2 n, c.isDigit := fun c mem => Date.isDigit_of_mem_padded mem
  have length := Date.length_padded 2 (by simp) fits
  have ends : Ends Char.isDigit (rest.take (2 - (padded 2 n).length)) := by
    rw [length]
    exact Text.ends_nil
  have value := number_some 2 digits Date.padded_ne_nil length.le ends
  rw [digitsValue_padded] at value
  rw [field, trimStartChars_digits digits Date.padded_ne_nil, value]
  simp [least, most]

lemma separator_cons {sep : Char} (visible : isBlankChar sep = false) (rest : List Char) :
    separator sep (sep :: rest) = .ok rest := by
  rw [separator, trimStartChars, List.dropWhile_cons_of_neg (by simp [visible])]
  simp

/-- A year, up to the hyphen behind it. -/
lemma year_yearChars {y : ℤ} (fits : Word.isInt32 y) (rest : List Char) :
    year (Date.yearChars y ++ '-' :: rest) = .ok (y, '-' :: rest) := by
  have digits : ∀ c ∈ padded 4 y.natAbs, c.isDigit := fun c mem => Date.isDigit_of_mem_padded mem
  have hyphen : Ends Char.isDigit ('-' :: rest) := Text.ends_cons (by simp)
  simp only [Date.yearChars]
  by_cases short : 0 ≤ y ∧ y ≤ 9999
  · have length := Date.length_padded 4 (n := y.natAbs) (by simp) (by omega)
    have ends : Ends Char.isDigit (('-' :: rest).take (4 - (padded 4 y.natAbs).length)) := by
      rw [length]
      exact Text.ends_nil
    have value := number_some 4 digits Date.padded_ne_nil length.le ends
    have same : (y.natAbs : ℤ) = y := by omega
    rw [digitsValue_padded] at value
    rw [if_pos short, year, trimStartChars_digits digits Date.padded_ne_nil]
    split
    -- A digit is no sign.
    next eq => exact absurd eq (digits_ne_cons digits Date.padded_ne_nil (by simp))
    next eq => exact absurd eq (digits_ne_cons digits Date.padded_ne_nil (by simp))
    next => simp only [value, map_ok, ok_bind, same, fits, if_true]
  · have value := number_none digits Date.padded_ne_nil hyphen
    rw [digitsValue_padded] at value
    rw [if_neg short, List.cons_append]
    by_cases negative : y < 0
    · have same : -(y.natAbs : ℤ) = y := by omega
      have trimmed (cs : List Char) : trimStartChars ('-' :: cs) = '-' :: cs := rfl
      rw [if_pos negative, year, trimmed]
      simp only [value, map_ok, ok_bind, same, fits, if_true]
    · have same : (y.natAbs : ℤ) = y := by omega
      have trimmed (cs : List Char) : trimStartChars ('+' :: cs) = '+' :: cs := rfl
      rw [if_neg negative, year, trimmed]
      simp only [value, map_ok, ok_bind, same, fits, if_true]

/-- The date of a day, up to the `T` behind it. -/
lemma date_chars {d : Date} (valid : d.isValid) (rest : List Char) :
    date (d.chars ++ rest) = .ok (d, rest) := by
  simp only [Date.isValid, Bool.and_eq_true, decide_eq_true_eq] at valid
  obtain ⟨⟨⟨early, late⟩, first⟩, last⟩ := valid
  have fits : Word.isInt32 d.year := by
    simp only [Word.isInt32, Word.half32, Bool.and_eq_true, decide_eq_true_eq]
    omega
  have length := Date.monthLength_le d.year d.month
  obtain ⟨someMonth, month⟩ := Date.month_mem (Nat.lt_of_lt_of_le first last)
  rw [date, Date.chars, List.append_assoc, List.cons_append, year_yearChars fits]
  simp only [ok_bind, separator_cons (by decide : isBlankChar '-' = false)]
  rw [List.append_assoc, List.cons_append, field_padded someMonth month (by omega)]
  simp only [ok_bind, separator_cons (by decide : isBlankChar '-' = false)]
  rw [field_padded first (by omega) (by omega)]
  rfl

/-- A fraction of so many digits. -/
lemma fraction_padded {places n : ℕ} (pos : 0 < places) (few : places ≤ 9) (fits : n < 10 ^ places)
    {rest : List Char} (ends : Ends Char.isDigit rest) :
    fraction ('.' :: (padded places n ++ rest)) = .ok (n * 10 ^ (9 - places), rest) := by
  have digits : ∀ c ∈ padded places n, c.isDigit := fun c mem => Date.isDigit_of_mem_padded mem
  have length := Date.length_padded places pos fits
  have cut : Ends Char.isDigit (rest.take (9 - (padded places n).length)) := by
    cases rest with
    | nil =>
      rw [List.take_nil]
      exact Text.ends_nil
    | cons c rest =>
      cases 9 - (padded places n).length with
      | zero => exact Text.ends_nil
      | succ k => exact Text.ends_cons (ends c rfl)
  have value := number_some 9 digits Date.padded_ne_nil (length.le.trans few) cut
  rw [digitsValue_padded] at value
  have none : rest.dropWhile Char.isDigit = rest := by
    cases rest with
    | nil => rfl
    | cons c rest =>
      have stop : c.isDigit = false := ends c rfl
      rw [List.dropWhile_cons_of_neg (by simp [stop])]
  have consumed : (padded places n ++ rest).length - rest.length = places := by
    rw [List.length_append, length]
    omega
  simp only [fraction, value, ok_bind, consumed, none]
  rfl

/-- The fraction of a second, up to the offset behind it. -/
lemma fraction_fractionChars {nano : ℕ} (fits : nano < nanosPerSecond) {c : Char}
    (other : c.isDigit = false) (point : c ≠ '.') (rest : List Char) :
    fraction (Instant.fractionChars nano ++ c :: rest) = .ok (nano, c :: rest) := by
  have ends : Ends Char.isDigit (c :: rest) := Text.ends_cons other
  simp only [nanosPerSecond] at fits
  simp only [Instant.fractionChars]
  by_cases whole : nano = 0
  · rw [if_pos whole, whole]
    simp [fraction, point]
  · rw [if_neg whole]
    by_cases millis : nano % 1000000 = 0
    · have value : nano / 1000000 * 10 ^ (9 - 3) = nano := by omega
      rw [if_pos millis, List.cons_append,
        fraction_padded (by simp) (by simp) (by omega) ends, value]
    · rw [if_neg millis]
      by_cases micros : nano % 1000 = 0
      · have value : nano / 1000 * 10 ^ (9 - 6) = nano := by omega
        rw [if_pos micros, List.cons_append,
          fraction_padded (by simp) (by simp) (by omega) ends, value]
      · rw [if_neg micros, List.cons_append,
          fraction_padded (by simp) (by simp) (by omega) ends]
        simp

/-- The time of a day, up to the offset behind it. -/
lemma clock_chars {h m s nano : ℕ} (hh : h ≤ 23) (hm : m ≤ 59) (hs : s ≤ 60)
    (fits : nano < nanosPerSecond) {c : Char} (other : c.isDigit = false) (point : c ≠ '.')
    (rest : List Char) :
    clock (padded 2 h ++ ':' :: (padded 2 m ++ ':' :: (padded 2 s ++
      (Instant.fractionChars nano ++ c :: rest)))) = .ok (⟨h, m, s, nano⟩, c :: rest) := by
  rw [clock, field_padded (Nat.zero_le _) hh (by omega)]
  simp only [ok_bind, separator_cons (by decide : isBlankChar ':' = false)]
  rw [field_padded (Nat.zero_le _) hm (by omega)]
  simp only [ok_bind, separator_cons (by decide : isBlankChar ':' = false)]
  rw [field_padded (Nat.zero_le _) hs (by omega)]
  simp only [ok_bind, fraction_fractionChars fits other point]

/-! ### Whole timestamps -/

/-- The parts of an instant belong to it. -/
lemma resolve_parts (t : Instant) :
    resolve (Date.ofDays t.day)
      ⟨t.secondOfDay / 3600, t.secondOfDay / 60 % 60,
        t.secondOfDay % 60 + t.nano / nanosPerSecond, t.nano % nanosPerSecond⟩ 0 = .ok t := by
  obtain ⟨second, nano, onClock⟩ := t
  obtain ⟨low, high, nanos⟩ := id onClock
  simp only [firstSecond] at low
  simp only [endSecond] at high
  simp only [nanosPerSecond] at nanos
  have valid : (Date.ofDays (second / 86400)).isValid :=
    Date.isValid_ofDays (by simp only [Date.firstDay]; omega) (by simp only [Date.endDay]; omega)
  have leap : ((second % 86400).toNat % 60 + nano / 1000000000) / 60 = nano / 1000000000 := by
    omega
  have sum : second / 86400 * 86400 + ((second % 86400).toNat / 3600 : ℕ) * 3600 +
      ((second % 86400).toNat / 60 % 60 : ℕ) * 60 +
      ((second % 86400).toNat % 60 + nano / 1000000000 - nano / 1000000000 : ℕ) - 0 = second := by
    omega
  have whole : nano % 1000000000 + nano / 1000000000 * 1000000000 = nano :=
    Nat.mod_add_div' nano 1000000000
  simp only [resolve, Instant.day, Instant.secondOfDay, nanosPerSecond, valid, leap, sum, whole,
    Date.toDays_ofDays]
  simp [onClock]

/-- An instant is read back from its text. -/
theorem read_render (t : Instant) : read t.render = .ok t := by
  obtain ⟨low, high, nanos⟩ := t.onClock
  simp only [firstSecond] at low
  simp only [endSecond] at high
  simp only [nanosPerSecond] at nanos
  have valid : (Date.ofDays t.day).isValid := by
    simp only [Instant.day]
    exact Date.isValid_ofDays (by simp only [Date.firstDay]; omega)
      (by simp only [Date.endDay]; omega)
  have hours : t.secondOfDay / 3600 ≤ 23 := by
    simp only [Instant.secondOfDay]
    omega
  have minutes : t.secondOfDay / 60 % 60 ≤ 59 := by omega
  have seconds : t.secondOfDay % 60 + t.nano / nanosPerSecond ≤ 60 := by
    simp only [Instant.secondOfDay, nanosPerSecond]
    omega
  have fits : t.nano % nanosPerSecond < nanosPerSecond := Nat.mod_lt _ (by simp)
  have time := clock_chars hours minutes seconds fits (c := 'Z') (by simp) (by simp) []
  have zone : offset (trimStartChars ['Z']) = .ok (0, []) := by decide
  have none : (trimStartChars []).isEmpty := rfl
  rw [read, Instant.render, String.toList_ofList, Instant.chars, date_chars valid]
  simp only [ok_bind, true_or, if_true, time, zone, none]
  exact resolve_parts t

end Timestamp

end LinkGauge
