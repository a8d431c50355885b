import LinkGauge.Proofs.Text.Digits
import LinkGauge.Time.Spelled

/-!
# Spelled spans are read back

A span is spelled as amounts of units, and reading adds up what the amounts are worth. So the text
of a span is read as that span, and no sum on the way is beyond every span.
-/

namespace LinkGauge.Span

/-! ### Units -/

/-- The nanoseconds that one of a unit is worth. -/
def Worth.nanosEach : Worth → ℕ
  | .nanos n => n
  | .seconds n => n * nanosPerSecond

/-- A character that units are named with. -/
def IsNameChar (c : Char) : Prop :=
  isUnitLetter c = true ∧ c.isDigit = false ∧ isBlankChar c = false

instance (c : Char) : Decidable (IsNameChar c) := inferInstanceAs (Decidable (_ ∧ _ ∧ _))

/-- The name of a unit that is worth so much. -/
structure Names (name : String) (worth : Worth) : Prop where
  known : (unit? name).map (·.whole) = some worth
  letters : name.toList.all (IsNameChar ·) = true
  some : name ≠ ""

/-- An amount of a unit that can be counted. Of what is worth less than a second there is less than
a second. -/
inductive Countable : ℕ × String → Prop where
  | nanos {n one : ℕ} {name : String} (names : Names name (.nanos one))
      (less : n * one < nanosPerSecond) (fits : n < Word.size64) : Countable (n, name)
  | seconds {n one : ℕ} {name : String} (names : Names name (.seconds one))
      (fits : n < Word.size64) : Countable (n, name)

/-- The nanoseconds that an amount of a unit is worth. -/
def worthOf (part : ℕ × String) : ℕ :=
  match (unit? part.2).map (·.whole) with
  | some worth => part.1 * worth.nanosEach
  | none => 0

lemma Names.worthOf_eq {name : String} {worth : Worth} (names : Names name worth) (n : ℕ) :
    worthOf (n, name) = n * worth.nanosEach := by
  rw [worthOf, names.known]

lemma Names.isNameChar {name : String} {worth : Worth} (names : Names name worth) :
    ∀ c ∈ name.toList, IsNameChar c := fun c mem =>
  of_decide_eq_true (List.all_eq_true.mp names.letters c mem)

/-! ### Reading an amount -/

variable {total : Span} {n : ℕ} {name : String} {worth : Worth}

lemma word?_of_lt (fits : n < Word.size64) : word? n = some n := if_pos fits

lemma ofNanos?_of_lt (fits : n < Word.size64 * nanosPerSecond) : ofNanos? n = some ⟨n, fits⟩ :=
  dif_pos fits

lemma readChar_due {c : Char} (started : Bool) (digit : c.isDigit = true) :
    readChar (.due started, total) c = some (.whole (digitValue c), total) := by
  simp [readChar, digit]

lemma readChar_whole {c : Char} (digit : c.isDigit = true)
    (fits : n * 10 + digitValue c < Word.size64) :
    readChar (.whole n, total) c = some (.whole (n * 10 + digitValue c), total) := by
  simp [readChar, digit, word?_of_lt fits]

/-- Digits are read as the number that they spell. -/
lemma foldlM_digits (started : Bool) (fits : n < Word.size64) :
    (Nat.toDigits 10 n).foldlM readChar (.due started, total) = some (.whole n, total) := by
  have digit : ∀ d < 10, d.digitChar.isDigit = true ∧ digitValue d.digitChar = d := by decide
  induction n using Nat.strongRecOn with
  | ind n ih =>
    by_cases small : n < 10
    · obtain ⟨isDigit, value⟩ := digit n small
      rw [Nat.toDigits_of_lt_base small, List.foldlM_cons, readChar_due started isDigit, value]
      rfl
    · obtain ⟨isDigit, value⟩ := digit (n % 10) (Nat.mod_lt n (by decide))
      have whole : n / 10 * 10 + digitValue (n % 10).digitChar = n := by
        rw [value]
        exact Nat.div_add_mod' n 10
      rw [Nat.toDigits_of_base_le (by decide) (by omega), List.foldlM_append,
        ih (n / 10) (by omega) (by omega), Option.bind_eq_bind, Option.bind_some, List.foldlM_cons,
        readChar_whole isDigit (by rwa [whole]), whole]
      rfl

/-- Letters are read as the name of a unit. -/
lemma foldlM_letters (letters cs : List Char) (name : ∀ c ∈ cs, IsNameChar c) :
    cs.foldlM readChar (.unit n none letters, total) =
      some (.unit n none (cs.reverse ++ letters), total) := by
  induction cs generalizing letters with
  | nil => rfl
  | cons c cs ih =>
    obtain ⟨letter, digit, blank⟩ := name c List.mem_cons_self
    have read : readChar (.unit n none letters, total) c =
        some (.unit n none (c :: letters), total) := by
      simp [readChar, letter, digit, blank]
    rw [List.foldlM_cons, read, Option.bind_eq_bind, Option.bind_some,
      ih _ fun c mem => name c (List.mem_cons_of_mem _ mem)]
    simp

/-- The text of an amount with its unit. -/
def partChars (part : ℕ × String) : List Char := Nat.toDigits 10 part.1 ++ part.2.toList

/-- An amount is read up to its unit. -/
lemma Names.foldlM_part (names : Names name worth) (started : Bool) (fits : n < Word.size64) :
    (partChars (n, name)).foldlM readChar (.due started, total) =
      .some (.unit n none name.toList.reverse, total) := by
  have letters := names.isNameChar
  rw [partChars, List.foldlM_append, foldlM_digits started fits, Option.bind_eq_bind,
    Option.bind_some]
  cases chars : name.toList with
  | nil => exact absurd (String.toList_eq_nil_iff.mp chars) names.some
  | cons c cs =>
    rw [chars] at letters
    obtain ⟨letter, digit, blank⟩ := letters c List.mem_cons_self
    have read : readChar (.whole n, total) c = .some (.unit n none [c], total) := by
      simp [readChar, letter, digit, blank]
    rw [List.foldlM_cons, read, Option.bind_eq_bind, Option.bind_some,
      foldlM_letters [c] cs fun c mem => letters c (List.mem_cons_of_mem _ mem), List.reverse_cons]

/-- A finished unit adds what a whole one of it is worth as often as it is there. -/
lemma Names.addUnit? (names : Names name worth) :
    Span.addUnit? total n none name.toList.reverse = addWorth? total worth n 1 := by
  obtain ⟨u, known, rfl⟩ := Option.map_eq_some_iff.mp names.known
  rw [Span.addUnit?, List.reverse_reverse, String.ofList_toList, known, Option.bind_eq_bind,
    Option.bind_some, Option.bind_eq_bind]
  exact Option.bind_fun_some _

lemma addWorth?_nanos {one : ℕ} (less : n * one < nanosPerSecond) :
    addWorth? total (.nanos one) n 1 = ofNanos? (total.nanos + n * one) := by
  have few : n * one < Word.size64 := less.trans (by decide)
  have below : total.subNanos + n * one < Word.size64 := by
    have rest : total.subNanos < nanosPerSecond := Nat.mod_lt _ (by decide)
    exact (Nat.add_lt_add rest less).trans (by decide)
  rw [addWorth?, word?_of_lt few, Option.bind_eq_bind, Option.bind_some, Nat.div_one,
    word?_of_lt below, Option.bind_some]

lemma addWorth?_seconds {one : ℕ}
    (fits : total.nanos + n * one * nanosPerSecond < Word.size64 * nanosPerSecond) :
    addWorth? total (.seconds one) n 1 = ofNanos? (total.nanos + n * one * nanosPerSecond) := by
  have few : n * one < Word.size64 :=
    Nat.lt_of_mul_lt_mul_right ((Nat.le_add_left _ _).trans_lt fits)
  rw [addWorth?, word?_of_lt few, Option.bind_eq_bind, Option.bind_some, Nat.div_one]

/-- A finished unit adds what the amount is worth. -/
lemma Countable.addUnit? {part : ℕ × String} (countable : Countable part)
    (fits : total.nanos + worthOf part < Word.size64 * nanosPerSecond) :
    Span.addUnit? total part.1 none part.2.toList.reverse =
      some ⟨total.nanos + worthOf part, fits⟩ := by
  rw [← ofNanos?_of_lt fits]
  cases countable with
  | nanos names less => rw [names.addUnit?, addWorth?_nanos less, names.worthOf_eq, Worth.nanosEach]
  | seconds names =>
    rw [names.worthOf_eq, Worth.nanosEach, ← Nat.mul_assoc] at fits ⊢
    rw [names.addUnit?, addWorth?_seconds fits]

lemma Countable.foldlM_part {part : ℕ × String} (countable : Countable part) (started : Bool) :
    (partChars part).foldlM readChar (.due started, total) =
      some (.unit part.1 none part.2.toList.reverse, total) := by
  cases countable with
  | nanos names _ fits => exact names.foldlM_part started fits
  | seconds names fits => exact names.foldlM_part started fits

/-! ### Reading all amounts -/

/-- Amounts with blanks between them. -/
def partsChars (parts : List (ℕ × String)) : List Char :=
  [' '].intercalate (parts.map partChars)

/-- What amounts are worth together. -/
def worthOfAll (parts : List (ℕ × String)) : ℕ := (parts.map worthOf).sum

lemma worthOfAll_nil : worthOfAll [] = 0 := rfl

lemma worthOfAll_cons (part : ℕ × String) (parts : List (ℕ × String)) :
    worthOfAll (part :: parts) = worthOf part + worthOfAll parts := List.sum_cons

/-- Amounts are read to their end, and add up. -/
lemma read_parts (total : Span) {parts : List (ℕ × String)} (some : parts ≠ [])
    (countable : ∀ part ∈ parts, Countable part) (started : Bool)
    (fits : total.nanos + worthOfAll parts < Word.size64 * nanosPerSecond) :
    ((partsChars parts).foldlM readChar (.due started, total)).bind finish =
      .some ⟨total.nanos + worthOfAll parts, fits⟩ := by
  -- On the amounts. What was read before them is in the total, which with what is still to come
  -- stays below the bound.
  induction parts generalizing total started with
  | nil => exact absurd rfl some
  | cons part parts ih =>
    have first := countable part List.mem_cons_self
    cases parts with
    | nil =>
      have alone : partsChars [part] = partChars part := List.intercalate_singleton
      rw [alone, first.foldlM_part started, Option.bind_some]
      exact first.addUnit? fits
    | cons next parts =>
      have sum : total.nanos + worthOf part + worthOfAll (next :: parts) <
          Word.size64 * nanosPerSecond := by
        rwa [worthOfAll_cons, ← Nat.add_assoc] at fits
      have fitsFirst := (Nat.le_add_right _ _).trans_lt sum
      have split : partsChars (part :: next :: parts) =
          partChars part ++ ' ' :: partsChars (next :: parts) := by
        simp [partsChars, List.intercalate_cons_cons]
      have blank : readChar (.unit part.1 none part.2.toList.reverse, total) ' ' =
          .some (.due true, ⟨total.nanos + worthOf part, fitsFirst⟩) := by
        simp [readChar, first.addUnit? fitsFirst, isBlankChar]
      have others := ih ⟨total.nanos + worthOf part, fitsFirst⟩ (List.cons_ne_nil _ _)
        (fun p mem => countable p (List.mem_cons_of_mem _ mem)) true sum
      rw [split, List.foldlM_append, first.foldlM_part started, Option.bind_eq_bind,
        Option.bind_some, List.foldlM_cons, blank, Option.bind_eq_bind, Option.bind_some, others]
      congr 2
      rw [worthOfAll_cons part, Nat.add_assoc]

/-! ### The amounts of a span -/

/-- A unit whose name depends on how many there are. -/
lemma Countable.plural {one many : String} (single : Countable (n, one))
    (several : Countable (n, many)) : Countable (n, if n = 1 then one else many) := by
  split
  · exact single
  · exact several

lemma worthOf_plural {one many : String} (same : worthOf (n, one) = worthOf (n, many)) :
    worthOf (n, if n = 1 then one else many) = worthOf (n, many) := by
  split
  · exact same
  · rfl

/-- The units of a span are known, and what there is of each can be counted. -/
lemma countable_amounts (s : Span) : ∀ part ∈ s.amounts, Countable part := by
  have most := s.seconds_lt
  have rest : s.subNanos < nanosPerSecond := Nat.mod_lt _ (by decide)
  simp only [nanosPerSecond, Word.size64] at most rest
  simp only [amounts, List.forall_mem_cons]
  refine ⟨
    .plural (.seconds ⟨rfl, by decide, by decide⟩ ?_) (.seconds ⟨rfl, by decide, by decide⟩ ?_),
    .plural (.seconds ⟨rfl, by decide, by decide⟩ ?_) (.seconds ⟨rfl, by decide, by decide⟩ ?_),
    .plural (.seconds ⟨rfl, by decide, by decide⟩ ?_) (.seconds ⟨rfl, by decide, by decide⟩ ?_),
    .seconds ⟨rfl, by decide, by decide⟩ ?_, .seconds ⟨rfl, by decide, by decide⟩ ?_,
    .seconds ⟨rfl, by decide, by decide⟩ ?_, .nanos ⟨rfl, by decide, by decide⟩ ?_ ?_,
    .nanos ⟨rfl, by decide, by decide⟩ ?_ ?_, .nanos ⟨rfl, by decide, by decide⟩ ?_ ?_,
    List.forall_mem_nil _⟩
  all_goals simp only [nanosPerSecond, Word.size64]; omega

/-- Seconds from the digits of every radix. -/
lemma seconds_digits (n : ℕ) :
    n / 31557600 * 31557600 + (n % 31557600 / 2630016 * 2630016 +
      (n % 31557600 % 2630016 / 86400 * 86400 + (n % 31557600 % 2630016 % 86400 / 3600 * 3600 +
        (n % 31557600 % 2630016 % 86400 % 3600 / 60 * 60 +
          n % 31557600 % 2630016 % 86400 % 60)))) = n := by
  omega

lemma nanos_digits (n : ℕ) : n / 1000000 * 1000000 + (n / 1000 % 1000 * 1000 + n % 1000) = n := by
  omega

/-- The amounts that spell a span are worth the span. -/
lemma worthOfAll_amounts (s : Span) : worthOfAll s.amounts = s.nanos := by
  have years (n : ℕ) : worthOf (n, if n = 1 then "year" else "years") =
      n * (31557600 * nanosPerSecond) := worthOf_plural rfl
  have months (n : ℕ) : worthOf (n, if n = 1 then "month" else "months") =
      n * (2630016 * nanosPerSecond) := worthOf_plural rfl
  have days (n : ℕ) : worthOf (n, if n = 1 then "day" else "days") =
      n * (86400 * nanosPerSecond) := worthOf_plural rfl
  have hours (n : ℕ) : worthOf (n, "h") = n * (3600 * nanosPerSecond) := rfl
  have minutes (n : ℕ) : worthOf (n, "m") = n * (60 * nanosPerSecond) := rfl
  have seconds (n : ℕ) : worthOf (n, "s") = n * (1 * nanosPerSecond) := rfl
  have millis (n : ℕ) : worthOf (n, "ms") = n * 1000000 := rfl
  have micros (n : ℕ) : worthOf (n, "us") = n * 1000 := rfl
  have nanos (n : ℕ) : worthOf (n, "ns") = n * 1 := rfl
  have whole : s.seconds * nanosPerSecond + s.subNanos = s.nanos := Nat.div_add_mod' ..
  rw [amounts, ← whole]
  simp only [worthOfAll_cons, worthOfAll_nil, years, months, days, hours, minutes, seconds, millis,
    micros, nanos]
  generalize nanosPerSecond = second, s.subNanos = rest, s.seconds = n
  conv_rhs => rw [← seconds_digits n, ← nanos_digits rest]
  ring

/-- What there is none of is worth nothing. -/
lemma worthOfAll_filter (parts : List (ℕ × String)) :
    worthOfAll (parts.filter (·.1 ≠ 0)) = worthOfAll parts := by
  induction parts with
  | nil => rfl
  | cons part parts ih =>
    by_cases none : part.1 = 0
    · have worthless : worthOf part = 0 := by
        rw [worthOf, none]
        split <;> simp
      rw [List.filter_cons_of_neg (by simpa using none), ih, worthOfAll_cons, worthless,
        Nat.zero_add]
    · rw [List.filter_cons_of_pos (by simpa using none), worthOfAll_cons, worthOfAll_cons, ih]

/-- The characters that a span is spelled with. -/
lemma toList_spelled {s : Span} {parts : List (ℕ × String)}
    (some : s.amounts.filter (·.1 ≠ 0) = parts) (more : parts ≠ []) :
    s.spelled.toList = partsChars parts := by
  have chars (part : ℕ × String) : (toString part.1 ++ part.2).toList = partChars part := by
    rw [String.toList_append, Nat.toString_eq_repr, Nat.toList_repr]
    rfl
  cases parts with
  | nil => exact absurd rfl more
  | cons part parts =>
    rw [spelled, some, String.toList_intercalate, List.map_map, partsChars]
    exact congrArg _ (List.map_congr_left fun part _ => chars part)

/-- The text of a span is read as that span. -/
theorem read?_spelled (s : Span) : read? s.spelled = some s := by
  have sum := (worthOfAll_filter s.amounts).trans s.worthOfAll_amounts
  by_cases more : s.amounts.filter (·.1 ≠ 0) = []
  · have zero : s = ⟨0, by decide⟩ := by
      obtain ⟨nanos, _⟩ := s
      rw [more] at sum
      obtain rfl : 0 = nanos := sum
      rfl
    rw [zero]
    decide
  · have chars := toList_spelled rfl more
    have countable : ∀ part ∈ s.amounts.filter (·.1 ≠ 0), Countable part := fun part mem =>
      s.countable_amounts part (List.mem_of_mem_filter mem)
    have fits : 0 + worthOfAll (s.amounts.filter (·.1 ≠ 0)) < Word.size64 * nanosPerSecond := by
      rw [sum, Nat.zero_add]
      exact s.nanos_lt
    have read := read_parts ⟨0, by decide⟩ more countable false fits
    have unit : s.spelled ≠ "0" := by
      intro zero
      rw [← chars, zero] at read
      exact absurd read nofun
    rw [read?, if_neg unit, chars, read]
    congr 2
    rw [sum, Nat.zero_add]

end LinkGauge.Span
