import LinkGauge.Json.Scan
import LinkGauge.Json.Value
import LinkGauge.Proofs.Answers
import LinkGauge.Proofs.Decimal.Shortest
import LinkGauge.Proofs.Text.Digits

/-!
# Numbers of a JSON text

Whatever number is written, the scanner takes all of its text and nothing else, and finds a number
in it, or that it is beyond every double.
-/

namespace LinkGauge.Json

open Text (Ends takeWhile_run dropWhile_run)
open Utf8 (octets)

/-! ### What ends a number -/

/-- An octet that a number may go on with. -/
def goesOn (b : UInt8) : Bool := isDigit b || b == 0x2E || b == 0x65 || b == 0x45

/-- No digits follow where no number goes on. -/
lemma ends_isDigit {rest : Bytes} (h : Ends goesOn rest) : Ends isDigit rest := by
  intro b mem
  have none := h b mem
  simp only [goesOn, Bool.or_eq_false_iff] at none
  exact none.1.1.1

/-- A node that is a number, be it one beyond every double. -/
inductive Numeric : Node → Prop where
  | number (n : Number) : Numeric (.number n)
  | beyond : Numeric .beyond

lemma numeric_realNode (negative : Bool) (n : ℕ) (e : ℤ) : Numeric (realNode negative n e) := by
  simp only [realNode]
  cases Decimal.signed? negative n e with
  | some x => exact .number _
  | none => exact .beyond

lemma numeric_integerNode (negative : Bool) (n : ℕ) : Numeric (integerNode negative n) := by
  simp only [integerNode]
  by_cases natural : (!negative && n < Word.size64) = true
  · rw [if_pos natural]
    exact .number _
  · rw [if_neg natural]
    by_cases integer : (negative && n != 0 && n ≤ Word.half64) = true
    · rw [if_pos integer]
      exact .number _
    · rw [if_neg integer]
      exact numeric_realNode negative n 0

/-! ### Digits before the point -/

/-- Digits of a whole number: at least one, and no zero in front of others. -/
structure IsWhole (ds : Bytes) : Prop where
  digits : ∀ b ∈ ds, isDigit b
  head : ds = [0x30] ∨ ∃ b rest, ds = b :: rest ∧ b ≠ 0x30

/-- What follows the digits before the point ends them, and is taken up to where the number ends. -/
structure IsTail (tail : Bytes) : Prop where
  ends : ∀ rest, Ends goesOn rest → Ends isDigit (tail ++ rest)
  scan : ∀ negative whole, ∃ n, Numeric n ∧ ∀ rest, Ends goesOn rest →
    scanFraction negative whole (tail ++ rest) = (n, rest)

/-- The digits before the point are taken. -/
lemma scanNumber_whole {whole : Bytes} (h : IsWhole whole) (negative : Bool) {rest : Bytes}
    (ends : Ends isDigit rest) :
    scanNumber negative (whole ++ rest) = scanFraction negative whole rest := by
  rcases h with ⟨digits, rfl | ⟨b, more, rfl, nonzero⟩⟩
  · cases rest with
    | nil => rfl
    | cons d rest =>
      have stop : isDigit d = false := ends d rfl
      rw [List.singleton_append, scanNumber.eq_def]
      simp [stop]
  · have digit : isDigit b := digits b (List.mem_cons_self ..)
    have take := takeWhile_run digits ends
    have drop := dropWhile_run digits ends
    rw [List.cons_append] at take drop ⊢
    rw [scanNumber.eq_def]
    simp [nonzero, digit, take, drop]

/-! ### Fraction and exponent -/

/-- Digits that nothing belongs to are an integer. -/
lemma scanFraction_end (negative : Bool) (whole : Bytes) {rest : Bytes} (ends : Ends goesOn rest) :
    scanFraction negative whole rest = (integerNode negative (digitsValue whole), rest) := by
  cases rest with
  | nil => rfl
  | cons b rest =>
    have stop : goesOn b = false := ends b rfl
    simp only [goesOn, Bool.or_eq_false_iff] at stop
    rw [scanFraction.eq_def]
    simp [stop]

lemma isTail_nil : IsTail [] := by
  refine ⟨fun rest ends => ends_isDigit ends, ?_⟩
  intro negative whole
  exact ⟨_, numeric_integerNode negative (digitsValue whole), fun rest ends =>
    scanFraction_end negative whole ends⟩

/-- An exponent with a sign. -/
lemma scanExponent_digits {es : Bytes} (digits : ∀ b ∈ es, isDigit b) (some : es ≠ []) (s : Bool)
    {rest : Bytes} (ends : Ends isDigit rest) :
    scanExponent ((if s then 0x2D else 0x2B) :: (es ++ rest)) =
      .ok (if s then -(digitsValue es : ℤ) else digitsValue es, rest) := by
  have take := takeWhile_run digits ends
  have drop := dropWhile_run digits ends
  cases s <;> simp [scanExponent, take, drop, some]

lemma isTail_exponent {es : Bytes} (digits : ∀ b ∈ es, isDigit b) (some : es ≠ []) (s : Bool) :
    IsTail (0x65 :: (if s then 0x2D else 0x2B) :: es) := by
  refine ⟨fun rest _ => Text.ends_cons (by decide), ?_⟩
  intro negative whole
  refine ⟨_, numeric_realNode negative (digitsValue whole)
    (if s then -(digitsValue es : ℤ) else digitsValue es), ?_⟩
  intro rest ends
  have exponent := scanExponent_digits digits some s (ends_isDigit ends)
  rw [List.cons_append, List.cons_append, scanFraction.eq_def]
  simp [exponent]

/-- Digits behind the point that no exponent follows. -/
lemma scanFraction_places {fs : Bytes} (digits : ∀ b ∈ fs, isDigit b) (some : fs ≠ [])
    (negative : Bool) (whole : Bytes) {rest : Bytes} (ends : Ends goesOn rest) :
    scanFraction negative whole (0x2E :: (fs ++ rest)) =
      (realNode negative (digitsValue (whole ++ fs)) (-(fs.length : ℤ)), rest) := by
  have take := takeWhile_run digits (ends_isDigit ends)
  have drop := dropWhile_run digits (ends_isDigit ends)
  rw [scanFraction.eq_def]
  cases rest with
  | nil =>
    rw [List.append_nil] at take drop ⊢
    simp [take, drop, some]
  | cons b rest =>
    have stop : goesOn b = false := ends b rfl
    simp only [goesOn, Bool.or_eq_false_iff] at stop
    simp [take, drop, some, stop]

lemma isTail_fraction {fs : Bytes} (digits : ∀ b ∈ fs, isDigit b) (some : fs ≠ []) :
    IsTail (0x2E :: fs) := by
  refine ⟨fun rest _ => Text.ends_cons (by decide), ?_⟩
  intro negative whole
  exact ⟨_, numeric_realNode negative (digitsValue (whole ++ fs)) (-(fs.length : ℤ)),
    fun rest ends => scanFraction_places digits some negative whole ends⟩

lemma isTail_fractionExponent {fs es : Bytes} (fdigits : ∀ b ∈ fs, isDigit b) (fsome : fs ≠ [])
    (edigits : ∀ b ∈ es, isDigit b) (esome : es ≠ []) (s : Bool) :
    IsTail (0x2E :: (fs ++ 0x65 :: (if s then 0x2D else 0x2B) :: es)) := by
  refine ⟨fun rest _ => Text.ends_cons (by decide), ?_⟩
  intro negative whole
  refine ⟨_, numeric_realNode negative (digitsValue (whole ++ fs))
    ((if s then -(digitsValue es : ℤ) else digitsValue es) - fs.length), ?_⟩
  intro rest ends
  have exponent := scanExponent_digits edigits esome s (ends_isDigit ends)
  have mark : Ends isDigit (0x65 :: (if s then 0x2D else 0x2B) :: (es ++ rest)) :=
    Text.ends_cons (by decide)
  have take := takeWhile_run fdigits mark
  have drop := dropWhile_run fdigits mark
  rw [List.cons_append, List.append_assoc, List.cons_append, List.cons_append, scanFraction.eq_def]
  simp [take, drop, fsome, exponent]

/-! ### Whole numerals -/

/-- A number without a sign. -/
def IsNumeral (bs : Bytes) : Prop :=
  ∃ whole tail, IsWhole whole ∧ IsTail tail ∧ bs = whole ++ tail

/-- The scanner takes a numeral and finds a number. -/
def Spells (bs : Bytes) (n : Node) : Prop :=
  ∀ rest, Ends goesOn rest → scanSimple (bs ++ rest) = (n, rest)

/-- A text that stands alone is taken to its end. -/
lemma Spells.alone {bs : Bytes} {n : Node} (h : Spells bs n) : scanSimple bs = (n, []) := by
  have scan := h [] Text.ends_nil
  rwa [List.append_nil] at scan

lemma IsWhole.exists_cons {ds : Bytes} (h : IsWhole ds) :
    ∃ b rest, ds = b :: rest ∧ isDigit b := by
  rcases h with ⟨digits, rfl | ⟨b, rest, rfl, -⟩⟩
  · exact ⟨_, _, rfl, by decide⟩
  · exact ⟨_, _, rfl, digits b (List.mem_cons_self ..)⟩

/-- A digit begins no other value. -/
lemma scanSimple_digit {b : UInt8} (digit : isDigit b) (rest : Bytes) :
    scanSimple (b :: rest) = scanNumber false (b :: rest) := by
  have quote : b ≠ 0x22 := by
    rintro rfl
    exact absurd digit (by decide)
  have minus : b ≠ 0x2D := by
    rintro rfl
    exact absurd digit (by decide)
  rw [scanSimple.eq_def]
  simp [quote, minus, digit]

lemma IsNumeral.spells {bs : Bytes} (h : IsNumeral bs) : ∃ n, Numeric n ∧ Spells bs n := by
  obtain ⟨whole, tail, hwhole, htail, rfl⟩ := h
  obtain ⟨n, numeric, scan⟩ := htail.scan false whole
  refine ⟨n, numeric, ?_⟩
  intro rest ends
  obtain ⟨b, more, eq, digit⟩ := hwhole.exists_cons
  have number := scanNumber_whole hwhole false (htail.ends rest ends)
  rw [scan rest ends, eq, List.cons_append] at number
  rw [List.append_assoc, eq, List.cons_append, scanSimple_digit digit, number]

lemma IsNumeral.spells_negative {bs : Bytes} (h : IsNumeral bs) :
    ∃ n, Numeric n ∧ Spells (0x2D :: bs) n := by
  obtain ⟨whole, tail, hwhole, htail, rfl⟩ := h
  obtain ⟨n, numeric, scan⟩ := htail.scan true whole
  refine ⟨n, numeric, ?_⟩
  intro rest ends
  have number := scanNumber_whole hwhole true (htail.ends rest ends)
  rw [List.cons_append, List.append_assoc, scanSimple.eq_def]
  simp [number, scan rest ends]

/-! ### Written digits -/

/-- The characters of digits before the point. -/
structure WholeChars (ds : List Char) : Prop where
  digits : ∀ c ∈ ds, c.isDigit
  head : ds = ['0'] ∨ ∃ c rest, ds = c :: rest ∧ c ≠ '0'

lemma wholeChars_zero : WholeChars ['0'] := ⟨List.forall_mem_singleton.mpr rfl, .inl rfl⟩

lemma isDigit_octets {ds : List Char} (h : ∀ c ∈ ds, c.isDigit) :
    ∀ b ∈ octets ds, isDigit b := by
  intro b mem
  rw [Text.octets_digits h, List.mem_map] at mem
  obtain ⟨c, inside, rfl⟩ := mem
  rw [isDigit, Bool.and_eq_true, decide_eq_true_eq, decide_eq_true_eq, UInt8.le_iff_toNat_le,
    UInt8.le_iff_toNat_le, Utf8.toNat_ascii (Text.ascii_of_isDigit (h c inside))]
  exact Text.toNat_of_isDigit (h c inside)

lemma octets_ne_nil {ds : List Char} (digits : ∀ c ∈ ds, c.isDigit) (some : ds ≠ []) :
    octets ds ≠ [] := by
  rw [Text.octets_digits digits]
  simpa using some

lemma WholeChars.isWhole {ds : List Char} (h : WholeChars ds) : IsWhole (octets ds) := by
  refine ⟨isDigit_octets h.digits, ?_⟩
  rcases h.head with rfl | ⟨c, rest, rfl, nonzero⟩
  · exact .inl (by decide)
  · right
    have digit := h.digits c (List.mem_cons_self ..)
    rw [Text.octets_digits h.digits]
    refine ⟨_, _, rfl, ?_⟩
    intro zero
    apply nonzero
    rw [← UInt8.toNat_inj, Utf8.toNat_ascii (Text.ascii_of_isDigit digit)] at zero
    exact Char.toNat_inj.mp zero

/-- The characters of a digit that is not zero, and digits behind it. -/
structure LeadingChars (ds : List Char) : Prop where
  digits : ∀ c ∈ ds, c.isDigit
  head : ∃ c rest, ds = c :: rest ∧ c ≠ '0'

lemma leadingChars_digits {n : ℕ} (pos : 0 < n) : LeadingChars (Nat.toDigits 10 n) := by
  refine ⟨fun c mem => Text.isDigit_of_mem_digits mem, ?_⟩
  have head := Text.head_digits_ne pos
  cases h : Nat.toDigits 10 n with
  | nil => exact absurd h Nat.toDigits_ne_nil
  | cons c rest =>
    rw [h] at head
    exact ⟨c, rest, rfl, fun zero => head (congrArg some zero)⟩

/-- A natural number is written without zeros in front. -/
lemma wholeChars_digits (n : ℕ) : WholeChars (Nat.toDigits 10 n) := by
  by_cases pos : 0 < n
  · obtain ⟨digits, head⟩ := leadingChars_digits pos
    exact ⟨digits, .inr head⟩
  · obtain rfl : n = 0 := by omega
    exact ⟨fun c mem => Text.isDigit_of_mem_digits mem, .inl (Nat.toDigits_zero 10)⟩

lemma isNumeral_digits (n : ℕ) : IsNumeral (octets (Decimal.digitChars n)) :=
  ⟨_, _, (wholeChars_digits n).isWhole, isTail_nil, (List.append_nil _).symm⟩

/-! ### Written doubles -/

open Decimal (Style positional scientific digitChars)

lemma octets_point : octets ['.'] = [0x2E] := by decide

/-- Zeros are digits. -/
lemma isDigit_of_mem_zeros {n : ℕ} {c : Char} (mem : c ∈ List.replicate n '0') : c.isDigit := by
  obtain rfl := List.eq_of_mem_replicate mem
  decide

lemma isNumeral_fraction (whole : List Char) {fs : List Char} (hwhole : WholeChars whole)
    (digits : ∀ c ∈ fs, c.isDigit) (some : fs ≠ []) :
    IsNumeral (octets (whole ++ '.' :: fs)) := by
  refine ⟨_, _, hwhole.isWhole,
    isTail_fraction (isDigit_octets digits) (octets_ne_nil digits some), ?_⟩
  rw [Utf8.octets_append, Utf8.octets_cons, Utf8.encodeChar_ascii (by simp)]
  rfl

/-- A number written with its point where it belongs. -/
lemma isNumeral_positional {ds : List Char} (h : LeadingChars ds) (point : ℤ) :
    IsNumeral (octets (positional ds point true)) := by
  obtain ⟨digits, c, rest, rfl, nonzero⟩ := h
  simp only [positional]
  by_cases below : point ≤ 0
  · rw [if_pos below]
    apply isNumeral_fraction ['0']
    · exact wholeChars_zero
    · intro d mem
      rcases List.mem_append.mp mem with zero | inside
      · exact isDigit_of_mem_zeros zero
      · exact digits d inside
    · simp
  · rw [if_neg below]
    obtain ⟨k, hk⟩ : ∃ k, point.toNat = k + 1 := ⟨point.toNat - 1, by omega⟩
    have whole : WholeChars ((c :: rest).take point.toNat ++
        List.replicate (point.toNat - (c :: rest).length) '0') := by
      refine ⟨?_, .inr ?_⟩
      · intro d mem
        rcases List.mem_append.mp mem with inside | zero
        · exact digits d (List.mem_of_mem_take inside)
        · exact isDigit_of_mem_zeros zero
      · rw [hk, List.take_succ_cons, List.cons_append]
        exact ⟨_, _, rfl, nonzero⟩
    cases fraction : (c :: rest).drop point.toNat with
    | nil =>
      simp only [if_true]
      exact isNumeral_fraction _ whole wholeChars_zero.1 (List.cons_ne_nil _ _)
    | cons f fs =>
      refine isNumeral_fraction _ whole ?_ (List.cons_ne_nil f fs)
      intro d mem
      rw [← fraction] at mem
      exact digits d (List.mem_of_mem_drop mem)

/-- A number written with an exponent. -/
lemma isNumeral_scientific {ds : List Char} (h : LeadingChars ds) (leading : ℤ) :
    IsNumeral (octets (scientific ds leading)) := by
  obtain ⟨digits, c, rest, rfl, nonzero⟩ := h
  have whole : WholeChars [c] := by
    refine ⟨?_, .inr ⟨c, [], rfl, nonzero⟩⟩
    intro d mem
    exact digits d (List.mem_singleton.mp mem ▸ List.mem_cons_self ..)
  have es : ∀ d ∈ digitChars leading.natAbs, d.isDigit := fun d mem =>
    Text.isDigit_of_mem_digits mem
  have esome := octets_ne_nil es Nat.toDigits_ne_nil
  have mark : octets ['e', if leading < 0 then '-' else '+'] =
      [0x65, if decide (leading < 0) then 0x2D else 0x2B] := by
    by_cases negative : leading < 0
    · simp only [negative, if_true, decide_true]
      decide
    · simp only [negative, if_false, decide_false]
      decide
  simp only [scientific]
  cases rest with
  | nil =>
    refine ⟨_, _, whole.isWhole,
      isTail_exponent (isDigit_octets es) esome (decide (leading < 0)), ?_⟩
    change octets ([c] ++ (['e', if leading < 0 then '-' else '+'] ++ _)) = _
    rw [Utf8.octets_append, Utf8.octets_append, mark]
    rfl
  | cons f fs =>
    have fdigits : ∀ d ∈ f :: fs, d.isDigit := fun d mem =>
      digits d (List.mem_cons_of_mem _ mem)
    refine ⟨_, _, whole.isWhole,
      isTail_fractionExponent (isDigit_octets fdigits)
        (octets_ne_nil fdigits (List.cons_ne_nil f fs)) (isDigit_octets es) esome
        (decide (leading < 0)), ?_⟩
    have parts : c :: '.' :: (f :: fs) ++ 'e' :: (if leading < 0 then '-' else '+') ::
          digitChars leading.natAbs =
        [c] ++ (['.'] ++ ((f :: fs) ++ (['e', if leading < 0 then '-' else '+'] ++
          digitChars leading.natAbs))) := by simp
    rw [parts, Utf8.octets_append, Utf8.octets_append, Utf8.octets_append, Utf8.octets_append,
      mark, octets_point]
    rfl

lemma isNumeral_writeDigits {d : Decimal.Digits} (pos : 0 < d.digits) :
    IsNumeral (octets (Style.json.writeDigits d)) := by
  simp only [Style.writeDigits]
  have leading := leadingChars_digits pos
  by_cases near : Style.json.least ≤ d.exponent + (digitChars d.digits).length - 1 ∧
      d.exponent + (digitChars d.digits).length - 1 ≤ Style.json.greatest
  · simp only [near]
    exact isNumeral_positional leading _
  · simp only [near]
    exact isNumeral_scientific leading _

/-- A numeral, perhaps behind a minus sign. -/
lemma spells_signed {bs : Bytes} (h : IsNumeral bs) (negative : Bool) :
    ∃ n, Numeric n ∧ Spells (if negative then 0x2D :: bs else bs) n := by
  cases negative with
  | false => exact h.spells
  | true => exact h.spells_negative

/-- A double that is a number is written as a numeral. -/
lemma octets_write_finite {x : Float} {b : Decimal.Binary} (h : Decimal.classify x = .finite b) :
    ∃ bs, IsNumeral bs ∧
      octets (Style.json.write x).toList = if b.negative then 0x2D :: bs else bs := by
  have numeral : IsNumeral (octets
      (if b.significand = 0 then ['0', '.', '0'] else Style.json.writeDigits b.shortest)) := by
    by_cases zero : b.significand = 0
    · rw [if_pos zero]
      exact isNumeral_fraction ['0'] wholeChars_zero wholeChars_zero.1 (List.cons_ne_nil _ _)
    · rw [if_neg zero]
      exact isNumeral_writeDigits
        (Decimal.Binary.shortest_pos (Decimal.isDouble_of_classify h) (Nat.pos_of_ne_zero zero))
  refine ⟨_, numeral, ?_⟩
  simp only [Style.write, h, String.toList_ofList]
  cases b.negative with
  | false => simp [Style.json]
  | true => simp [Style.json, Utf8.encodeChar_ascii]

/-- The scanner takes every written number. What is not finite is written as null. -/
theorem spells_writeNumber (n : Number) :
    ∃ node, (Numeric node ∨ node = .null) ∧ Spells (octets (writeNumber n)) node := by
  cases n with
  | natural n =>
    obtain ⟨node, numeric, spells⟩ := (isNumeral_digits n.toNat).spells
    exact ⟨node, .inl numeric, spells⟩
  | negative n =>
    obtain ⟨node, numeric, spells⟩ := (isNumeral_digits n.toInt.natAbs).spells_negative
    refine ⟨node, .inl numeric, ?_⟩
    rw [writeNumber, Utf8.octets_cons, Utf8.encodeChar_ascii (by simp)]
    exact spells
  | real x =>
    have null : Spells (octets "null".toList) .null := by
      intro rest _
      rfl
    rw [writeNumber]
    cases h : Decimal.classify x with
    | nan =>
      simp only [Style.write, h]
      exact ⟨_, .inr rfl, null⟩
    | infinite negative =>
      simp only [Style.write, h]
      exact ⟨_, .inr rfl, null⟩
    | finite b =>
      obtain ⟨bs, numeral, eq⟩ := octets_write_finite h
      obtain ⟨node, numeric, spells⟩ := spells_signed numeral b.negative
      rw [eq]
      exact ⟨node, .inl numeric, spells⟩

/-! ### What a written number is read as -/

/-- The node of a written number. -/
def spelledNumber (n : Number) : Node := (scanSimple (octets (writeNumber n))).1

lemma scanSimple_writeNumber (n : Number) {rest : Bytes} (ends : Ends goesOn rest) :
    scanSimple (octets (writeNumber n) ++ rest) = (spelledNumber n, rest) := by
  obtain ⟨node, -, spells⟩ := spells_writeNumber n
  rw [spells rest ends, spelledNumber, spells.alone]

lemma spelledNumber_cases (n : Number) : Numeric (spelledNumber n) ∨ spelledNumber n = .null := by
  obtain ⟨node, kind, spells⟩ := spells_writeNumber n
  rw [spelledNumber, spells.alone]
  exact kind

/-- Nobody who passes over a written number meets a fault. -/
lemma skipFault?_spelledNumber (n : Number) : (spelledNumber n).skipFault? = none := by
  rcases spelledNumber_cases n with numeric | null
  · generalize spelledNumber n = node at numeric
    cases numeric with
    | number _ => rfl
    | beyond => rfl
  · rw [null]
    rfl

/-! ### Integers -/

/-- The digits of a number are worth that number. -/
lemma digitsValue_digits (n : ℕ) : digitsValue (octets (Decimal.digitChars n)) = n := by
  have worth (ds : List Char) (h : ∀ c ∈ ds, c.isDigit) (start : ℕ) :
      (octets ds).foldl (fun n b => n * 10 + (b.toNat - 0x30)) start =
        Nat.ofDigitChars 10 ds start := by
    rw [Text.octets_digits h, Nat.ofDigitChars_eq_foldl]
    induction ds generalizing start with
    | nil => rfl
    | cons d ds ih =>
      have value := Utf8.toNat_ascii (Text.ascii_of_isDigit (h d (List.mem_cons_self ..)))
      rw [List.map_cons, List.foldl_cons, List.foldl_cons,
        ih fun c mem => h c (List.mem_cons_of_mem _ mem), value, Nat.mul_comm start 10]
      rfl
  rw [Decimal.digitChars, digitsValue, worth _ (fun c mem => Text.isDigit_of_mem_digits mem)]
  exact Nat.ofDigitChars_ten_toDigits

/-- Digits behind a sign are an integer. -/
lemma scanNumber_digits (negative : Bool) (n : ℕ) :
    scanNumber negative (octets (Decimal.digitChars n)) = (integerNode negative n, []) := by
  have scan := scanNumber_whole (wholeChars_digits n).isWhole negative (Text.ends_nil (α := UInt8))
  rw [scanFraction_end _ _ Text.ends_nil, List.append_nil] at scan
  rw [Decimal.digitChars, scan]
  exact congrArg (fun m => (integerNode negative m, [])) (digitsValue_digits n)

@[simp] lemma spelledNumber_natural (n : UInt64) :
    spelledNumber (.natural n) = .number (.natural n) := by
  obtain ⟨b, more, eq, digit⟩ := (wholeChars_digits n.toNat).isWhole.exists_cons
  have scan := scanNumber_digits false n.toNat
  rw [Decimal.digitChars, eq] at scan
  rw [spelledNumber, writeNumber, Decimal.digitChars, eq, scanSimple_digit digit, scan]
  simp only [integerNode, Bool.not_false, Bool.true_and, UInt64.ofNat_toNat]
  rw [if_pos (decide_eq_true n.toNat_lt)]

lemma spelledNumber_negative {n : Int64} (h : n < 0) :
    spelledNumber (.negative n) = .number (.negative n) := by
  have below : n.toInt < 0 := by simpa [Int64.lt_iff_toInt_lt] using h
  have least : -(Word.half64 : ℤ) ≤ n.toInt := n.le_toInt
  have fits : (true && n.toInt.natAbs != 0 && decide (n.toInt.natAbs ≤ Word.half64)) = true := by
    simp only [Bool.true_and, Bool.and_eq_true, bne_iff_ne, decide_eq_true_eq]
    omega
  have value : -(n.toInt.natAbs : ℤ) = n.toInt := by omega
  have scan : scanSimple (0x2D :: octets (Decimal.digitChars n.toInt.natAbs)) =
      scanNumber true (octets (Decimal.digitChars n.toInt.natAbs)) := by
    rw [scanSimple.eq_def]
    simp
  rw [spelledNumber, writeNumber, Utf8.octets_cons, Utf8.encodeChar_ascii (by simp)]
  change (scanSimple (0x2D :: octets _)).1 = _
  rw [scan, scanNumber_digits, integerNode, if_neg (by simp), if_pos fits, value, Int64.ofInt_toInt]

end LinkGauge.Json
