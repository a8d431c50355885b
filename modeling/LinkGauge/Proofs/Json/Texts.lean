import LinkGauge.Proofs.Document.Layouts
import LinkGauge.Proofs.Json.Rendering

/-!
# Texts of JSON documents

The grammar of JSON, with the document that each text spells. The scanner finds this document in
every such text, however spaces, escapes and numbers are written and however deep it is nested.
-/

namespace LinkGauge.Json

open Text (Ends ends_nil ends_cons takeWhile_run dropWhile_run)

/-! ### The grammar -/

/-- Octets that mean nothing between values. -/
def Space (bs : Bytes) : Prop := ∀ b ∈ bs, isSpace b

lemma space_nil : Space [] := fun _ mem => absurd mem List.not_mem_nil

/-- What stands between the quotation marks of a string. -/
inductive StringBody : Bytes → Prop where
  | nil : StringBody []
  | plain {b : UInt8} {bs : Bytes} (h : IsPlain b) (rest : StringBody bs) : StringBody (b :: bs)
  | escape {e : UInt8} {c : Char} {bs : Bytes} (h : simpleEscape? e = some c)
      (rest : StringBody bs) : StringBody (0x5C :: e :: bs)
  | unit {a b c d : UInt8} {bs : Bytes} (ha : (hexValue? a).isSome) (hb : (hexValue? b).isSome)
      (hc : (hexValue? c).isSome) (hd : (hexValue? d).isSome) (rest : StringBody bs) :
      StringBody (0x5C :: 0x75 :: a :: b :: c :: d :: bs)

/-- The text that a string spells, or what keeps it from spelling one. -/
def spelt (body : Bytes) : Except Fault String := readText (body ++ [0x22])

/-- At least one digit. -/
structure Digits (ds : Bytes) : Prop where
  digits : ∀ b ∈ ds, isDigit b
  some : ds ≠ []

/-- What follows the `e` of a number, and the exponent it stands for. -/
inductive PowerText : Bytes → ℤ → Prop where
  | unsigned {ds : Bytes} (h : Digits ds) : PowerText ds (digitsValue ds)
  | positive {ds : Bytes} (h : Digits ds) : PowerText (0x2B :: ds) (digitsValue ds)
  | negative {ds : Bytes} (h : Digits ds) : PowerText (0x2D :: ds) (-digitsValue ds)

/-- An `e` in either case. -/
def IsMark (b : UInt8) : Prop := b = 0x65 ∨ b = 0x45

/-- A number without its sign. -/
inductive NumeralText (negative : Bool) : Bytes → Node → Prop where
  | integer {whole : Bytes} (h : IsWhole whole) :
      NumeralText negative whole (integerNode negative (digitsValue whole))
  | fraction {whole ds : Bytes} (h : IsWhole whole) (places : Digits ds) :
      NumeralText negative (whole ++ 0x2E :: ds)
        (realNode negative (digitsValue (whole ++ ds)) (-ds.length))
  | power {whole power : Bytes} {mark : UInt8} {e : ℤ} (h : IsWhole whole) (marks : IsMark mark)
      (exponent : PowerText power e) :
      NumeralText negative (whole ++ mark :: power) (realNode negative (digitsValue whole) e)
  | fractionPower {whole ds power : Bytes} {mark : UInt8} {e : ℤ} (h : IsWhole whole)
      (places : Digits ds) (marks : IsMark mark) (exponent : PowerText power e) :
      NumeralText negative (whole ++ 0x2E :: (ds ++ mark :: power))
        (realNode negative (digitsValue (whole ++ ds)) (e - ds.length))

/-- What stands in front of an item or a member: a comma, unless it is the first one. -/
inductive Lead : (first : Bool) → Bytes → Prop where
  | first {ws : Bytes} (space : Space ws) : Lead true ws
  | next {ws ws' : Bytes} (space : Space ws) (space' : Space ws') : Lead false (ws ++ 0x2C :: ws')

/-- The parts of a text: values, and what follows the opening bracket of a list or an object, or
an item or a member of it. -/
inductive Part where
  | value (n : Node)
  | items (first : Bool) (ns : List Node)
  | members (first : Bool) (ms : List (Except Fault String × Node))

/-- The octets spell the part. Of the lists and objects inside each other, a reader opens no more
than `depth`. -/
inductive Phrase : (depth : ℕ) → Bytes → Part → Prop where
  | null {depth : ℕ} : Phrase depth [0x6E, 0x75, 0x6C, 0x6C] (.value .null)
  | yes {depth : ℕ} : Phrase depth [0x74, 0x72, 0x75, 0x65] (.value (.bool true))
  | no {depth : ℕ} : Phrase depth [0x66, 0x61, 0x6C, 0x73, 0x65] (.value (.bool false))
  | natural {depth : ℕ} {bs : Bytes} {n : Node} (h : NumeralText false bs n) :
      Phrase depth bs (.value n)
  | negative {depth : ℕ} {bs : Bytes} {n : Node} (h : NumeralText true bs n) :
      Phrase depth (0x2D :: bs) (.value n)
  | string {depth : ℕ} {body : Bytes} {t : String} (h : StringBody body)
      (spells : spelt body = .ok t) :
      Phrase depth (0x22 :: (body ++ [0x22])) (.value (.text (.ok t)))
  | list {depth : ℕ} {bs : Bytes} {ns : List Node} (h : Phrase (depth - 1) bs (.items true ns)) :
      Phrase depth (0x5B :: bs) (.value ((Node.list ns .closed).opened depth))
  | object {depth : ℕ} {bs : Bytes} {ms : List (Except Fault String × Node)}
      (h : Phrase (depth - 1) bs (.members true ms)) :
      Phrase depth (0x7B :: bs) (.value ((Node.object ms .closed).opened depth))
  | itemsEnd {depth : ℕ} {first : Bool} {ws : Bytes} (space : Space ws) :
      Phrase depth (ws ++ [0x5D]) (.items first [])
  | item {depth : ℕ} {first : Bool} {lead v bs : Bytes} {n : Node} {ns : List Node}
      (leads : Lead first lead) (value : Phrase depth v (.value n))
      (more : Phrase depth bs (.items false ns)) :
      Phrase depth (lead ++ (v ++ bs)) (.items first (n :: ns))
  | membersEnd {depth : ℕ} {first : Bool} {ws : Bytes} (space : Space ws) :
      Phrase depth (ws ++ [0x7D]) (.members first [])
  | member {depth : ℕ} {first : Bool} {lead body ws ws' v bs : Bytes} {key : String} {n : Node}
      {ms : List (Except Fault String × Node)} (leads : Lead first lead) (name : StringBody body)
      (spells : spelt body = .ok key) (space : Space ws) (space' : Space ws')
      (value : Phrase depth v (.value n)) (more : Phrase depth bs (.members false ms)) :
      Phrase depth (lead ++ 0x22 :: (body ++ 0x22 :: (ws ++ 0x3A :: (ws' ++ (v ++ bs)))))
        (.members first ((.ok key, n) :: ms))

/-- The octets are a text of the document: a value with space around it. -/
def IsText (raw : Bytes) (root : Node) : Prop :=
  ∃ ws bs ws', raw = ws ++ (bs ++ ws') ∧ Space ws ∧ Space ws' ∧ Phrase maxDepth bs (.value root)

/-- Two parts of one kind. -/
inductive Part.Alike : Part → Part → Prop where
  | value (n n' : Node) : Alike (.value n) (.value n')
  | items {first : Bool} (ns ns' : List Node) : Alike (.items first ns) (.items first ns')
  | members {first : Bool} (ms ms' : List (Except Fault String × Node)) :
      Alike (.members first ms) (.members first ms')

/-- Nesting takes nothing away from the grammar: what is a text at one depth is so at every
other. -/
theorem Phrase.at_every_depth {depth : ℕ} {bs : Bytes} {part : Part} (h : Phrase depth bs part)
    (depth' : ℕ) : ∃ part', part.Alike part' ∧ Phrase depth' bs part' := by
  induction h generalizing depth' with
  | null => exact ⟨_, .value _ _, .null⟩
  | yes => exact ⟨_, .value _ _, .yes⟩
  | no => exact ⟨_, .value _ _, .no⟩
  | natural h => exact ⟨_, .value _ _, .natural h⟩
  | negative h => exact ⟨_, .value _ _, .negative h⟩
  | string h spells => exact ⟨_, .value _ _, .string h spells⟩
  | list _ ih =>
    obtain ⟨_, ⟨⟩, items⟩ := ih (depth' - 1)
    exact ⟨_, .value _ _, .list items⟩
  | object _ ih =>
    obtain ⟨_, ⟨⟩, members⟩ := ih (depth' - 1)
    exact ⟨_, .value _ _, .object members⟩
  | itemsEnd space => exact ⟨_, .items _ _, .itemsEnd space⟩
  | item leads _ _ hvalue hmore =>
    obtain ⟨_, ⟨⟩, value⟩ := hvalue depth'
    obtain ⟨_, ⟨⟩, more⟩ := hmore depth'
    exact ⟨_, .items _ _, .item leads value more⟩
  | membersEnd space => exact ⟨_, .members _ _, .membersEnd space⟩
  | member leads name spells space space' _ _ hvalue hmore =>
    obtain ⟨_, ⟨⟩, value⟩ := hvalue depth'
    obtain ⟨_, ⟨⟩, more⟩ := hmore depth'
    exact ⟨_, .members _ _, .member leads name spells space space' value more⟩

/-! ### Strings -/

/-- The digits of a code unit are read, whatever follows. -/
lemma exists_hexUnit {a b c d : UInt8} (ha : (hexValue? a).isSome) (hb : (hexValue? b).isSome)
    (hc : (hexValue? c).isSome) (hd : (hexValue? d).isSome) :
    ∃ n, ∀ rest, hexUnit (a :: b :: c :: d :: rest) = .ok (n, rest) := by
  obtain ⟨x, hx⟩ := Option.isSome_iff_exists.mp ha
  obtain ⟨y, hy⟩ := Option.isSome_iff_exists.mp hb
  obtain ⟨z, hz⟩ := Option.isSome_iff_exists.mp hc
  obtain ⟨w, hw⟩ := Option.isSome_iff_exists.mp hd
  exact ⟨((x * 16 + y) * 16 + z) * 16 + w, fun rest => by simp [hexUnit, hx, hy, hz, hw]⟩

lemma StringBody.skipString {body : Bytes} (h : StringBody body) (rest : Bytes) :
    Json.skipString (body ++ 0x22 :: rest) = .ok rest := by
  induction h with
  | nil =>
    rw [List.nil_append, Json.skipString.eq_def]
    rfl
  | plain h _ ih => rw [List.cons_append, skipString_cons h, ih]
  | escape h _ ih => rw [List.cons_append, List.cons_append, skipString_simple h, ih]
  | unit ha hb hc hd _ ih =>
    obtain ⟨n, hn⟩ := exists_hexUnit ha hb hc hd
    simp only [List.cons_append]
    rw [Json.skipString.eq_def]
    simp [hn, ih]

/-- Reading an escape with a code unit goes on behind it, or behind the second one it takes. -/
lemma readString_unit {a b c d : UInt8} {n : ℕ} {rest : Bytes}
    (unit : hexUnit (a :: b :: c :: d :: rest) = .ok (n, rest)) :
    readString 0 (0x5C :: 0x75 :: a :: b :: c :: d :: rest) = (do
      let (code, more) ← codePoint n rest
      let tail ← readString more rest
      .ok (String.utf8EncodeChar (Char.ofNat code) ++ tail)) := by
  have past (more : ℕ) : readString (5 + more) (0x75 :: a :: b :: c :: d :: rest) =
      readString more rest := by
    rw [show 5 + more = more + 1 + 1 + 1 + 1 + 1 by omega]
    simp only [readString]
  rw [readString.eq_def]
  simp [unit, past]

/-- The code point of an escape depends on the string alone. -/
lemma StringBody.codePoint {body : Bytes} (h : StringBody body) (n : ℕ) (rest : Bytes) :
    Json.codePoint n (body ++ 0x22 :: rest) = Json.codePoint n (body ++ [0x22]) := by
  cases h with
  | nil => rfl
  | plain h => simp [Json.codePoint, h.2.1]
  | escape h => simp [Json.codePoint, ne_unit_of_simpleEscape h]
  | unit ha hb hc hd =>
    obtain ⟨m, hm⟩ := exists_hexUnit ha hb hc hd
    simp [Json.codePoint, hm]

/-- How many octets an escape takes of those behind it: none, or a second escape. -/
def Takes (more : ℕ) (s : Bytes) : Prop := more = 0 ∨ more = 6 ∧ ∃ s', s = 0x5C :: 0x75 :: s'

lemma takes_of_codePoint {n code more : ℕ} {s : Bytes} (h : codePoint n s = .ok (code, more)) :
    Takes more s := by
  simp only [codePoint] at h
  by_cases trail : 0xDC00 ≤ n ∧ n ≤ 0xDFFF
  · rw [if_pos trail] at h
    cases h
  rw [if_neg trail] at h
  by_cases single : n < 0xD800 ∨ 0xDBFF < n
  · rw [if_pos single] at h
    cases h
    exact .inl rfl
  rw [if_neg single] at h
  rcases s with _ | ⟨b, _ | ⟨u, s'⟩⟩
  · cases h
  · by_cases escape : b = 0x5C <;> simp [escape] at h
  by_cases escape : b = 0x5C
  · by_cases unit : u = 0x75
    · subst escape unit
      simp only [bne_self_eq_false, if_false, Bool.false_eq_true] at h
      cases second : hexUnit s' with
      | error fault => simp [second] at h
      | ok m =>
        simp only [second] at h
        split at h
        · cases h
        · cases h
          exact .inr ⟨rfl, s', rfl⟩
    · simp [escape, unit] at h
  · simp [escape] at h

/-- What a string spells does not depend on what follows its closing quotation mark, also where
reading goes on behind an escape that is taken already. -/
lemma StringBody.readString {body : Bytes} (h : StringBody body) (rest : Bytes) :
    ∀ {more : ℕ}, Takes more (body ++ [0x22]) →
      Json.readString more (body ++ 0x22 :: rest) = Json.readString more (body ++ [0x22]) := by
  induction h with
  | nil =>
    rintro more (rfl | ⟨-, s', eq⟩)
    · rfl
    · cases eq
  | @plain b bs h _ ih =>
    rintro more (rfl | ⟨-, s', eq⟩)
    · rw [List.cons_append, List.cons_append, readString_cons h, readString_cons h, ih (.inl rfl)]
    · exact absurd (List.cons.inj eq).1 h.2.1
  | escape h _ ih =>
    rintro more (rfl | ⟨-, s', eq⟩)
    · simp only [List.cons_append]
      rw [readString_simple h, readString_simple h, ih (.inl rfl)]
    · exact absurd (List.cons.inj (List.cons.inj eq).2).1 (ne_unit_of_simpleEscape h)
  | unit ha hb hc hd body ih =>
    obtain ⟨n, hn⟩ := exists_hexUnit ha hb hc hd
    simp only [List.cons_append]
    rintro more (rfl | ⟨rfl, -⟩)
    · rw [readString_unit (hn _), readString_unit (hn _), body.codePoint]
      cases point : Json.codePoint n _ with
      | error fault => rfl
      | ok answer => simp [ih (takes_of_codePoint point)]
    · simp only [Json.readString, ih (.inl rfl)]

/-- A string is scanned as what it spells. -/
theorem StringBody.scanString {body : Bytes} (h : StringBody body) (rest : Bytes) :
    Json.scanString (body ++ 0x22 :: rest) = .ok (spelt body, rest) := by
  rw [Json.scanString, h.skipString]
  simp [spelt, readText, h.readString rest (.inl rfl)]

/-! ### Numbers -/

lemma ends_mark {mark : UInt8} (h : IsMark mark) (rest : Bytes) : Ends isDigit (mark :: rest) := by
  rcases h with rfl | rfl <;> exact ends_cons (by decide)

/-- An octet that is no sign begins the digits of an exponent. -/
lemma isDigit_ne_sign {b : UInt8} (digit : isDigit b) : b ≠ 0x2B ∧ b ≠ 0x2D := by
  constructor <;> rintro rfl <;> exact absurd digit (by decide)

lemma PowerText.scanExponent {bs : Bytes} {e : ℤ} (h : PowerText bs e) {rest : Bytes}
    (ends : Ends isDigit rest) : Json.scanExponent (bs ++ rest) = .ok (e, rest) := by
  cases h with
  | unsigned h =>
    have take := takeWhile_run h.digits ends
    have drop := dropWhile_run h.digits ends
    cases bs with
    | nil => exact absurd rfl h.some
    | cons b bs =>
      obtain ⟨plus, minus⟩ := isDigit_ne_sign (h.digits b (List.mem_cons_self ..))
      rw [List.cons_append] at take drop ⊢
      simp [Json.scanExponent, plus, minus, take, drop]
  | positive h => exact scanExponent_digits h.digits h.some false ends
  | negative h => exact scanExponent_digits h.digits h.some true ends

/-- A number is taken to its end. -/
lemma NumeralText.scanNumber {negative : Bool} {bs : Bytes} {n : Node}
    (h : NumeralText negative bs n) {rest : Bytes} (ends : Ends goesOn rest) :
    Json.scanNumber negative (bs ++ rest) = (n, rest) := by
  have stop := ends_isDigit ends
  cases h with
  | integer h => rw [scanNumber_whole h negative stop, scanFraction_end negative _ ends]
  | fraction h places =>
    rw [List.append_assoc, List.cons_append, scanNumber_whole h negative (ends_cons (by decide)),
      scanFraction_places places.digits places.some negative _ ends]
  | power h marks exponent =>
    rw [List.append_assoc, List.cons_append, scanNumber_whole h negative (ends_mark marks _),
      scanFraction.eq_def]
    rcases marks with rfl | rfl <;> simp [exponent.scanExponent stop]
  | @fractionPower whole ds power mark e h places marks exponent =>
    have take := takeWhile_run places.digits (ends_mark marks (power ++ rest))
    have drop := dropWhile_run places.digits (ends_mark marks (power ++ rest))
    rw [List.append_assoc, List.cons_append, List.append_assoc, List.cons_append,
      scanNumber_whole h negative (ends_cons (by decide)), scanFraction.eq_def]
    rcases marks with rfl | rfl <;> simp [take, drop, places.some, exponent.scanExponent stop]

lemma NumeralText.exists_cons {negative : Bool} {bs : Bytes} {n : Node}
    (h : NumeralText negative bs n) : ∃ b more, bs = b :: more ∧ isDigit b := by
  have append {whole : Bytes} (h : IsWhole whole) (tail : Bytes) :
      ∃ b more, whole ++ tail = b :: more ∧ isDigit b := by
    obtain ⟨b, more, rfl, digit⟩ := h.exists_cons
    exact ⟨b, more ++ tail, rfl, digit⟩
  cases h with
  | integer h => exact h.exists_cons
  | fraction h _ => exact append h _
  | power h _ _ => exact append h _
  | fractionPower h _ _ _ => exact append h _

/-- A number is a number, or beyond every double. -/
lemma NumeralText.numeric {negative : Bool} {bs : Bytes} {n : Node}
    (h : NumeralText negative bs n) : Numeric n := by
  cases h with
  | integer h => exact numeric_integerNode negative _
  | fraction h _ => exact numeric_realNode negative _ _
  | power h _ _ => exact numeric_realNode negative _ _
  | fractionPower h _ _ _ => exact numeric_realNode negative _ _

lemma Numeric.faultless {n : Node} (h : Numeric n) : n.Faultless := by
  cases h with
  | number x => exact .number x
  | beyond => exact .beyond

lemma NumeralText.spells {bs : Bytes} {n : Node} (h : NumeralText false bs n) : Spells bs n := by
  intro rest ends
  have number := h.scanNumber ends
  obtain ⟨b, more, rfl, digit⟩ := h.exists_cons
  rw [List.cons_append] at number ⊢
  rw [scanSimple_digit digit, number]

lemma NumeralText.spells_negative {bs : Bytes} {n : Node} (h : NumeralText true bs n) :
    Spells (0x2D :: bs) n := by
  intro rest ends
  rw [List.cons_append, scanSimple.eq_def]
  simp [h.scanNumber ends]

/-! ### Space between values -/

section Space

variable {fuel depth : ℕ} {first : Bool} {ws lead s after : Bytes}

lemma skipSpace_append (space : Space ws) : skipSpace (ws ++ s) = skipSpace s :=
  List.dropWhile_append_of_pos space

lemma scanValue_space (space : Space ws) :
    scanValue fuel depth (ws ++ s) = scanValue fuel depth s := by
  cases fuel with
  | zero => simp only [scanValue]
  | succ fuel => simp only [scanValue, skipSpace_append space]

lemma scanItems_space (space : Space ws) :
    scanItems fuel depth first (ws ++ s) = scanItems fuel depth first s := by
  cases fuel with
  | zero => simp only [scanItems]
  | succ fuel => simp only [scanItems, skipSpace_append space]

lemma scanMembers_space (space : Space ws) :
    scanMembers fuel depth first (ws ++ s) = scanMembers fuel depth first s := by
  cases fuel with
  | zero => simp only [scanMembers]
  | succ fuel => simp only [scanMembers, skipSpace_append space]

/-- An item is scanned behind what stands in front of it. -/
lemma scanItems_lead (leads : Lead first lead) (begins : Begins s) :
    scanItems (fuel + 1) depth first (lead ++ s) = scanItem fuel depth s := by
  cases leads with
  | first space => rw [scanItems_space space, scanItems_first begins]
  | @next ws ws' space space' =>
    have comma : skipSpace (0x2C :: (ws' ++ s)) = 0x2C :: (ws' ++ s) := rfl
    rw [List.append_assoc, List.cons_append, scanItems_space space, ← scanItems_comma begins]
    simp only [scanItems, comma, skipSpace_append space']
    rfl

/-- A member is scanned behind what stands in front of it. -/
lemma scanMembers_lead (leads : Lead first lead) :
    scanMembers (fuel + 1) depth first (lead ++ 0x22 :: s) = scanMember fuel depth s := by
  cases leads with
  | first space => rw [scanMembers_space space, scanMembers_first]
  | @next ws ws' space space' =>
    have comma : skipSpace (0x2C :: (ws' ++ 0x22 :: s)) = 0x2C :: (ws' ++ 0x22 :: s) := rfl
    rw [List.append_assoc, List.cons_append, scanMembers_space space, ← scanMembers_comma]
    simp only [scanMembers, comma, skipSpace_append space']
    rfl

/-- A member is scanned with space on both sides of its colon. -/
lemma scanMember_space {key : Except Fault String} {n : Node} {rest : Bytes}
    {members : List (Except Fault String × Node)} {ending : Ending} {after' : Bytes}
    (name : scanString s = .ok (key, ws ++ 0x3A :: after)) (space : Space ws)
    (value : scanValue fuel depth after = (n, after'))
    (more : scanMembers fuel depth false after' = (members, ending, rest)) :
    scanMember (fuel + 1) depth s = ((key, n) :: members, ending, rest) := by
  have colon : skipSpace (ws ++ 0x3A :: after) = 0x3A :: after := skipSpace_append space
  rw [scanMember, name]
  simp [colon, value, more]

/-- No number goes on with space. -/
lemma ends_space (space : Space ws) (ends : Ends goesOn s) : Ends goesOn (ws ++ s) := by
  cases ws with
  | nil => exact ends
  | cons b ws =>
    have blank := space b (List.mem_cons_self ..)
    simp only [isSpace, Bool.or_eq_true, beq_iff_eq] at blank
    apply ends_cons
    rcases blank with ((rfl | rfl) | rfl) | rfl <;> decide

lemma Lead.ends (leads : Lead false lead) (s : Bytes) : Ends goesOn (lead ++ s) := by
  cases leads with
  | next space _ =>
    rw [List.append_assoc]
    exact ends_space space (ends_cons (by decide))

end Space

/-! ### Phrases -/

/-- The scanner finds the part in the octets, whatever follows them. The fuel is measured by their
number. -/
def Part.Scanned (depth : ℕ) (bs : Bytes) : Part → Prop
  | .value n => ∀ {fuel rest}, 3 * bs.length ≤ fuel → Ends goesOn rest →
      scanValue fuel depth (bs ++ rest) = (n, rest)
  | .items first ns => ∀ {fuel rest}, 3 * bs.length ≤ fuel + 1 →
      scanItems fuel depth first (bs ++ rest) = (ns, .closed, rest)
  | .members first ms => ∀ {fuel rest}, 3 * bs.length ≤ fuel + 1 →
      scanMembers fuel depth first (bs ++ rest) = (ms, .closed, rest)

/-- The values of the part are faultless. -/
def Part.Faultless : Part → Prop
  | .value n => n.Faultless
  | .items _ ns => ∀ n ∈ ns, n.Faultless
  | .members _ ms => (∀ m ∈ ms, ∃ key, m.1 = .ok key) ∧ ∀ m ∈ ms, m.2.Faultless

/-- What a text spells is faultless. -/
theorem Phrase.faultless {depth : ℕ} {bs : Bytes} {part : Part} (h : Phrase depth bs part) :
    part.Faultless := by
  induction h with
  | null => exact .null
  | yes | no => exact .bool _
  | natural h => exact h.numeric.faultless
  | negative h => exact h.numeric.faultless
  | string => exact .text _
  | list _ ih => exact (Node.Faultless.list ih).opened _
  | object _ ih => exact (Node.Faultless.object ih.1 ih.2).opened _
  | itemsEnd => exact fun n mem => absurd mem List.not_mem_nil
  | item _ _ _ value more => exact List.forall_mem_cons.mpr ⟨value, more⟩
  | membersEnd =>
    exact ⟨fun m mem => absurd mem List.not_mem_nil, fun m mem => absurd mem List.not_mem_nil⟩
  | member _ _ _ _ _ _ _ value more =>
    exact ⟨List.forall_mem_cons.mpr ⟨⟨_, rfl⟩, more.1⟩, List.forall_mem_cons.mpr ⟨value, more.2⟩⟩

/-- A value that the scanner finds begins with an octet of its own. -/
lemma Spells.begins {bs : Bytes} {n : Node} (h : Spells bs n) (sound : n.skipFault? = none) :
    Begins bs := by
  obtain ⟨b, more, eq, space, close, -⟩ := begins_of_scanSimple bs (by rw [h.alone]; exact sound)
  exact ⟨b, more, eq, space, close⟩

lemma StringBody.spells {body : Bytes} {t : String} (h : StringBody body)
    (spells : spelt body = .ok t) : Spells (0x22 :: (body ++ [0x22])) (.text (.ok t)) := by
  intro rest _
  rw [List.cons_append, List.append_assoc, List.singleton_append, scanSimple.eq_def]
  simp [h.scanString rest, spells]

/-- A text of a value is a simple one, or opens a list or an object. -/
lemma Phrase.spells_or {depth : ℕ} {bs : Bytes} {n : Node} (h : Phrase depth bs (.value n)) :
    Spells bs n ∨ (∃ more, bs = 0x5B :: more) ∨ ∃ more, bs = 0x7B :: more := by
  cases h with
  | null | yes | no => exact .inl fun _ _ => rfl
  | natural h => exact .inl h.spells
  | negative h => exact .inl h.spells_negative
  | string h spells => exact .inl (h.spells spells)
  | list => exact .inr (.inl ⟨_, rfl⟩)
  | object => exact .inr (.inr ⟨_, rfl⟩)

lemma Phrase.begins {depth : ℕ} {bs : Bytes} {n : Node} (h : Phrase depth bs (.value n)) :
    Begins bs := by
  rcases h.spells_or with spells | ⟨more, rfl⟩ | ⟨more, rfl⟩
  · exact spells.begins h.faultless.skipFault?
  · exact ⟨0x5B, more, rfl, by decide, by decide⟩
  · exact ⟨0x7B, more, rfl, by decide, by decide⟩

/-- No number goes on with what follows an item. -/
lemma Phrase.ends_items {depth : ℕ} {bs : Bytes} {ns : List Node}
    (h : Phrase depth bs (.items false ns)) (rest : Bytes) : Ends goesOn (bs ++ rest) := by
  cases h with
  | itemsEnd space =>
    rw [List.append_assoc]
    exact ends_space space (ends_cons (by decide))
  | item leads =>
    rw [List.append_assoc]
    exact leads.ends _

/-- No number goes on with what follows a member. -/
lemma Phrase.ends_members {depth : ℕ} {bs : Bytes} {ms : List (Except Fault String × Node)}
    (h : Phrase depth bs (.members false ms)) (rest : Bytes) : Ends goesOn (bs ++ rest) := by
  cases h with
  | membersEnd space =>
    rw [List.append_assoc]
    exact ends_space space (ends_cons (by decide))
  | member leads =>
    rw [List.append_assoc]
    exact leads.ends _

/-- What follows the opening bracket of a list or an object is not empty. -/
lemma Phrase.length_pos {depth : ℕ} {bs : Bytes} {part : Part} (h : Phrase depth bs part) :
    0 < bs.length := by
  cases h with
  | natural h =>
    obtain ⟨b, more, rfl, -⟩ := h.exists_cons
    exact Nat.succ_pos _
  | item _ value _ =>
    obtain ⟨b, more, rfl, -⟩ := value.begins
    simp
  | _ => simp

/-- A simple value is scanned with fuel for a single call. -/
lemma Spells.scanned {depth : ℕ} {bs : Bytes} {n : Node} (h : Spells bs n)
    (sound : n.skipFault? = none) : (Part.value n).Scanned depth bs := by
  intro fuel rest long ends
  obtain ⟨b, more, rfl, -⟩ := h.begins sound
  cases fuel with
  | zero => cases long
  | succ fuel => exact h.scanValue sound fuel depth ends

/-- Every part of a text is scanned as what the grammar says. -/
theorem Phrase.scanned {depth : ℕ} {bs : Bytes} {part : Part} (h : Phrase depth bs part) :
    part.Scanned depth bs := by
  induction h with
  | null => exact Spells.scanned (fun _ _ => rfl) rfl
  | yes => exact Spells.scanned (fun _ _ => rfl) rfl
  | no => exact Spells.scanned (fun _ _ => rfl) rfl
  | natural h => exact h.spells.scanned h.numeric.faultless.skipFault?
  | negative h => exact h.spells_negative.scanned h.numeric.faultless.skipFault?
  | string h spells => exact (h.spells spells).scanned rfl
  | list _ ih =>
    intro fuel rest long _
    obtain ⟨fuel, rfl⟩ : ∃ f, fuel = f + 1 := ⟨fuel - 1, by simp at long; omega⟩
    exact scanValue_list (ih (by simp at long; omega))
  | object _ ih =>
    intro fuel rest long _
    obtain ⟨fuel, rfl⟩ : ∃ f, fuel = f + 1 := ⟨fuel - 1, by simp at long; omega⟩
    exact scanValue_object (ih (by simp at long; omega))
  | itemsEnd space =>
    intro fuel rest long
    obtain ⟨fuel, rfl⟩ : ∃ f, fuel = f + 1 := ⟨fuel - 1, by simp at long; omega⟩
    rw [List.append_assoc, scanItems_space space]
    exact scanItems_close _
  | item leads value more hvalue hmore =>
    intro fuel rest long
    have valueSome := value.length_pos
    have moreSome := more.length_pos
    simp only [List.length_append] at long
    obtain ⟨fuel, rfl⟩ : ∃ f, fuel = f + 2 := ⟨fuel - 2, by omega⟩
    rw [List.append_assoc, List.append_assoc, scanItems_lead leads (value.begins.append _)]
    exact scanItem_step (hvalue (by omega) (more.ends_items rest)) (hmore (by omega))
  | membersEnd space =>
    intro fuel rest long
    obtain ⟨fuel, rfl⟩ : ∃ f, fuel = f + 1 := ⟨fuel - 1, by simp at long; omega⟩
    rw [List.append_assoc, scanMembers_space space]
    exact scanMembers_close _
  | member leads name spells space space' value more hvalue hmore =>
    intro fuel rest long
    simp only [List.length_append, List.length_cons] at long
    obtain ⟨fuel, rfl⟩ : ∃ f, fuel = f + 2 := ⟨fuel - 2, by omega⟩
    simp only [List.append_assoc, List.cons_append]
    rw [scanMembers_lead leads]
    apply scanMember_space ((name.scanString _).trans (by rw [spells])) space
    · rw [scanValue_space space']
      exact hvalue (by omega) (more.ends_members rest)
    · exact hmore (by omega)

/-! ### Whole texts -/

/-- A text of a document is scanned as this document, with nothing behind it. -/
theorem IsText.scan {raw : Bytes} {root : Node} (h : IsText raw root) :
    Json.scan raw = ⟨root, false⟩ := by
  obtain ⟨ws, bs, ws', rfl, space, space', phrase⟩ := h
  have ends : Ends goesOn ws' := by
    simpa using ends_space space' ends_nil
  have blank : skipSpace ws' = [] := by
    simpa [skipSpace] using skipSpace_append (s := []) space'
  rw [Json.scan, scanValue_space space, phrase.scanned (by simp; omega) ends]
  simp [blank]

/-- A text spells one document. -/
theorem IsText.unique {raw : Bytes} {root root' : Node} (h : IsText raw root)
    (h' : IsText raw root') : root = root' := by
  have eq := h.scan.symm.trans h'.scan
  exact (Scanned.mk.inj eq).1

theorem IsText.faultless {raw : Bytes} {root : Node} (h : IsText raw root) : root.Faultless := by
  obtain ⟨_, _, _, -, -, -, phrase⟩ := h
  exact phrase.faultless

/-- Reading a text is decoding its document. -/
theorem IsText.read {α : Type} {raw : Bytes} {root : Node} (h : IsText raw root) (d : Decoder α) :
    Json.read d raw = d root := by
  rw [Json.read, h.scan, Scanned.decode]
  cases d root <;> rfl

/-- A text is read if its value is decoded and nothing follows. -/
lemma read_eq_ok {α : Type} {d : Decoder α} {raw : Bytes} {a : α} :
    read d raw = .ok a ↔ d (scan raw).root = .ok a ∧ (scan raw).trailing = false := by
  rw [read, Scanned.decode, bind_eq_ok]
  cases (scan raw).trailing <;> simp

/-- Nothing at all is no text. -/
lemma scan_nil : Json.scan [] = ⟨.broken (.always .endInValue), false⟩ := by
  simp [Json.scan, scanValue, skipSpace]

/-! ### Compact texts -/

instance (b : UInt8) : Decidable (IsPlain b) :=
  inferInstanceAs (Decidable (b ≠ 0x22 ∧ b ≠ 0x5C ∧ ¬ b < 0x20))

lemma StringBody.of_plain {bs : Bytes} (plain : ∀ b ∈ bs, IsPlain b) : StringBody bs := by
  induction bs with
  | nil => exact .nil
  | cons b bs ih =>
    rw [List.forall_mem_cons] at plain
    exact .plain plain.1 (ih plain.2)

lemma spelt_encode {key : String} (plain : ∀ b ∈ Utf8.encode key, IsPlain b) :
    spelt (Utf8.encode key) = .ok key := by
  have quote : Json.readString 0 [0x22] = .ok [] := rfl
  rw [spelt, readText, readString_plain plain, quote]
  simp [Utf8.encode_eq]

/-- A number of one digit. -/
lemma Phrase.digit {depth : ℕ} {b : UInt8} (h : isDigit b) :
    Phrase depth [b] (.value (integerNode false (digitsValue [b]))) := by
  refine .natural (.integer ⟨List.forall_mem_singleton.mpr h, ?_⟩)
  by_cases zero : b = 0x30
  · exact .inl (congrArg (fun b => [b]) zero)
  · exact .inr ⟨b, [], rfl, zero⟩

/-- A string that stands for itself. -/
lemma Phrase.plainText {depth : ℕ} (t : String) (plain : (Utf8.encode t).all (IsPlain ·)) :
    Phrase depth (0x22 :: (Utf8.encode t ++ [0x22])) (.value (.text (.ok t))) := by
  have plain : ∀ b ∈ Utf8.encode t, IsPlain b := by simpa using plain
  exact .string (.of_plain plain) (spelt_encode plain)

/-- In front of a first member, and of any other, if there is no space. -/
def lead (first : Bool) : Bytes := if first then [] else [0x2C]

/-- A member whose key stands for itself, with no space between its parts. -/
lemma Phrase.keyed {depth : ℕ} {first : Bool} {v bs : Bytes} {n : Node}
    {ms : List (Except Fault String × Node)} (key : String)
    (plain : (Utf8.encode key).all (IsPlain ·)) (value : Phrase depth v (.value n))
    (more : Phrase depth bs (.members false ms)) :
    Phrase depth (lead first ++ 0x22 :: (Utf8.encode key ++ 0x22 :: 0x3A :: (v ++ bs)))
      (.members first ((.ok key, n) :: ms)) := by
  have plain : ∀ b ∈ Utf8.encode key, IsPlain b := by simpa using plain
  have leads : Lead first (lead first) := by
    cases first with
    | true => exact .first space_nil
    | false => exact .next space_nil space_nil
  exact .member leads (.of_plain plain) (spelt_encode plain) space_nil space_nil value more

/-- A list inside another, `k` times over. -/
def nestedList : (k : ℕ) → Bytes
  | 0 => [0x5B, 0x5D]
  | k + 1 => 0x5B :: (nestedList k ++ [0x5D])

lemma Phrase.exists_nestedList (depth k : ℕ) :
    ∃ n, Phrase depth (nestedList k) (.value n) := by
  induction k generalizing depth with
  | zero => exact ⟨_, .list (.itemsEnd space_nil)⟩
  | succ k ih =>
    obtain ⟨n, inner⟩ := ih (depth - 1)
    exact ⟨_, .list (.item (.first space_nil) inner (.itemsEnd space_nil))⟩

/-- An object that a reader opens. -/
lemma Phrase.openObject {depth : ℕ} {bs : Bytes} {ms : List (Except Fault String × Node)}
    (h : Phrase depth bs (.members true ms)) :
    Phrase (depth + 1) (0x7B :: bs) (.value (.object ms .closed)) :=
  .object h

lemma Phrase.close {depth : ℕ} {first : Bool} : Phrase depth [0x7D] (.members first []) :=
  .membersEnd space_nil

lemma Phrase.isText {bs : Bytes} {root : Node} (h : Phrase maxDepth bs (.value root)) :
    IsText bs root :=
  ⟨[], bs, [], by simp, space_nil, space_nil, h⟩

end LinkGauge.Json
