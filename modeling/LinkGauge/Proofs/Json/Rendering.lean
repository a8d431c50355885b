import LinkGauge.Json.Reading
import LinkGauge.Proofs.Json.Numbers
import LinkGauge.Proofs.Json.Strings

/-!
# Written values are read back

The compact text of a value is scanned as the document of that value, with nothing left over. The
fuel of the scanner is enough for every text, and the only limit is the depth to which a reader
goes.
-/

namespace LinkGauge.Json

open Text (Ends)
open Utf8 (octets)

/-! ### The document of a written value -/

mutual

/-- What the text of a value is scanned as. -/
def spelled : Json → Node
  | .null => .null
  | .bool b => .bool b
  | .number n => spelledNumber n
  | .text s => .text (.ok s)
  | .list items => .list (spelledItems items) .closed
  | .object members => .object (spelledMembers members) .closed

/-- `spelled` for items. -/
def spelledItems : List Json → List Node
  | [] => []
  | j :: rest => spelled j :: spelledItems rest

/-- `spelled` for members. -/
def spelledMembers : List (String × Json) → List (Except Fault String × Node)
  | [] => []
  | (key, j) :: rest => (.ok key, spelled j) :: spelledMembers rest

end

mutual

/-- How deep lists and objects are nested in a value. -/
def nesting : Json → ℕ
  | .null | .bool _ | .number _ | .text _ => 0
  | .list items => nestingItems items + 1
  | .object members => nestingMembers members + 1

/-- `nesting` for items. -/
def nestingItems : List Json → ℕ
  | [] => 0
  | j :: rest => max (nesting j) (nestingItems rest)

/-- `nesting` for members. -/
def nestingMembers : List (String × Json) → ℕ
  | [] => 0
  | (_, j) :: rest => max (nesting j) (nestingMembers rest)

end

mutual

/-- Nobody who passes over a written value meets a fault. -/
theorem skipFault?_spelled : (j : Json) → (spelled j).skipFault? = none
  | .null => rfl
  | .bool _ => rfl
  | .number n => skipFault?_spelledNumber n
  | .text _ => rfl
  | .list items => by
    rw [spelled, Node.skipFault?, skipItems?_spelled items]
    rfl
  | .object members => by
    rw [spelled, Node.skipFault?, skipMembers?_spelled members]
    rfl

/-- `skipFault?_spelled` for items. -/
theorem skipItems?_spelled : (items : List Json) → Node.skipItems? (spelledItems items) = none
  | [] => rfl
  | j :: rest => by
    rw [spelledItems, Node.skipItems?, skipFault?_spelled j, skipItems?_spelled rest]
    rfl

/-- `skipFault?_spelled` for members. -/
theorem skipMembers?_spelled :
    (members : List (String × Json)) → Node.skipMembers? (spelledMembers members) = none
  | [] => rfl
  | (_, j) :: rest => by
    rw [spelledMembers, Node.skipMembers?, skipFault?_spelled j, skipMembers?_spelled rest]
    rfl

end

/-! ### The first octet -/

/-- A text begins with an octet that is neither space nor the end of a list. -/
def Begins (bs : Bytes) : Prop := ∃ b more, bs = b :: more ∧ isSpace b = false ∧ b ≠ 0x5D

lemma Begins.append {bs : Bytes} (h : Begins bs) (rest : Bytes) : Begins (bs ++ rest) := by
  obtain ⟨b, more, rfl, space, close⟩ := h
  exact ⟨b, more ++ rest, rfl, space, close⟩

lemma Begins.skipSpace {bs : Bytes} (h : Begins bs) : Json.skipSpace bs = bs := by
  obtain ⟨b, more, rfl, space, -⟩ := h
  rw [Json.skipSpace, List.dropWhile_cons_of_neg (by simp [space])]

/-- A text in which the scanner finds a value begins with one, and with none that has others
inside. -/
lemma begins_of_scanSimple (bs : Bytes) (h : (scanSimple bs).1.skipFault? = none) :
    ∃ b more, bs = b :: more ∧ isSpace b = false ∧ b ≠ 0x5D ∧ b ≠ 0x5B ∧ b ≠ 0x7B := by
  have nothing {b : UInt8} {more : Bytes} (eq : bs = b :: more)
      (other : (scanSimple (b :: more)).1 = .broken (Flaw.always .expectedValue)) : False := by
    rw [eq, other] at h
    cases h
  cases bs with
  | nil => cases h
  | cons b more =>
    refine ⟨b, more, rfl, ?_, ?_, ?_, ?_⟩
    · rw [Bool.eq_false_iff]
      intro space
      simp only [isSpace, Bool.or_eq_true, beq_iff_eq] at space
      rcases space with ((rfl | rfl) | rfl) | rfl <;> exact nothing rfl rfl
    · rintro rfl
      exact nothing rfl rfl
    · rintro rfl
      exact nothing rfl rfl
    · rintro rfl
      exact nothing rfl rfl

/-! ### Simple values -/

/-- The value of a simple text. -/
lemma Spells.scanValue {bs : Bytes} {n : Node} (h : Spells bs n) (sound : n.skipFault? = none)
    (fuel depth : ℕ) {rest : Bytes} (ends : Ends goesOn rest) :
    scanValue (fuel + 1) depth (bs ++ rest) = (n, rest) := by
  have scan := h rest ends
  obtain ⟨b, more, eq, space, close, list, object⟩ :=
    begins_of_scanSimple (bs ++ rest) (by rw [scan]; exact sound)
  rw [eq] at scan ⊢
  rw [Json.scanValue, Begins.skipSpace ⟨b, more, rfl, space, close⟩]
  simp [list, object, scan]

/-- A written value that is neither a list nor an object. -/
lemma spells_simple (j : Json) (h : nesting j = 0) : Spells (octets j.chars) (spelled j) := by
  intro rest ends
  cases j with
  | null => rfl
  | bool b => cases b <;> rfl
  | number n => exact scanSimple_writeNumber n ends
  | text s =>
    rw [chars, octets_quote, List.cons_append, scanSimple.eq_def]
    simp [scanString_quotedOctets, spelled]
  | list items => cases h
  | object members => cases h

/-! ### Lists and objects -/

/-- A written value begins with an octet of its own. -/
lemma begins_chars (j : Json) : Begins (octets j.chars) := by
  by_cases simple : nesting j = 0
  · have scan := (spells_simple j simple).alone
    obtain ⟨b, more, eq, space, close, -⟩ :=
      begins_of_scanSimple _ (by rw [scan]; exact skipFault?_spelled j)
    exact ⟨b, more, eq, space, close⟩
  · cases j with
    | list items => exact ⟨0x5B, _, rfl, by decide, by simp⟩
    | object members => exact ⟨0x7B, _, rfl, by decide, by simp⟩
    | _ => exact absurd rfl simple

/-- What follows an item: the others, behind a comma. -/
def moreItems : List Json → Bytes
  | [] => []
  | j :: rest => 0x2C :: octets (itemChars (j :: rest))

/-- What follows a member: the others, behind a comma. -/
def moreMembers : List (String × Json) → Bytes
  | [] => []
  | m :: rest => 0x2C :: octets (memberChars (m :: rest))

lemma octets_itemChars (j : Json) (rest : List Json) :
    octets (itemChars (j :: rest)) = octets j.chars ++ moreItems rest := by
  cases rest with
  | nil => rw [itemChars, moreItems, List.append_nil]
  | cons k rest => simp [itemChars, moreItems, Utf8.encodeChar_ascii]

lemma octets_memberChars (key : String) (j : Json) (rest : List (String × Json)) :
    octets (memberChars ((key, j) :: rest)) =
      0x22 :: (quotedOctets key.toList ++ 0x3A :: (octets j.chars ++ moreMembers rest)) := by
  cases rest with
  | nil => simp [memberChars, octets_quote, moreMembers, Utf8.encodeChar_ascii]
  | cons m rest => simp [memberChars, octets_quote, moreMembers, Utf8.encodeChar_ascii]

lemma octets_list (items : List Json) :
    octets (Json.list items).chars = 0x5B :: (octets (itemChars items) ++ [0x5D]) := by
  simp [chars, Utf8.encodeChar_ascii]

lemma octets_object (members : List (String × Json)) :
    octets (Json.object members).chars = 0x7B :: (octets (memberChars members) ++ [0x7D]) := by
  simp [chars, Utf8.encodeChar_ascii]

/-- Neither what follows an item nor the end of a list belongs to a number. -/
lemma ends_moreItems (items : List Json) (rest : Bytes) :
    Ends goesOn (moreItems items ++ 0x5D :: rest) := by
  cases items with
  | nil => exact Text.ends_cons (by decide)
  | cons j items => exact Text.ends_cons (by decide)

lemma ends_moreMembers (members : List (String × Json)) (rest : Bytes) :
    Ends goesOn (moreMembers members ++ 0x7D :: rest) := by
  cases members with
  | nil => exact Text.ends_cons (by decide)
  | cons m members => exact Text.ends_cons (by decide)

/-! ### Steps of the scanner -/

section Steps

variable {fuel depth : ℕ} {s rest after : Bytes} {n : Node} {items : List Node} {key : String}
  {members : List (Except Fault String × Node)} {ending : Ending}

lemma scanValue_list (h : scanItems fuel (depth - 1) true s = (items, ending, rest)) :
    scanValue (fuel + 1) depth (0x5B :: s) = ((Node.list items ending).opened depth, rest) := by
  have start : skipSpace (0x5B :: s) = 0x5B :: s := rfl
  rw [scanValue, start]
  simp [h]

lemma scanValue_object (h : scanMembers fuel (depth - 1) true s = (members, ending, rest)) :
    scanValue (fuel + 1) depth (0x7B :: s) = ((Node.object members ending).opened depth, rest) := by
  have start : skipSpace (0x7B :: s) = 0x7B :: s := rfl
  rw [scanValue, start]
  simp [h]

lemma scanItems_close (first : Bool) :
    scanItems (fuel + 1) depth first (0x5D :: rest) = ([], .closed, rest) := by
  have start : skipSpace (0x5D :: rest) = 0x5D :: rest := rfl
  rw [scanItems, start]
  simp

lemma scanItems_first (begins : Begins s) :
    scanItems (fuel + 1) depth true s = scanItem fuel depth s := by
  rw [scanItems, begins.skipSpace]
  obtain ⟨b, more, rfl, -, close⟩ := begins
  simp [close]

lemma scanItems_comma (begins : Begins s) :
    scanItems (fuel + 1) depth false (0x2C :: s) = scanItem fuel depth s := by
  have start : skipSpace (0x2C :: s) = 0x2C :: s := rfl
  rw [scanItems, start]
  simp only [begins.skipSpace]
  obtain ⟨b, more, rfl, -, close⟩ := begins
  simp [close]

lemma scanItem_step (value : scanValue fuel depth s = (n, after))
    (more : scanItems fuel depth false after = (items, ending, rest)) :
    scanItem (fuel + 1) depth s = (n :: items, ending, rest) := by
  rw [scanItem, value]
  simp [more]

lemma scanMembers_close (first : Bool) :
    scanMembers (fuel + 1) depth first (0x7D :: rest) = ([], .closed, rest) := by
  have start : skipSpace (0x7D :: rest) = 0x7D :: rest := rfl
  rw [scanMembers, start]
  simp

lemma scanMembers_first :
    scanMembers (fuel + 1) depth true (0x22 :: s) = scanMember fuel depth s := by
  have start : skipSpace (0x22 :: s) = 0x22 :: s := rfl
  rw [scanMembers, start]
  simp

lemma scanMembers_comma :
    scanMembers (fuel + 1) depth false (0x2C :: 0x22 :: s) = scanMember fuel depth s := by
  have start : skipSpace (0x2C :: 0x22 :: s) = 0x2C :: 0x22 :: s := rfl
  have next : skipSpace (0x22 :: s) = 0x22 :: s := rfl
  rw [scanMembers, start]
  simp [next]

lemma scanMember_step (name : scanString s = .ok (.ok key, 0x3A :: after)) {after' : Bytes}
    (value : scanValue fuel depth after = (n, after'))
    (more : scanMembers fuel depth false after' = (members, ending, rest)) :
    scanMember (fuel + 1) depth s = ((.ok key, n) :: members, ending, rest) := by
  have colon : skipSpace (0x3A :: after) = 0x3A :: after := rfl
  rw [scanMember, name]
  simp [colon, value, more]

end Steps

/-- Behind an item the others are scanned as a list of their own. -/
lemma scanItems_more (items : List Json) (fuel depth : ℕ) (rest : Bytes) :
    scanItems (fuel + 1) depth false (moreItems items ++ 0x5D :: rest) =
      scanItems (fuel + 1) depth true (octets (itemChars items) ++ 0x5D :: rest) := by
  cases items with
  | nil => exact (scanItems_close false).trans (scanItems_close true).symm
  | cons j items =>
    have begins : Begins (octets (itemChars (j :: items)) ++ 0x5D :: rest) := by
      rw [octets_itemChars, List.append_assoc]
      exact (begins_chars j).append _
    rw [moreItems, List.cons_append, scanItems_comma begins, scanItems_first begins]

/-- Behind a member the others are scanned as an object of their own. -/
lemma scanMembers_more (members : List (String × Json)) (fuel depth : ℕ) (rest : Bytes) :
    scanMembers (fuel + 1) depth false (moreMembers members ++ 0x7D :: rest) =
      scanMembers (fuel + 1) depth true (octets (memberChars members) ++ 0x7D :: rest) := by
  match members with
  | [] => exact (scanMembers_close false).trans (scanMembers_close true).symm
  | (key, j) :: members =>
    rw [moreMembers, octets_memberChars, List.cons_append, List.cons_append, scanMembers_comma,
      scanMembers_first]

lemma length_itemChars_le (items : List Json) :
    (octets (itemChars items)).length ≤ (moreItems items).length := by
  cases items with
  | nil => exact Nat.le_refl _
  | cons j items => exact Nat.le_succ _

lemma length_memberChars_le (members : List (String × Json)) :
    (octets (memberChars members)).length ≤ (moreMembers members).length := by
  cases members with
  | nil => exact Nat.le_refl _
  | cons m members => exact Nat.le_succ _

/-- Texts of values are not empty. -/
lemma length_chars_pos (j : Json) : 0 < (octets j.chars).length := by
  obtain ⟨b, more, eq, -⟩ := begins_chars j
  rw [eq]
  exact Nat.succ_pos _

lemma scanValue_simple (j : Json) (simple : nesting j = 0) (fuel depth : ℕ) {rest : Bytes}
    (long : 3 * (octets j.chars).length ≤ fuel) (ends : Ends goesOn rest) :
    scanValue fuel depth (octets j.chars ++ rest) = (spelled j, rest) := by
  have pos := length_chars_pos j
  obtain ⟨fuel, rfl⟩ : ∃ f, fuel = f + 1 := ⟨fuel - 1, by omega⟩
  exact (spells_simple j simple).scanValue (skipFault?_spelled j) fuel depth ends

mutual

/-- A written value is scanned as its document, up to where its text ends. The fuel is measured by
the length of the text. -/
theorem scanValue_chars : (j : Json) → (fuel depth : ℕ) → (rest : Bytes) →
    3 * (octets j.chars).length ≤ fuel → nesting j ≤ depth → Ends goesOn rest →
    scanValue fuel depth (octets j.chars ++ rest) = (spelled j, rest)
  | .null, fuel, depth, _, long, _, ends => scanValue_simple _ rfl fuel depth long ends
  | .bool _, fuel, depth, _, long, _, ends => scanValue_simple _ rfl fuel depth long ends
  | .number _, fuel, depth, _, long, _, ends => scanValue_simple _ rfl fuel depth long ends
  | .text _, fuel, depth, _, long, _, ends => scanValue_simple _ rfl fuel depth long ends
  | .list items, fuel, depth, rest, long, deep, _ => by
    rw [octets_list] at long ⊢
    simp only [List.length_cons, List.length_append, List.length_nil] at long
    rw [nesting] at deep
    obtain ⟨fuel, rfl⟩ : ∃ f, fuel = f + 1 := ⟨fuel - 1, by omega⟩
    obtain ⟨depth, rfl⟩ : ∃ d, depth = d + 1 := ⟨depth - 1, by omega⟩
    rw [List.cons_append, List.append_assoc]
    exact scanValue_list (scanItems_chars items fuel depth rest (by omega) (by omega))
  | .object members, fuel, depth, rest, long, deep, _ => by
    rw [octets_object] at long ⊢
    simp only [List.length_cons, List.length_append, List.length_nil] at long
    rw [nesting] at deep
    obtain ⟨fuel, rfl⟩ : ∃ f, fuel = f + 1 := ⟨fuel - 1, by omega⟩
    obtain ⟨depth, rfl⟩ : ∃ d, depth = d + 1 := ⟨depth - 1, by omega⟩
    rw [List.cons_append, List.append_assoc]
    exact scanValue_object (scanMembers_chars members fuel depth rest (by omega) (by omega))

/-- Items are scanned up to the end of the list. -/
theorem scanItems_chars : (items : List Json) → (fuel depth : ℕ) → (rest : Bytes) →
    3 * (octets (itemChars items)).length + 2 ≤ fuel → nestingItems items ≤ depth →
    scanItems fuel depth true (octets (itemChars items) ++ 0x5D :: rest) =
      (spelledItems items, .closed, rest)
  | [], fuel, depth, rest, long, _ => by
    obtain ⟨fuel, rfl⟩ : ∃ f, fuel = f + 1 := ⟨fuel - 1, by omega⟩
    exact scanItems_close true
  | j :: items, fuel, depth, rest, long, deep => by
    have pos := length_chars_pos j
    have shorter := length_itemChars_le items
    rw [octets_itemChars] at long ⊢
    rw [List.length_append] at long
    rw [nestingItems] at deep
    obtain ⟨fuel, rfl⟩ : ∃ f, fuel = f + 3 := ⟨fuel - 3, by omega⟩
    have value := scanValue_chars j (fuel + 1) depth (moreItems items ++ 0x5D :: rest)
      (by omega) (by omega) (ends_moreItems items rest)
    have others := scanItems_chars items (fuel + 1) depth rest (by omega) (by omega)
    rw [← scanItems_more] at others
    rw [List.append_assoc, scanItems_first ((begins_chars j).append _)]
    exact scanItem_step value others

/-- Members are scanned up to the end of the object. -/
theorem scanMembers_chars : (members : List (String × Json)) → (fuel depth : ℕ) →
    (rest : Bytes) →
    3 * (octets (memberChars members)).length + 2 ≤ fuel → nestingMembers members ≤ depth →
    scanMembers fuel depth true (octets (memberChars members) ++ 0x7D :: rest) =
      (spelledMembers members, .closed, rest)
  | [], fuel, depth, rest, long, _ => by
    obtain ⟨fuel, rfl⟩ : ∃ f, fuel = f + 1 := ⟨fuel - 1, by omega⟩
    exact scanMembers_close true
  | (key, j) :: members, fuel, depth, rest, long, deep => by
    have shorter := length_memberChars_le members
    rw [octets_memberChars] at long ⊢
    simp only [List.length_cons, List.length_append] at long
    rw [nestingMembers] at deep
    obtain ⟨fuel, rfl⟩ : ∃ f, fuel = f + 3 := ⟨fuel - 3, by omega⟩
    have value := scanValue_chars j (fuel + 1) depth (moreMembers members ++ 0x7D :: rest)
      (by omega) (by omega) (ends_moreMembers members rest)
    have others := scanMembers_chars members (fuel + 1) depth rest (by omega) (by omega)
    rw [← scanMembers_more] at others
    rw [List.cons_append, List.append_assoc, List.cons_append, List.append_assoc, scanMembers_first]
    exact scanMember_step (scanString_quotedOctets key _) value others

end

/-! ### Whole texts -/

/-- A text of a value is scanned as its document, with nothing behind it. -/
theorem scan_render (j : Json) (deep : nesting j ≤ maxDepth) :
    scan (Utf8.encode j.render) = ⟨spelled j, false⟩ := by
  have scanned := scanValue_chars j (3 * (octets j.chars).length + 3) maxDepth []
    (Nat.le_add_right _ _) deep Text.ends_nil
  rw [List.append_nil] at scanned
  rw [scan, render, Utf8.encode_ofList, scanned]
  rfl

/-- Reading the text of a value is decoding its document. -/
theorem read_render {α : Type} (d : Decoder α) (j : Json) (deep : nesting j ≤ maxDepth) :
    read d (Utf8.encode j.render) = d (spelled j) := by
  rw [read, scan_render j deep, Scanned.decode]
  cases d (spelled j) <;> rfl

end LinkGauge.Json
