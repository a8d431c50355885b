import LinkGauge.Host.Category
import LinkGauge.Measurement.Transport
import LinkGauge.Proofs.Document.Layouts
import LinkGauge.Proofs.Json.Rendering
import LinkGauge.Proofs.Time.Timestamps
import LinkGauge.Time.Json

/-!
# Values are decoded again

What is written of a simple value is decoded as that value. Doubles are the exception: that the
shortest decimal is read as the double it was made of is taken for granted, one double at a time.
-/

namespace LinkGauge.Json

/-! ### Integers -/

lemma toNat_toUInt64 {n : Int64} (h : 0 ≤ n) : (n.toUInt64.toNat : ℤ) = n.toInt := by
  have low : 0 ≤ n.toInt := by simpa [Int64.le_iff_toInt_le] using h
  rw [Int64.toNat_toUInt64_of_le h]
  exact Int.toNat_of_nonneg low

/-- An integer is decoded by every decoder whose range it lies in. -/
lemma integer_int64 {name : String} {low high : ℤ} {n : Int64} (least : low ≤ n.toInt)
    (most : n.toInt ≤ high) : Decoder.integer name low high (spelled (int64 n)) = .ok n.toInt := by
  simp only [int64]
  by_cases natural : 0 ≤ n
  · rw [if_pos natural, spelled, spelledNumber_natural]
    simp only [Decoder.integer, toNat_toUInt64 natural, if_pos most]
  · have below : n < 0 := Int64.not_le.mp natural
    rw [if_neg natural, spelled, spelledNumber_negative below]
    simp only [Decoder.integer, if_pos least]

lemma decode_int64 (n : Int64) : Decoder.int64 (spelled (int64 n)) = .ok n := by
  have least := n.le_toInt
  have most := n.toInt_lt
  rw [Decoder.int64, integer_int64 (by simpa using least) (by simp only [Word.half64]; omega)]
  simp

/-- A number of things is decoded by every decoder whose range it lies in. -/
lemma integer_nat {name : String} {low : ℤ} {n high : ℕ} (most : n ≤ high)
    (fits : n < Word.size64) : Decoder.integer name low high (spelled (nat n)) = .ok n := by
  have value : (UInt64.ofNat n).toNat = n := Nat.mod_eq_of_lt fits
  rw [nat, spelled, spelledNumber_natural]
  simp only [Decoder.integer, value, Int.ofNat_le, if_pos most]

lemma decode_uint16 (n : UInt16) : Decoder.uint16 (spelled (nat n.toNat)) = .ok n := by
  have most : n.toNat ≤ Word.size16 - 1 := Nat.le_pred_of_lt n.toNat_lt
  have integer : Decoder.integer "u16" 0 (Word.size16 - 1) (spelled (nat n.toNat)) = .ok n.toNat :=
    integer_nat most (most.trans_lt (by decide))
  rw [Decoder.uint16, integer, map_ok]
  simp

lemma decode_uint32 (n : UInt32) : Decoder.uint32 (spelled (nat n.toNat)) = .ok n := by
  have most : n.toNat ≤ Word.size32 - 1 := Nat.le_pred_of_lt n.toNat_lt
  have integer : Decoder.integer "u32" 0 (Word.size32 - 1) (spelled (nat n.toNat)) = .ok n.toNat :=
    integer_nat most (most.trans_lt (by decide))
  rw [Decoder.uint32, integer, map_ok]
  simp

lemma decode_count (n : UInt64) : Decoder.count (spelled (nat n.toNat)) = .ok n := by
  have most : n.toNat ≤ Word.size64 - 1 := Nat.le_pred_of_lt n.toNat_lt
  have integer : Decoder.integer "usize" 0 (Word.size64 - 1) (spelled (nat n.toNat)) =
      .ok n.toNat := integer_nat most n.toNat_lt
  rw [Decoder.count, integer, map_ok]
  simp

lemma decode_int32 (n : Int32) : Decoder.int32 (spelled (int32 n)) = .ok n := by
  have least := n.le_toInt
  have most := n.toInt_lt
  rw [Decoder.int32, int32, integer_int64 (by simpa using least)
    (by rw [Int32.toInt_toInt64]; simp only [Word.half32]; omega)]
  simp

/-! ### Other simple values -/

lemma decode_text (s : String) : Decoder.string (spelled (.text s)) = .ok s := rfl

lemma decode_bool (b : Bool) : Decoder.bool (spelled (.bool b)) = .ok b := rfl

lemma decode_category (k : Category) : Category.decoder (spelled k.toJson) = .ok k := by
  cases k <;> rfl

lemma decode_transport (t : Transport) : Transport.decoder (spelled t.toJson) = .ok t := by
  cases t <;> rfl

lemma decode_instant (t : Instant) : Decoder.instant (spelled t.toJson) = .ok t := by
  change ((Timestamp.read t.render).mapError _).mapError _ = _
  rw [Timestamp.read_render]
  rfl

/-- What may be null is decoded where it is not. -/
lemma decode_option {α : Type} {d : Decoder α} {n : Node} {a : α} (value : d n = .ok a)
    (null : d .null ≠ .ok a) : Decoder.option d n = .ok (some a) := by
  simp only [Decoder.option]
  split
  · contradiction
  · rw [value, map_ok]

/-! ### Doubles -/

/-- The text of a double is read as that double. -/
def ReadsBack (x : Float) : Prop :=
  read Decoder.float (Utf8.encode (real x).render) = .ok x

instance (x : Float) : Decidable (ReadsBack x) :=
  decidable_of_iff ((read Decoder.float (Utf8.encode (real x).render)).toOption = some x) (by
    unfold ReadsBack
    cases read Decoder.float (Utf8.encode (real x).render) with
    | ok y => simp [Except.toOption]
    | error e => simp [Except.toOption])

lemma decode_real {x : Float} (h : ReadsBack x) : Decoder.float (spelled (real x)) = .ok x := by
  rw [ReadsBack, read_render _ _ (Nat.zero_le _)] at h
  exact h

/-! ### Lists -/

/-- A list is decoded item by item. -/
lemma decode_list {α : Type} {d : Decoder α} {toJson : α → Json} {items : List α}
    (value : ∀ a ∈ items, d (spelled (toJson a)) = .ok a) :
    Decoder.list d (spelled (.list (items.map toJson))) = .ok items := by
  have all (k : ℕ) : ((spelledItems (items.map toJson)).zipIdx k).mapM d.item = .ok items := by
    induction items generalizing k with
    | nil => rfl
    | cons a items ih =>
      have first := value a (List.mem_cons_self ..)
      have rest := ih (fun a mem => value a (List.mem_cons_of_mem _ mem)) (k + 1)
      rw [List.map_cons, spelledItems, List.zipIdx_cons, List.mapM_cons]
      simp only [Decoder.item, first, mapError_ok, ok_bind, rest]
      rfl
  rw [spelled, Decoder.list, all 0, ok_bind]
  rfl

/-! ### Objects -/

/-- The members of an object, from values of which some may be left out. -/
def present : List (String × Option Json) → List (String × Json)
  | [] => []
  | (key, some j) :: rest => (key, j) :: present rest
  | (_, none) :: rest => present rest

lemma present_map {α : Type} (key : String) (f : α → Json) (o : Option α)
    (rest : List (String × Option Json)) :
    present ((key, o.map f) :: rest) = memberIf key f o ++ present rest := by
  cases o <;> rfl

/-- What a named value is scanned as. -/
def spelledPart (m : String × Option Json) : String × Option Node := (m.1, m.2.map spelled)

lemma spelledMembers_present (l : List (String × Option Json)) :
    spelledMembers (present l) = Layout.given (l.map spelledPart) := by
  induction l with
  | nil => rfl
  | cons m l ih =>
    obtain ⟨key, o⟩ := m
    cases o with
    | none => exact ih
    | some j =>
      rw [present, spelledMembers, ih]
      rfl

/-- Members are decoded as the value that a layout finds among them. -/
lemma decode_members {α : Type} {r : Layout α} {name : String} {closed : Bool}
    {l : List (String × Option Json)} {ending : Ending} {a : α}
    (distinct : (l.map Prod.fst).Nodup)
    (known : closed = true → ∀ key ∈ l.map Prod.fst, key ∈ r.names)
    (ended : Node.endingFault? ending = none)
    (reads : Layout.Reads r (Layout.under (l.map spelledPart)) a) :
    r.decoder name closed (.object (spelledMembers (present l)) ending) = .ok a := by
  have names : (l.map spelledPart).map Prod.fst = l.map Prod.fst := List.map_map
  rw [spelledMembers_present]
  apply Layout.decoder_given _ _ _ ended reads
  · rw [names]
    exact distinct
  · rw [names]
    exact known
  · intro key n mem
    obtain ⟨⟨k, o⟩, -, eq⟩ := List.mem_map.mp mem
    obtain ⟨-, some⟩ := Prod.mk.inj eq
    obtain ⟨j, -, rfl⟩ := Option.map_eq_some_iff.mp some
    exact skipFault?_spelled j

/-- An object is decoded as the value that a layout finds among its members. -/
theorem decode_object {α : Type} {r : Layout α} {name : String} {l : List (String × Option Json)}
    {a : α} (distinct : (l.map Prod.fst).Nodup)
    (reads : Layout.Reads r (Layout.under (l.map spelledPart)) a) :
    r.decoder name false (spelled (.object (present l))) = .ok a := by
  rw [spelled]
  exact decode_members distinct nofun rfl reads

/-- So are members that are named as the fields are, where others are refused. -/
theorem decode_closed {α : Type} {r : Layout α} {name : String} {l : List (String × Option Json)}
    {ending : Ending} {a : α} (names : l.map Prod.fst = r.names) (distinct : r.names.Nodup)
    (ended : Node.endingFault? ending = none)
    (reads : Layout.Reads r (Layout.under (l.map spelledPart)) a) :
    r.decoder name true (.object (spelledMembers (present l)) ending) = .ok a := by
  rw [← names] at distinct
  exact decode_members distinct (fun _ key mem => names ▸ mem) ended reads

/-! ### Flat values -/

@[simp] lemma nesting_text (s : String) : nesting (.text s) = 0 := rfl

@[simp] lemma nesting_bool (b : Bool) : nesting (.bool b) = 0 := rfl

@[simp] lemma nesting_real (x : Float) : nesting (real x) = 0 := rfl

@[simp] lemma nesting_int64 (n : Int64) : nesting (int64 n) = 0 := by
  simp only [int64]
  split <;> rfl

@[simp]
lemma nesting_ofOption {α : Type} {f : α → Json} (flat : ∀ a, nesting (f a) = 0) (o : Option α) :
    nesting (ofOption f o) = 0 := by
  cases o with
  | none => rfl
  | some a => exact flat a

@[simp] lemma nestingMembers_append (l m : List (String × Json)) :
    nestingMembers (l ++ m) = max (nestingMembers l) (nestingMembers m) := by
  induction l with
  | nil => simp [nestingMembers]
  | cons first l ih =>
    rcases first with ⟨key, j⟩
    simp [nestingMembers, ih, max_assoc]

@[simp] lemma nestingMembers_memberIf {α : Type} {f : α → Json} (flat : ∀ a, nesting (f a) = 0)
    (key : String) (o : Option α) : nestingMembers (memberIf key f o) = 0 := by
  cases o with
  | none => rfl
  | some a => simp [memberIf, nestingMembers, flat]

/-- A list is nested by one more than its items. -/
lemma nesting_list_map {α : Type} {toJson : α → Json} {depth : ℕ}
    (flat : ∀ a, nesting (toJson a) ≤ depth) (items : List α) :
    nesting (.list (items.map toJson)) ≤ depth + 1 := by
  have all : nestingItems (items.map toJson) ≤ depth := by
    induction items with
    | nil => exact Nat.zero_le _
    | cons a items ih => exact Nat.max_le.mpr ⟨flat a, ih⟩
  exact Nat.succ_le_succ all

end LinkGauge.Json
