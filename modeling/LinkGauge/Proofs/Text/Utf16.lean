import LinkGauge.Text.Utf16
import Mathlib.Tactic

/-!
# UTF-16 both ways

What is encoded in either order of octets is decoded to the same text.
-/

namespace LinkGauge.Utf16

/-! ### Code units of a character -/

/-- The octets of a code unit. -/
def Order.octets : Order → ℕ → List UInt8
  | .little, u => [UInt8.ofNat (u % 0x100), UInt8.ofNat (u / 0x100)]
  | .big, u => [UInt8.ofNat (u / 0x100), UInt8.ofNat (u % 0x100)]

/-- The octets of a character. -/
def encodeChar (order : Order) (c : Char) : List UInt8 :=
  if c.toNat < 0x10000 then order.octets c.toNat
  else order.octets (0xD800 + (c.toNat - 0x10000) / 0x400) ++
    order.octets (0xDC00 + (c.toNat - 0x10000) % 0x400)

variable {order : Order} {u : ℕ} {rest : List UInt8}

/-- The octets of a code unit make that unit. -/
lemma exists_octets (order : Order) (small : u < 0x10000) :
    ∃ a b, order.octets u = [a, b] ∧ order.unit a b = u := by
  have octet {n : ℕ} (hn : n < 0x100) : (UInt8.ofNat n).toNat = n := UInt8.toNat_ofNat_of_lt' hn
  have low := octet (n := u % 0x100) (by omega)
  have high := octet (n := u / 0x100) (by omega)
  cases order with
  | little => exact ⟨_, _, rfl, by rw [Order.unit, low, high, Nat.div_add_mod']⟩
  | big => exact ⟨_, _, rfl, by rw [Order.unit, low, high, Nat.div_add_mod']⟩

/-- A code unit that is no surrogate is a character. -/
lemma decodeFrom_single (small : u < 0xD800 ∨ 0xDFFF < u ∧ u < 0x10000) :
    decodeFrom order none (order.octets u ++ rest) =
      some (Char.ofNat u) :: decodeFrom order none rest := by
  obtain ⟨a, b, octets, unit⟩ := exists_octets order (u := u) (by omega)
  have leading : isLeading u = false := by simp [isLeading]; omega
  have trailing : isTrailing u = false := by simp [isTrailing]; omega
  rw [octets, List.cons_append, List.singleton_append, decodeFrom]
  simp [unit, leading, trailing]

/-- A pair of surrogates is a character. -/
lemma decodeFrom_pair {v : ℕ} (hu : isLeading u) (hv : isTrailing v) :
    decodeFrom order none (order.octets u ++ order.octets v ++ rest) =
      some (pair u v) :: decodeFrom order none rest := by
  have bounds : u < 0x10000 ∧ v < 0x10000 := by
    simp only [isLeading, isTrailing, Bool.and_eq_true, decide_eq_true_eq] at hu hv
    omega
  obtain ⟨a, b, first, leads⟩ := exists_octets order bounds.1
  obtain ⟨c, d, second, trails⟩ := exists_octets order bounds.2
  rw [first, second, List.append_assoc, List.cons_append, List.singleton_append, decodeFrom,
    List.cons_append, List.singleton_append]
  simp only [leads, hu, if_true]
  rw [decodeFrom]
  simp [trails, hv]

/-- The decoder takes exactly the octets of a character. -/
lemma decodeFrom_encodeChar (c : Char) :
    decodeFrom order none (encodeChar order c ++ rest) = some c :: decodeFrom order none rest := by
  have valid : c.toNat < 0xD800 ∨ (0xDFFF < c.toNat ∧ c.toNat < 0x110000) := c.valid
  have char : Char.ofNat c.toNat = c := Char.ofNat_toNat c
  by_cases single : c.toNat < 0x10000
  · rw [encodeChar, if_pos single, decodeFrom_single (by omega), char]
  · rw [encodeChar, if_neg single, decodeFrom_pair, pair]
    · have back : (0xD800 + (c.toNat - 0x10000) / 0x400 - 0xD800) * 0x400 +
          (0xDC00 + (c.toNat - 0x10000) % 0x400 - 0xDC00) + 0x10000 = c.toNat := by omega
      rw [back, char]
    · simp [isLeading]; omega
    · simp [isTrailing]; omega

/-! ### Texts -/

/-- The octets of a text. -/
def encode (order : Order) (s : String) : List UInt8 := s.toList.flatMap (encodeChar order)

/-- Nothing is lost when a text is decoded again. -/
lemma decodeFrom_flatMap (cs : List Char) :
    decodeFrom order none (cs.flatMap (encodeChar order)) = cs.map some := by
  induction cs with
  | nil => rfl
  | cons c cs ih => rw [List.flatMap_cons, decodeFrom_encodeChar, ih, List.map_cons]

@[simp]
theorem decodeLossy_encode (order : Order) (s : String) :
    decodeLossy order (encode order s) = s := by
  rw [decodeLossy, encode, decodeFrom_flatMap, List.map_map]
  simp [Function.comp_def]

end LinkGauge.Utf16
