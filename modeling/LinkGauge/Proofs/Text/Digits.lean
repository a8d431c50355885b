import LinkGauge.Proofs.Text.Utf8

/-!
# Runs of digits

What a number is written with, and how far a reader that takes digits goes.
-/

namespace LinkGauge.Text

/-! ### Runs -/

section Runs

variable {α : Type} {p : α → Bool} {xs ys : List α}

/-- A text does not begin with what a run is made of. -/
def Ends (p : α → Bool) (ys : List α) : Prop := ∀ y ∈ ys.head?, p y = false

lemma ends_nil : Ends p [] := by
  intro y mem
  cases mem

lemma ends_cons {y : α} (h : p y = false) : Ends p (y :: ys) := by
  intro z mem
  obtain rfl : y = z := Option.some.inj mem
  exact h

lemma takeWhile_run (run : ∀ x ∈ xs, p x) (ends : Ends p ys) : (xs ++ ys).takeWhile p = xs := by
  rw [List.takeWhile_append_of_pos run]
  cases ys with
  | nil => simp
  | cons y ys =>
    have stop : p y = false := ends y rfl
    simp [stop]

lemma dropWhile_run (run : ∀ x ∈ xs, p x) (ends : Ends p ys) : (xs ++ ys).dropWhile p = ys := by
  rw [List.dropWhile_append_of_pos run]
  cases ys with
  | nil => rfl
  | cons y ys =>
    have stop : p y = false := ends y rfl
    simp [stop]

end Runs

/-! ### Written numbers -/

lemma isDigit_of_mem_digits {n : ℕ} {c : Char} (mem : c ∈ Nat.toDigits 10 n) : c.isDigit :=
  Nat.isDigit_of_mem_toDigits (by simp) (by simp) mem

/-- A number that is not zero does not begin with a zero. -/
lemma head_digits_ne {n : ℕ} (pos : 0 < n) : (Nat.toDigits 10 n).head? ≠ some '0' := by
  induction n using Nat.strongRecOn with
  | ind n ih =>
    by_cases small : n < 10
    · rw [Nat.toDigits_of_lt_base small]
      have all : ∀ n < 10, 0 < n → [n.digitChar].head? ≠ some '0' := by decide
      exact all n small pos
    · have shorter := ih (n / 10) (by omega) (by omega)
      rw [Nat.toDigits_of_base_le (by simp) (by omega)]
      rwa [List.head?_append_of_ne_nil _ Nat.toDigits_ne_nil]

/-! ### Octets of digits -/

lemma toNat_of_isDigit {c : Char} (h : c.isDigit) : 0x30 ≤ c.toNat ∧ c.toNat ≤ 0x39 := by
  rw [Char.isDigit_iff_toNat] at h
  exact h

lemma ascii_of_isDigit {c : Char} (h : c.isDigit) : c.toNat < 0x80 :=
  Nat.lt_of_le_of_lt (toNat_of_isDigit h).2 (by simp)

/-- Digits are single octets. -/
lemma octets_digits {ds : List Char} (h : ∀ c ∈ ds, c.isDigit) :
    Utf8.octets ds = ds.map fun c => UInt8.ofNat c.toNat := by
  induction ds with
  | nil => rfl
  | cons d ds ih =>
    have ascii := ascii_of_isDigit (h d (List.mem_cons_self ..))
    rw [Utf8.octets_cons, Utf8.encodeChar_ascii ascii,
      ih fun c mem => h c (List.mem_cons_of_mem _ mem), List.map_cons, List.singleton_append]

end LinkGauge.Text
