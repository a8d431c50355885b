import LinkGauge.Decimal.Shortest
import Mathlib.Tactic

/-!
# The shortest decimal is found

The grids become finer by a factor of ten, and the last of those that are tried is finer than the
interval of the double is wide. So the search ends with a point of a grid, whose digits are not
zero.
-/

namespace LinkGauge.Decimal

/-! ### Powers with integer exponents -/

/-- Moving a point is multiplication by the two parts of a power of ten, one of which is one. -/
lemma Ratio.shift_eq (r : Ratio) (k : ℤ) :
    r.shift k = ⟨r.num * 10 ^ (-k).toNat, r.den * 10 ^ k.toNat⟩ := by
  simp only [Ratio.shift]
  by_cases h : 0 ≤ k
  · have none : (-k).toNat = 0 := by omega
    simp [h, none]
  · have none : k.toNat = 0 := by omega
    simp [h, none]

lemma Ratio.binary_eq (n : ℕ) (q : ℤ) :
    Ratio.binary n q = ⟨n * 2 ^ q.toNat, 2 ^ (-q).toNat⟩ := by
  simp only [Ratio.binary]
  by_cases h : 0 ≤ q
  · have none : (-q).toNat = 0 := by omega
    simp [h, none]
  · have none : q.toNat = 0 := by omega
    simp [h, none]

lemma Ratio.decimal_eq (n : ℕ) (k : ℤ) :
    Ratio.decimal n k = ⟨n * 10 ^ k.toNat, 10 ^ (-k).toNat⟩ := by
  rw [Ratio.decimal, Ratio.shift_eq]
  simp

/-! ### Fine grids -/

/-- `10 ^ k < 2 ^ q`, with both powers on the side where they are whole. -/
def FinerThan (k q : ℤ) : Prop :=
  10 ^ k.toNat * 2 ^ (-q).toNat < 2 ^ q.toNat * 10 ^ (-k).toNat

instance (k q : ℤ) : Decidable (FinerThan k q) :=
  inferInstanceAs (Decidable (_ < _))

lemma FinerThan.mono {k q q' : ℤ} (h : FinerThan k q) (le : q ≤ q') : FinerThan k q' := by
  have shifted : 2 ^ (-q').toNat * 2 ^ q.toNat ≤ 2 ^ q'.toNat * 2 ^ (-q).toNat := by
    rw [← pow_add, ← pow_add]
    exact Nat.pow_le_pow_right (by simp) (by omega)
  have pos : 0 < 2 ^ q.toNat := Nat.two_pow_pos _
  simp only [FinerThan] at h ⊢
  apply lt_of_mul_lt_mul_right (a := 2 ^ q.toNat) _ (Nat.zero_le _)
  calc 10 ^ k.toNat * 2 ^ (-q').toNat * 2 ^ q.toNat
      = 10 ^ k.toNat * (2 ^ (-q').toNat * 2 ^ q.toNat) := by ring
    _ ≤ 10 ^ k.toNat * (2 ^ q'.toNat * 2 ^ (-q).toNat) := Nat.mul_le_mul_left _ shifted
    _ = 2 ^ q'.toNat * (10 ^ k.toNat * 2 ^ (-q).toNat) := by ring
    _ < 2 ^ q'.toNat * (2 ^ q.toNat * 10 ^ (-k).toNat) :=
        Nat.mul_lt_mul_of_pos_left h (Nat.two_pow_pos _)
    _ = 2 ^ q'.toNat * 10 ^ (-k).toNat * 2 ^ q.toNat := by ring

/-- The point of a grid above a double lies in its interval if the grid is fine. -/
lemma contains_above (b : Binary) {k : ℤ} (fine : FinerThan k (b.exponent - 2)) :
    b.interval.contains
      (.decimal ((b.interval.value.shift k).num / (b.interval.value.shift k).den + 1) k) := by
  simp only [Binary.interval, Ratio.binary_eq, Ratio.shift_eq, Ratio.decimal_eq]
  simp only [FinerThan] at fine
  generalize hP : 10 ^ k.toNat = P at *
  generalize hP' : 10 ^ (-k).toNat = P' at *
  generalize hB : 2 ^ (b.exponent - 2).toNat = B at *
  generalize hB' : 2 ^ (-(b.exponent - 2)).toNat = B' at *
  have den : 0 < B' * P := by
    rw [← hB', ← hP]
    positivity
  generalize above : 4 * b.significand * B * P' / (B' * P) + 1 = n
  have beyond : 4 * b.significand * B * P' < n * (B' * P) := by
    rw [← above, Nat.add_mul, Nat.one_mul]
    exact Nat.lt_div_mul_add den
  have near : n * (B' * P) ≤ 4 * b.significand * B * P' + B' * P := by
    rw [← above, Nat.add_mul, Nat.one_mul]
    exact Nat.add_le_add_right (Nat.div_mul_le_self _ _) _
  have low : ∀ c, (4 * b.significand - c) * B * P' < n * P * B' := by
    intro c
    calc (4 * b.significand - c) * B * P'
        ≤ 4 * b.significand * B * P' :=
          Nat.mul_le_mul_right _ (Nat.mul_le_mul_right _ (Nat.sub_le _ _))
      _ < n * (B' * P) := beyond
      _ = n * P * B' := by ring
  have high : n * P * B' < (4 * b.significand + 2) * B * P' := by
    calc n * P * B' = n * (B' * P) := by ring
      _ ≤ 4 * b.significand * B * P' + B' * P := near
      _ = 4 * b.significand * B * P' + P * B' := by ring
      _ < 4 * b.significand * B * P' + B * P' := Nat.add_lt_add_left fine _
      _ ≤ (4 * b.significand + 2) * B * P' := by nlinarith
  simp only [Interval.contains]
  by_cases even : (b.significand % 2 == 0) = true
  · rw [if_pos even]
    simp only [Ratio.le, Bool.and_eq_true, decide_eq_true_eq]
    exact ⟨(low _).le, high.le⟩
  · rw [if_neg even]
    simp only [Ratio.lt, Bool.and_eq_true, decide_eq_true_eq]
    exact ⟨low _, high⟩

/-- A fine grid has a point in the interval of a double. -/
lemma exists_gridPoint (b : Binary) {k : ℤ} (fine : FinerThan k (b.exponent - 2)) :
    ∃ n, b.interval.gridPoint k = some n := by
  have hit := contains_above b fine
  simp only [Interval.gridPoint, hit]
  split
  · split
    · exact ⟨_, rfl⟩
    · exact ⟨_, rfl⟩
  · exact ⟨_, rfl⟩
  · exact ⟨_, rfl⟩
  · contradiction

/-- A point of a grid is not zero. -/
lemma gridPoint_pos {i : Interval} {k : ℤ} {n : ℕ} (h : i.gridPoint k = some n) : 0 < n := by
  simp only [Interval.gridPoint] at h
  split at h
  next below _ =>
    have pos := of_decide_eq_true (Bool.and_eq_true_iff.mp below).1
    split at h
    · exact Option.some.inj h ▸ pos
    · exact Option.some.inj h ▸ Nat.succ_pos _
  next below _ => exact Option.some.inj h ▸ of_decide_eq_true (Bool.and_eq_true_iff.mp below).1
  next => exact Option.some.inj h ▸ Nat.succ_pos _
  next => cases h

/-! ### Digits -/

/-- Moving zeros into the exponent leaves a digit. -/
lemma stripZeros_pos (fuel : ℕ) {n : ℕ} (e : ℤ) (pos : 0 < n) :
    0 < (stripZeros fuel n e).digits := by
  induction fuel generalizing n e with
  | zero => exact pos
  | succ fuel ih =>
    rw [stripZeros]
    by_cases zero : n ≠ 0 ∧ n % 10 = 0
    · rw [if_pos zero]
      exact ih _ (by omega)
    · rw [if_neg zero]
      exact pos

/-- The search ends with a point if one of the grids that are tried has one. -/
lemma search_pos (i : Interval) (fuel : ℕ) (k : ℤ) (steps : ℕ) (few : steps < fuel)
    (found : ∃ n, i.gridPoint (k - steps) = some n) : 0 < (i.search fuel k).digits := by
  induction fuel generalizing k steps with
  | zero => omega
  | succ fuel ih =>
    rw [Interval.search]
    cases h : i.gridPoint k with
    | some n => exact stripZeros_pos _ _ (gridPoint_pos h)
    | none =>
      cases steps with
      | zero =>
        obtain ⟨n, hn⟩ := found
        rw [Nat.cast_zero, sub_zero, h] at hn
        cases hn
      | succ steps =>
        apply ih (k - 1) steps (by omega)
        have same : k - 1 - steps = k - (steps + 1 : ℕ) := by
          push_cast
          ring
        rwa [same]

/-- A double of which the significand and the exponent are known to be small enough. -/
def Binary.IsDouble (b : Binary) : Prop :=
  b.significand < 2 * fractionSize ∧ -1074 ≤ b.exponent ∧ b.exponent ≤ 971

/-- The last of the grids that are tried is finer than any double needs. -/
lemma lastGrid_fine : ∀ n ∈ List.range 2098,
    FinerThan ((((n : ℤ) - 1073) * 30103).fdiv 100000 - 22) ((n : ℤ) - 1128) := by
  decide +kernel

/-- The shortest decimal of a double that is not zero has a digit that is not zero. -/
theorem Binary.shortest_pos {b : Binary} (double : b.IsDouble) (pos : 0 < b.significand) :
    0 < b.shortest.digits := by
  obtain ⟨significand, least, greatest⟩ := double
  have bits : b.significand.log2 < 53 := (Nat.log2_lt pos.ne').mpr significand
  obtain ⟨n, hn⟩ : ∃ n : ℕ, (n : ℤ) = b.significand.log2 + 1 + b.exponent + 1073 :=
    ⟨(b.significand.log2 + 1 + b.exponent + 1073 : ℤ).toNat, by omega⟩
  have fine := lastGrid_fine n (List.mem_range.mpr (by omega))
  have bound : b.decimalBound - (23 : ℕ) = (((n : ℤ) - 1073) * 30103).fdiv 100000 - 22 := by
    have same : (n : ℤ) - 1073 = b.significand.log2 + 1 + b.exponent := by omega
    rw [same, Binary.decimalBound]
    push_cast
    ring
  apply search_pos _ _ _ 23 (by simp)
  rw [bound]
  exact exists_gridPoint b (fine.mono (by omega))

/-- What a double is taken apart into is a double. -/
lemma isDouble_of_classify {x : Float} {b : Binary} (h : classify x = .finite b) : b.IsDouble := by
  simp only [classify] at h
  generalize x.toBits.toNat = bits at h
  simp only [beq_iff_eq] at h
  have fraction : bits % fractionSize < fractionSize := Nat.mod_lt _ (by simp)
  have biased : bits / fractionSize % 2048 < 2048 := Nat.mod_lt _ (by simp)
  by_cases special : bits / fractionSize % 2048 = 0x7FF
  · rw [if_pos special] at h
    split at h <;> cases h
  · rw [if_neg special] at h
    by_cases subnormal : bits / fractionSize % 2048 = 0
    · rw [if_pos subnormal] at h
      obtain rfl := Class.finite.inj h
      exact ⟨by simp only; omega, by simp only; omega, by simp only; omega⟩
    · rw [if_neg subnormal] at h
      obtain rfl := Class.finite.inj h
      refine ⟨by simp only; omega, ?_, ?_⟩
      · simp only [Int.ofNat_eq_natCast]
        omega
      · simp only [Int.ofNat_eq_natCast]
        omega

end LinkGauge.Decimal
