import Mathlib

/-!
# Doubles that are finite

Which results of the conversions of a unit are finite, from the definition of the operations: a
quotient by a million always is, an eightfold exactly if there is room for it, and so is every
integer of 64 bits.
-/

namespace LinkGauge.Double

open Float.Model (Format UnpackedFloat totalExponent)
open Float.Model.UnpackedFloat (Sign Accuracy ExtendedMantissa shiftToTargetExponent
  shiftToExponent roundWithAccuracy)

abbrev binary64 : Format := Format.binary64

lemma log2_le_of_lt {n k : ℕ} (below : n < 2 ^ (k + 1)) : n.log2 ≤ k := by
  by_cases zero : n = 0
  · simp [zero]
  · exact Nat.le_of_lt_succ ((Nat.log2_lt zero).mpr below)

lemma log2_shiftLeft {n : ℕ} (positive : 0 < n) (k : ℕ) : (n <<< k).log2 = n.log2 + k := by
  rw [Nat.shiftLeft_eq, Nat.log2_eq_iff (by positivity), pow_add, add_right_comm, pow_add]
  refine ⟨?_, ?_⟩
  · exact Nat.mul_le_mul_right _ (Nat.log2_self_le positive.ne')
  · exact Nat.mul_lt_mul_of_pos_right Nat.lt_log2_self (by positivity)

lemma mantissa_shift (em : ExtendedMantissa) (k : ℕ) :
    (em >>> k).mantissa = em.mantissa / 2 ^ k := by
  induction k with
  | zero => simp [HShiftRight.hShiftRight, Nat.repeat]
  | succ k ih =>
    change (em >>> k).mantissa / 2 = _
    rw [ih, Nat.div_div_eq_div_mul, ← pow_succ]

/-- Bits that are all zero are shifted out without a trace. -/
lemma shift_exact (q k : ℕ) :
    (⟨q * 2 ^ k, false, false⟩ : ExtendedMantissa) >>> k = ⟨q, false, false⟩ := by
  induction k generalizing q with
  | zero => simp [HShiftRight.hShiftRight, Nat.repeat]
  | succ k ih =>
    change ((⟨q * 2 ^ (k + 1), false, false⟩ : ExtendedMantissa) >>> k).shiftRightOne = _
    rw [pow_succ', ← mul_assoc, ih (q * 2)]
    simp [ExtendedMantissa.shiftRightOne]

lemma roundedMantissa_mem (em : ExtendedMantissa) :
    em.mantissa ≤ em.roundedMantissa ∧ em.roundedMantissa ≤ em.mantissa + 1 := by
  obtain ⟨m, round, sticky⟩ := em
  cases round <;> cases sticky <;>
    simp only [ExtendedMantissa.roundedMantissa, ExtendedMantissa.accuracy,
      Accuracy.roundToNearestEven] <;> omega

lemma targetExponent_eq (t : ℤ) : binary64.targetExponent t = max (t - 53) (-1074) := rfl

lemma targetExponent_total (m : ℕ) (e : ℤ) :
    binary64.targetExponent (totalExponent m e) = max (m.log2 + e - 52) (-1074) := by
  rw [targetExponent_eq, totalExponent]
  omega

section Rounding

variable (s : Sign) (m : ℕ) (e : ℤ) (a : Accuracy)

/-- How many bits of a number are too many for a double. -/
def surplus (m : ℕ) (e : ℤ) : ℕ := (max (m.log2 + e - 52) (-1074) - e).toNat

lemma div_surplus_lt : m / 2 ^ surplus m e < 2 ^ 53 := by
  rw [Nat.div_lt_iff_lt_mul (Nat.two_pow_pos _), ← pow_add]
  calc m < 2 ^ (m.log2 + 1) := Nat.lt_log2_self
    _ ≤ 2 ^ (53 + surplus m e) := Nat.pow_le_pow_right (by simp) (by rw [surplus]; omega)

lemma shiftToTargetExponent_eq : shiftToTargetExponent binary64 m e a =
    (ExtendedMantissa.ofMantissaAndAccuracy m a >>> surplus m e, e + surplus m e) := by
  simp only [shiftToTargetExponent, shiftToExponent, targetExponent_total, surplus]

/-- What fits already is not shifted. -/
lemma shiftToTargetExponent_of_fits (fits : m < 2 ^ 53) (least : -1074 ≤ e) :
    shiftToTargetExponent binary64 m e .exact = (⟨m, false, false⟩, e) := by
  have none : surplus m e = 0 := by
    have short : m.log2 ≤ 52 := log2_le_of_lt fits
    rw [surplus]
    omega
  rw [shiftToTargetExponent_eq, none]
  simp [HShiftRight.hShiftRight, Nat.repeat, ExtendedMantissa.ofMantissaAndAccuracy]

/-- A mantissa that rounding made one bit too long is shifted by that bit. -/
lemma shiftToTargetExponent_of_carry (least : -1074 ≤ e) :
    shiftToTargetExponent binary64 (2 ^ 53) e .exact = (⟨2 ^ 52, false, false⟩, e + 1) := by
  have one : surplus (2 ^ 53) e = 1 := by
    rw [surplus, Nat.log2_two_pow]
    omega
  rw [shiftToTargetExponent_eq, one]
  rfl

/-- A number is rounded to a neighbour that a double has room for: the surplus bits go, and the
rest is kept or grows by one. -/
lemma roundWithAccuracy_eq : ∃ r, m / 2 ^ surplus m e ≤ r ∧ r ≤ m / 2 ^ surplus m e + 1 ∧
    (a = .exact → 2 ^ surplus m e ∣ m → r = m / 2 ^ surplus m e) ∧
    roundWithAccuracy binary64 s m e a =
      if h : r = 0 then .zero s
      else if r < 2 ^ 53 then .finite s r (e + surplus m e) (Nat.pos_of_ne_zero h)
      else .finite s (2 ^ 52) (e + surplus m e + 1) (Nat.two_pow_pos _) := by
  have least : -1074 ≤ e + surplus m e := by
    rw [surplus]
    omega
  have kept : (ExtendedMantissa.ofMantissaAndAccuracy m a).mantissa = m := by
    rcases a with _ | (_ | _ | _) <;> rfl
  obtain ⟨low, high⟩ :=
    roundedMantissa_mem (ExtendedMantissa.ofMantissaAndAccuracy m a >>> surplus m e)
  rw [mantissa_shift, kept] at low high
  refine ⟨_, low, high, ?_, ?_⟩
  · rintro rfl divides
    have none := shift_exact (m / 2 ^ surplus m e) (surplus m e)
    rw [Nat.div_mul_cancel divides] at none
    change (ExtendedMantissa.mk m false false >>> surplus m e).roundedMantissa = _
    rw [none]
    rfl
  · have bound := div_surplus_lt m e
    rw [roundWithAccuracy, shiftToTargetExponent_eq]
    dsimp only
    generalize (ExtendedMantissa.ofMantissaAndAccuracy m a >>> surplus m e).roundedMantissa = r
      at high ⊢
    by_cases fits : r < 2 ^ 53
    · rw [shiftToTargetExponent_of_fits _ _ fits least]
      simp only [fits, if_true]
    · obtain rfl : r = 2 ^ 53 := by omega
      rw [shiftToTargetExponent_of_carry _ least]
      rfl

end Rounding

section Packing

open Float.Model.UnpackedFloat (packComponents unpackSign unpackExponent unpackMantissa
  unpackExponent_packComponents unpackMantissa_packComponents)

variable {s : Sign}

@[simp]
lemma unpackSign_packComponents {spec : Format} {exponent : BitVec spec.exponentBits}
    {fraction : BitVec spec.mantissaBitsWithoutImplicit} :
    Sign.ofBitVec (unpackSign (packComponents spec s exponent fraction)) = s := by
  have bit : unpackSign (packComponents spec s exponent fraction) = s.toBitVec := by
    apply BitVec.eq_of_getLsbD_eq
    intro i hi
    obtain rfl : i = 0 := by omega
    simp [unpackSign, packComponents, BitVec.getLsbD_append, BitVec.getElem_append]
  rw [bit]
  cases s <;> rfl

lemma toNat_one_append (fraction : BitVec 52) :
    (1#1 ++ fraction).toNat = 2 ^ 52 + fraction.toNat := by
  rw [BitVec.toNat_append, ← Nat.shiftLeft_add_eq_or_of_lt fraction.isLt]
  rfl

/-- The parts of a double, from its fields. -/
def ofFields (s : Sign) (exponent : BitVec 11) (fraction : BitVec 52) : UnpackedFloat :=
  if exponent = -1#11 then if fraction = 0#52 then .infinity s else .notANumber
  else if exponent = 0#11 then
    if h : fraction = 0#52 then .zero s
    else .finite s fraction.toNat (-1074) (by simpa [BitVec.toNat_pos, BitVec.pos_iff_ne_zero])
  else .finite s (2 ^ 52 + fraction.toNat) (exponent.toNat - 1075) (by positivity)

/-- The parts of a double are those of its fields. -/
lemma unpack_eq (bits : BitVec 64) : UnpackedFloat.unpack binary64 bits =
    ofFields (Sign.ofBitVec (@unpackSign binary64 bits)) (@unpackExponent binary64 bits)
      (@unpackMantissa binary64 bits) := by
  simp only [UnpackedFloat.unpack, toNat_one_append, ofFields]
  split
  · rfl
  · split
    next zero =>
      simp only [zero]
      rfl
    · rfl

lemma unpack_packComponents (exponent : BitVec 11) (fraction : BitVec 52) :
    UnpackedFloat.unpack binary64 (packComponents binary64 s exponent fraction) =
      ofFields s exponent fraction := by
  rw [unpack_eq, unpackSign_packComponents, unpackExponent_packComponents,
    unpackMantissa_packComponents]

variable {m : ℕ} {e : ℤ} {pos : 0 < m}

lemma unpack_pack : (Float.Model.pack (.finite s m e pos)).unpack =
    if 972 ≤ e then .infinity s
    else if m.log2 = 52 then ofFields s (BitVec.ofNat 11 (e + 1075).toNat) (BitVec.ofNat 52 m)
    else ofFields s 0#11 (BitVec.ofNat 52 m) := by
  have bias : e + Format.binary64.exponentBias + (52 : ℕ) = e + 1075 := by
    change e + (1023 : ℕ) + (52 : ℕ) = _
    omega
  simp only [← unpack_packComponents]
  simp only [Float.Model.unpack, Float.Model.pack, UnpackedFloat.pack.eq_def, bias]
  by_cases beyond : 972 ≤ e
  · rw [if_pos beyond, if_pos (by omega)]
    cases s <;> rfl
  · rw [if_neg beyond, if_neg (by omega)]
    by_cases normal : m.log2 = 52
    · rw [if_pos normal, if_pos (by rw [normal]; rfl)]
    · rw [if_neg normal, if_neg fun eq => normal (Nat.succ.inj (eq.trans rfl))]

/-- A number with an exponent that there is room for is packed as a finite double. -/
lemma isFinite_pack (fits : e ≤ 971) :
    (Float.Model.pack (.finite s m e pos)).isFinite = true := by
  have field : BitVec.ofNat 11 (e + 1075).toNat ≠ -1#11 := by
    intro eq
    have := congrArg BitVec.toNat eq
    rw [BitVec.toNat_ofNat, Nat.mod_eq_of_lt (by omega)] at this
    simp at this
    omega
  rw [Float.Model.isFinite, unpack_pack, if_neg (by omega)]
  split
  · rw [ofFields, if_neg field]
    split_ifs <;> rfl
  · rw [ofFields, if_neg (by decide)]
    split_ifs <;> rfl

/-- What cannot be that large is packed as infinite. -/
lemma unpack_pack_of_beyond (beyond : 972 ≤ e) :
    (Float.Model.pack (.finite s m e pos)).unpack = .infinity s := by
  rw [unpack_pack, if_pos beyond]

/-- A number with all its bits, and an exponent that there is room for, is kept as it is. -/
lemma unpack_pack_of_normal (normal : m.log2 = 52) (least : -1074 ≤ e) (fits : e ≤ 971) :
    (Float.Model.pack (.finite s m e pos)).unpack = .finite s m e pos := by
  have low : 2 ^ 52 ≤ m := normal ▸ Nat.log2_self_le (by omega)
  have high : m < 2 ^ 53 := by
    have := Nat.lt_log2_self (n := m)
    rwa [normal] at this
  have exponent : (BitVec.ofNat 11 (e + 1075).toNat).toNat = (e + 1075).toNat := by
    rw [BitVec.toNat_ofNat, Nat.mod_eq_of_lt (by omega)]
  have infinite : BitVec.ofNat 11 (e + 1075).toNat ≠ -1#11 := by
    intro eq
    have all : (-1#11).toNat = 2047 := rfl
    rw [eq, all] at exponent
    omega
  have subnormal : BitVec.ofNat 11 (e + 1075).toNat ≠ 0#11 := by
    intro eq
    rw [eq] at exponent
    simp at exponent
    omega
  have fraction : 2 ^ 52 + (BitVec.ofNat 52 m).toNat = m := by
    rw [BitVec.toNat_ofNat]
    omega
  rw [unpack_pack, if_neg (by omega), if_pos normal, ofFields, if_neg infinite, if_neg subnormal]
  congr 1
  rw [exponent]
  omega

/-- The parts of a finite double have room in its fields. -/
lemma parts_of_unpack {x : Float.Model} (parts : x.unpack = .finite s m e pos) :
    m < 2 ^ 53 ∧ e ≤ 971 ∧ (e = -1074 ∨ 2 ^ 52 ≤ m ∧ -1074 ≤ e) := by
  obtain ⟨sign, exponent, fraction, eq⟩ : ∃ sign exponent fraction,
      x.unpack = ofFields sign exponent fraction := ⟨_, _, _, unpack_eq _⟩
  have high := exponent.isLt
  have low := fraction.isLt
  rw [eq, ofFields] at parts
  split at parts
  · split at parts <;> cases parts
  next special =>
    have field : exponent.toNat ≠ 2 ^ 11 - 1 := by
      intro all
      apply special
      apply BitVec.eq_of_toNat_eq
      rw [all]
      rfl
    split at parts
    · split at parts
      · cases parts
      · cases parts
        omega
    next normal =>
      have field' : exponent.toNat ≠ 0 := by
        intro none
        exact normal (BitVec.eq_of_toNat_eq none)
      cases parts
      omega

end Packing

/-! ### Results that are finite -/

section Results

variable {s : Sign} {m : ℕ} {e : ℤ} {a : Accuracy}

/-- What is below `2 ^ 1023` has room after rounding, whichever way that goes. -/
lemma isFinite_round (below : m.log2 + e ≤ 1022) (fits : e ≤ 970) :
    (Float.Model.pack (roundWithAccuracy binary64 s m e a)).isFinite = true := by
  obtain ⟨r, -, -, -, eq⟩ := roundWithAccuracy_eq s m e a
  have room : e + surplus m e ≤ 970 := by
    rw [surplus]
    omega
  rw [eq]
  split
  · cases s <;> rfl
  · split
    · exact isFinite_pack (by omega)
    · exact isFinite_pack (by omega)

/-- What has at least as many bits as a double holds keeps that many. -/
lemma roundWithAccuracy_of_long (long : 52 ≤ m.log2) (least : -1074 ≤ e) :
    ∃ m' e' pos, roundWithAccuracy binary64 s m e a = .finite s m' e' pos ∧ m'.log2 = 52 ∧
      e ≤ e' ∧ e' ≤ m.log2 + e - 51 := by
  have positive : m ≠ 0 := by
    rintro rfl
    cases long
  have shift : surplus m e + 52 = m.log2 := by
    rw [surplus]
    omega
  obtain ⟨r, low, -, -, eq⟩ := roundWithAccuracy_eq s m e a
  have kept : 2 ^ 52 ≤ r := by
    refine le_trans ?_ low
    rw [Nat.le_div_iff_mul_le (Nat.two_pow_pos _), ← pow_add, add_comm, shift]
    exact Nat.log2_self_le positive
  rw [eq, dif_neg (by omega)]
  split
  next short =>
    have bits : r.log2 = 52 := (Nat.log2_eq_iff (by omega)).mpr ⟨kept, short⟩
    exact ⟨r, _, by omega, rfl, bits, by omega, by omega⟩
  · exact ⟨2 ^ 52, _, Nat.two_pow_pos _, rfl, Nat.log2_two_pow, by omega, by omega⟩

end Results

section Arithmetic

variable {x : Float} {s : Sign} {m : ℕ} {e : ℤ} {pos : 0 < m}

lemma isFinite_eq (x : Float) : x.isFinite = x.toModel.unpack.isFinite := rfl

lemma lt_iff (x y : Float) : x < y ↔ x.toModel.unpack.lt y.toModel.unpack = true := by
  simp only [LT.lt, Float.lt, Float.Model.lt]
  exact decide_eq_true_iff

lemma le_iff (x y : Float) : x ≤ y ↔ x.toModel.unpack.le y.toModel.unpack = true := by
  simp only [LE.le, Float.le, Float.Model.le]
  exact decide_eq_true_iff

lemma of_positive (positive : 0 < x) : 0 ≤ x ∧ ¬x < 0 := by
  have zero : (0 : Float).toModel.unpack = .zero .positive := rfl
  rw [lt_iff, zero] at positive
  rw [le_iff, lt_iff, zero]
  cases eq : x.toModel.unpack with
  | notANumber =>
    rw [eq] at positive
    cases positive
  | infinity s | zero s | finite s =>
    rw [eq] at positive
    cases s with
    | negative => cases positive
    | positive => exact ⟨rfl, nofun⟩

/-- What is finite is zero or has a mantissa and an exponent. -/
lemma finite_cases (finite : x.isFinite = true) :
    (∃ s, x.toModel.unpack = .zero s) ∨ ∃ s m e pos, x.toModel.unpack = .finite s m e pos := by
  rw [isFinite_eq] at finite
  cases eq : x.toModel.unpack with
  | infinity => rw [eq] at finite; cases finite
  | notANumber => rw [eq] at finite; cases finite
  | zero s => exact .inl ⟨s, rfl⟩
  | finite s m e pos => exact .inr ⟨s, m, e, pos, rfl⟩

lemma toModel_div (x y : Float) : (x / y).toModel =
    .pack (UnpackedFloat.div binary64 x.toModel.unpack y.toModel.unpack) := rfl

lemma toModel_mul (x y : Float) : (x * y).toModel =
    .pack (UnpackedFloat.mul binary64 x.toModel.unpack y.toModel.unpack) := rfl

lemma toModel_neg (x : Float) : (-x).toModel = .pack x.toModel.unpack.neg := rfl

lemma unpack_million : (1000000 : Float).toModel.unpack =
    .finite .positive (1000000 * 2 ^ 33) (-33) (by decide) := rfl

lemma unpack_eight : (8 : Float).toModel.unpack =
    .finite .positive (2 ^ 52) (-49) (by decide) := rfl

/-- A double without a sign keeps being finite with it. -/
lemma isFinite_neg (finite : x.isFinite = true) : (-x).isFinite = true := by
  rw [isFinite_eq, toModel_neg]
  obtain ⟨s, eq⟩ | ⟨s, m, e, pos, eq⟩ := finite_cases finite
  · rw [eq]
    cases s <;> rfl
  · rw [eq]
    exact isFinite_pack (parts_of_unpack eq).2.1

/-! ### Division by a million -/

/-- The quotient of a double and a million is finite. -/
lemma isFinite_div_million (finite : x.isFinite = true) : (x / 1000000).isFinite = true := by
  rw [isFinite_eq, toModel_div, unpack_million]
  obtain ⟨s, eq⟩ | ⟨s, m, e, pos, eq⟩ := finite_cases finite
  · rw [eq]
    cases s <;> rfl
  · obtain ⟨high, fits, -⟩ := parts_of_unpack eq
    rw [eq]
    simp only [UnpackedFloat.div, UnpackedFloat.divCore]
    generalize target : min (e - -33) _ = t
    have bits : m.log2 ≤ 52 := log2_le_of_lt high
    have small : t ≤ 951 := by
      rw [← target, targetExponent_eq, totalExponent, totalExponent]
      have : (1000000 * 2 ^ 33 : ℕ).log2 = 52 := by decide
      omega
    -- The divisor has as many bits as the dividend may have, so the quotient has little more than
    -- the dividend was shifted by.
    have short : (m <<< (e - -33 - t).toNat / (1000000 * 2 ^ 33)).log2 ≤ (e - -33 - t).toNat := by
      refine log2_le_of_lt ((Nat.div_lt_iff_lt_mul (by decide)).mpr ?_)
      rw [Nat.shiftLeft_eq, pow_succ, mul_assoc, mul_comm]
      exact Nat.mul_lt_mul_of_pos_left (by omega) (by positivity)
    have least : t ≤ e - -33 := target ▸ min_le_left _ _
    exact isFinite_round (by omega) (by omega)

/-- What is infinite stays so. -/
lemma unpack_div_million_of_infinite (infinite : x.toModel.unpack = .infinity s) :
    (x / 1000000).toModel.unpack = .infinity s := by
  rw [toModel_div, unpack_million, infinite]
  cases s <;> rfl

/-! ### Multiplication by eight -/

/-- The least double whose eightfold is infinite, `2 ^ 1021`. -/
def eighth : Float := Float.ofBits 0x7FC0000000000000

lemma unpack_eighth : eighth.toModel.unpack = .finite .positive (2 ^ 52) 969 (by decide) := rfl

/-- A double with all its bits keeps them when it is multiplied by eight. -/
lemma round_eight (pos : 0 < m) (normal : m.log2 = 52) (least : -1074 ≤ e) :
    roundWithAccuracy binary64 s (m * 2 ^ 52) (e + -49) .exact = .finite s m (e + 3) pos := by
  have bits : (m * 2 ^ 52).log2 = 104 := by
    rw [← Nat.shiftLeft_eq, log2_shiftLeft pos, normal]
  have short : m < 2 ^ 53 := by
    rw [← Nat.log2_lt pos.ne', normal]
    decide
  have shift : surplus (m * 2 ^ 52) (e + -49) = 52 := by
    rw [surplus, bits]
    omega
  obtain ⟨r, -, -, exact, eq⟩ := roundWithAccuracy_eq s (m * 2 ^ 52) (e + -49) .exact
  rw [shift] at exact eq
  have kept : r = m := by
    rw [exact rfl (Nat.dvd_mul_left _ _), Nat.mul_div_cancel _ (Nat.two_pow_pos _)]
  rw [eq, dif_neg (by omega), if_pos (by omega)]
  congr 1
  omega

lemma finite_lt_eighth (parts : x.toModel.unpack = .finite s m e pos) :
    x < eighth ↔ s = .negative ∨ e ≤ 968 := by
  obtain ⟨-, -, least⟩ := parts_of_unpack parts
  rw [lt_iff, parts, unpack_eighth]
  cases s with
  | negative => exact iff_of_true rfl (.inl rfl)
  | positive =>
    simp only [UnpackedFloat.lt, UnpackedFloat.compare, reduceCtorEq, false_or, beq_iff_eq,
      Option.some.injEq, Ordering.then_eq_lt, Int.compare_eq_lt, Int.compare_eq_eq,
      Nat.compare_eq_lt]
    -- With the exponent of the bound, a mantissa has all its bits.
    omega

lemma isFinite_mul_eight (parts : x.toModel.unpack = .finite s m e pos) (fits : e ≤ 968) :
    (x * 8).isFinite = true := by
  obtain ⟨high, -, least⟩ := parts_of_unpack parts
  have same : s * .positive = s := by cases s <;> rfl
  rw [isFinite_eq, toModel_mul, unpack_eight, parts, UnpackedFloat.mul, same]
  rcases least with rfl | ⟨long, least⟩
  · have := log2_le_of_lt high
    refine isFinite_round ?_ (by decide)
    rw [← Nat.shiftLeft_eq, log2_shiftLeft pos]
    omega
  · rw [round_eight pos ((Nat.log2_eq_iff pos.ne').mpr ⟨long, high⟩) least]
    exact isFinite_pack (by omega)

lemma unpack_mul_eight (parts : x.toModel.unpack = .finite s m e pos) (beyond : 969 ≤ e) :
    (x * 8).toModel.unpack = .infinity s := by
  obtain ⟨high, -, rfl | ⟨long, least⟩⟩ := parts_of_unpack parts
  · cases beyond
  have same : s * .positive = s := by cases s <;> rfl
  rw [toModel_mul, unpack_eight, parts, UnpackedFloat.mul, same,
    round_eight pos ((Nat.log2_eq_iff pos.ne').mpr ⟨long, high⟩) least]
  exact unpack_pack_of_beyond (by omega)

/-- The eightfold of a finite double is finite if there is room for it, and infinite else. -/
lemma mul_eight_cases (finite : x.isFinite = true) :
    x < eighth ∧ ((x * 8).isFinite = true ∨ (x * 8).toModel.unpack = .infinity .negative) ∨
    ¬x < eighth ∧ (x * 8).toModel.unpack = .infinity .positive := by
  obtain ⟨s, zero⟩ | ⟨s, m, e, pos, parts⟩ := finite_cases finite
  · rw [lt_iff, isFinite_eq (x * 8), toModel_mul, unpack_eight, unpack_eighth, zero]
    cases s <;> exact .inl ⟨rfl, .inl rfl⟩
  rw [finite_lt_eighth parts]
  by_cases fits : e ≤ 968
  · exact .inl ⟨.inr fits, .inl (isFinite_mul_eight parts fits)⟩
  · have infinite := unpack_mul_eight parts (by omega)
    cases s with
    | negative => exact .inl ⟨.inl rfl, .inr infinite⟩
    | positive => exact .inr ⟨by simp [fits], infinite⟩

/-! ### Integers -/

/-- A double with all its bits, and a sign. -/
def IsNormal (s : Sign) (x : Float.Model) : Prop :=
  ∃ m e pos, x.unpack = .finite s m e pos ∧ m.log2 = 52 ∧ -1074 ≤ e ∧ e ≤ 971

/-- A number other than zero that is not too large comes to a double with all its bits. -/
lemma isNormal_round (positive : 0 < m) (small : m.log2 ≤ 1000) :
    IsNormal s (.pack (UnpackedFloat.round binary64 s m 0)) := by
  rw [UnpackedFloat.round, targetExponent_total, UnpackedFloat.decreaseExponent]
  dsimp only
  generalize shift : (0 - max ((m.log2 : ℤ) + 0 - 52) (-1074)).toNat = k
  have bits := log2_shiftLeft positive k
  obtain ⟨m', e', pos, eq, normal, low, high⟩ := roundWithAccuracy_of_long (s := s)
    (m := m <<< k) (e := 0 - k) (a := .exact) (by omega) (by omega)
  rw [eq]
  have least : -1074 ≤ e' := by omega
  have fits : e' ≤ 971 := by omega
  exact ⟨m', e', pos, unpack_pack_of_normal normal least fits, normal, least, fits⟩

lemma toModel_toFloat (n : UInt64) : n.toFloat.toModel =
    .pack (UnpackedFloat.normalize binary64 n.toNat 0 .positive) := rfl

lemma isNormal_toFloat {n : UInt64} (positive : n ≠ 0) : IsNormal .positive n.toFloat.toModel := by
  have above : 0 < n.toNat := UInt64.lt_iff_toNat_lt.mp (UInt64.pos_iff_ne_zero.mpr positive)
  have order : compare (n.toNat : ℤ) 0 = .gt := Int.compare_eq_gt.mpr (by omega)
  simp only [toModel_toFloat, UnpackedFloat.normalize, order, Int.toNat_natCast]
  have small : n.toNat.log2 ≤ 63 := log2_le_of_lt n.toNat_lt
  exact isNormal_round above (by omega)

lemma IsNormal.isFinite (normal : IsNormal s x.toModel) : x.isFinite = true := by
  obtain ⟨m, e, pos, eq, -⟩ := normal
  rw [isFinite_eq, eq]
  rfl

/-- A double with all its bits is not zero. -/
lemma IsNormal.beq_zero (normal : IsNormal s x.toModel) : (x == 0) = false := by
  obtain ⟨m, e, pos, eq, -⟩ := normal
  have zero : (0 : Float).toModel.unpack = .zero .positive := rfl
  simp only [BEq.beq, Float.beq, Float.Model.beq, eq, zero]
  cases s <;> rfl

lemma IsNormal.neg (normal : IsNormal s x.toModel) : IsNormal (-s) (-x).toModel := by
  obtain ⟨m, e, pos, eq, bits, least, fits⟩ := normal
  rw [toModel_neg, eq]
  exact ⟨m, e, pos, unpack_pack_of_normal bits least fits, bits, least, fits⟩

lemma isFinite_toFloat (n : UInt64) : n.toFloat.isFinite = true := by
  by_cases zero : n = 0
  · rw [zero]
    rfl
  · exact (isNormal_toFloat zero).isFinite

end Arithmetic

end LinkGauge.Double
