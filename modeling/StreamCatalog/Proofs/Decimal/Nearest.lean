import StreamCatalog.Decimal.Reader
import StreamCatalog.Proofs.Decimal.Binary

/-!
# The number nearest to a decimal

`nearest_of_names`: the number that `nearest` gives for a decimal is the binary number that the
decimal names, if it names one.  The library has two ways to get there.  If the digits and the power of
ten are short, both are binary numbers and one division or multiplication is made, which is
rounded once.  Otherwise digits and power are taken as they are, in arithmetic without bounds,
and the division or multiplication is the same.
-/

namespace StreamCatalog
namespace Decimal

open Float.Model (Format UnpackedFloat totalExponent)
open Float.Model.UnpackedFloat

variable {b : Binary}

/-! ## One operation -/

theorem log2_le_log2_mul {m n : ℕ} (hm : 0 < m) (hn : 0 < n) : m.log2 ≤ (m * n).log2 := by
  refine (Nat.le_log2 (Nat.mul_pos hm hn).ne').mpr ?_
  exact (Nat.log2_self_le hm.ne').trans (Nat.le_mul_of_pos_right m hn)

/-- An exact product is rounded to the number that it names. -/
theorem mul_eq {m n : ℕ} {e f : ℤ} {hm : 0 < m} {hn : 0 < n} (long : 52 ≤ (m * n).log2)
    (names : b.Names (m * 2 ^ e * (n * 2 ^ f))) :
    UnpackedFloat.mul Format.binary64 (.finite .positive m e hm) (.finite .positive n f hn) =
      b.unpacked .positive := by
  refine Binary.roundWithAccuracy_eq (s := .positive) ?_ (by omega) names
  show _ = ((m * n : ℕ) : ℚ)
  have product : (m : ℚ) * 2 ^ e * (n * 2 ^ f) = m * n * 2 ^ (e + f) := by
    rw [zpow_add₀ two_ne_zero]
    ring
  rw [product, mul_div_cancel_right₀ _ (by positivity)]
  push_cast
  rfl

/-- What is left over by a division is told by two bits. -/
theorem stands_accuracyOfFraction (m : ℕ) {n : ℕ} (positive : 0 < n) :
    Stands (.ofMantissaAndAccuracy (m / n) (accuracyOfFraction (m % n) n)) ((m : ℚ) / n) := by
  have unit : (0 : ℚ) < n := by exact_mod_cast positive
  have split : (m : ℚ) = ((m / n : ℕ) : ℚ) * n + ((m % n : ℕ) : ℚ) := by
    exact_mod_cast (Nat.div_add_mod' m n).symm
  have less : ((m % n : ℕ) : ℚ) < n := by exact_mod_cast Nat.mod_lt m positive
  unfold accuracyOfFraction
  by_cases exact : m % n = 0
  · rw [if_pos exact]
    rw [exact, Nat.cast_zero, add_zero] at split
    show (m : ℚ) / n = ((m / n : ℕ) : ℚ)
    rw [div_eq_iff unit.ne']
    exact split
  · rw [if_neg exact]
    have some : (0 : ℚ) < ((m % n : ℕ) : ℚ) := by exact_mod_cast Nat.pos_of_ne_zero exact
    generalize half : compare (2 * (m % n)) n = order
    cases order with
    | lt =>
      have half : 2 * (m % n) < n := compare_lt_iff_lt.mp half
      have half : 2 * ((m % n : ℕ) : ℚ) < n := by exact_mod_cast half
      show ((m / n : ℕ) : ℚ) < (m : ℚ) / n ∧ (m : ℚ) / n < ((m / n : ℕ) : ℚ) + 1 / 2
      rw [lt_div_iff₀ unit, div_lt_iff₀ unit]
      constructor <;> linarith
    | eq =>
      have half : 2 * (m % n) = n := compare_eq_iff_eq.mp half
      have half : 2 * ((m % n : ℕ) : ℚ) = n := by exact_mod_cast half
      show (m : ℚ) / n = ((m / n : ℕ) : ℚ) + 1 / 2
      rw [div_eq_iff unit.ne']
      linarith
    | gt =>
      have half : n < 2 * (m % n) := compare_gt_iff_gt.mp half
      have half : (n : ℚ) < 2 * ((m % n : ℕ) : ℚ) := by exact_mod_cast half
      show ((m / n : ℕ) : ℚ) + 1 / 2 < (m : ℚ) / n ∧ (m : ℚ) / n < ((m / n : ℕ) : ℚ) + 1
      rw [lt_div_iff₀ unit, div_lt_iff₀ unit]
      constructor <;> linarith

/-- The exponent that a quotient is computed with: small enough to give all places. -/
def quotientExponent (m n : ℕ) (e f : ℤ) : ℤ :=
  min (e - f) (max ((m.log2 : ℤ) + e - (n.log2 + f) - 53) (-1074))

theorem divCore_eq (m n : ℕ) (e f : ℤ) :
    divCore Format.binary64 m e n f =
      (m * 2 ^ (e - f - quotientExponent m n e f).toNat / n, quotientExponent m n e f,
        accuracyOfFraction (m * 2 ^ (e - f - quotientExponent m n e f).toNat % n) n) := by
  have target : Format.binary64.targetExponent (totalExponent m e - totalExponent n f) =
      max ((m.log2 : ℤ) + e - (n.log2 + f) - 53) (-1074) := by
    simp only [Format.targetExponent, totalExponent, Format.mantissaBits, Format.minExponent]
    norm_num
    omega
  unfold divCore
  simp only [target, Nat.shiftLeft_eq]
  rfl

/-- With that exponent a quotient has all places, unless the exponent is the least. -/
theorem quotientExponent_le {m n : ℕ} (hm : 0 < m) (hn : 0 < n) (e f : ℤ) :
    quotientExponent m n e f ≤
      max (((m * 2 ^ (e - f - quotientExponent m n e f).toNat / n).log2 : ℤ) +
        quotientExponent m n e f - 52) (-1074) := by
  by_cases least : quotientExponent m n e f ≤ -1074
  · exact le_max_of_le_right least
  · generalize shift : (e - f - quotientExponent m n e f).toNat = k
    have enough : n.log2 + 53 ≤ m.log2 + k := by
      unfold quotientExponent at least shift
      omega
    have long : 2 ^ 52 ≤ m * 2 ^ k / n := by
      refine (Nat.le_div_iff_mul_le hn).mpr ?_
      calc 2 ^ 52 * n ≤ 2 ^ 52 * 2 ^ (n.log2 + 1) :=
            Nat.mul_le_mul_left _ Nat.lt_log2_self.le
        _ = 2 ^ (n.log2 + 53) := by
          rw [← pow_add]
          congr 1
          omega
        _ ≤ 2 ^ (m.log2 + k) := Nat.pow_le_pow_right (by decide) enough
        _ ≤ m * 2 ^ k := by
          rw [pow_add]
          exact Nat.mul_le_mul_right _ (Nat.log2_self_le hm.ne')
    have places : 52 ≤ (m * 2 ^ k / n).log2 :=
      (Nat.le_log2 (Nat.pos_of_ne_zero (by omega)).ne').mpr long
    refine le_max_of_le_left ?_
    omega

/-- A quotient is rounded to the number that it names. -/
theorem div_eq {m n : ℕ} {e f : ℤ} {hm : 0 < m} {hn : 0 < n}
    (names : b.Names (m * 2 ^ e / (n * 2 ^ f))) :
    UnpackedFloat.div Format.binary64 (.finite .positive m e hm) (.finite .positive n f hn) =
      b.unpacked .positive := by
  have nonzero : (n : ℚ) ≠ 0 := by exact_mod_cast hn.ne'
  have below : quotientExponent m n e f ≤ e - f := min_le_left _ _
  have fine := quotientExponent_le hm hn e f
  show roundWithAccuracy Format.binary64 .positive (divCore Format.binary64 m e n f).1
    (divCore Format.binary64 m e n f).2.1 (divCore Format.binary64 m e n f).2.2 = _
  rw [divCore_eq]
  generalize quotientExponent m n e f = t at below fine
  refine Binary.roundWithAccuracy_eq ?_ fine names
  obtain ⟨k, shift⟩ := Int.le.dest below
  have steps : (e - f - t).toNat = k := by omega
  have exponent : e = t + k + f := by omega
  have quotient : (m : ℚ) * 2 ^ e / (n * 2 ^ f) / 2 ^ t = ((m * 2 ^ k : ℕ) : ℚ) / n := by
    rw [exponent, zpow_add₀ two_ne_zero, zpow_add₀ two_ne_zero, zpow_natCast]
    push_cast
    field_simp
  rw [steps, quotient]
  exact stands_accuracyOfFraction _ hn

/-! ## Whole numbers and powers of ten -/

theorem log2_mul_two_pow {m : ℕ} (some : m ≠ 0) (k : ℕ) : (m * 2 ^ k).log2 = m.log2 + k := by
  induction k with
  | zero => rw [pow_zero, mul_one, Nat.add_zero]
  | succ k ih =>
    have twice : m * 2 ^ (k + 1) = 2 * (m * 2 ^ k) := by ring
    rw [twice, Nat.log2_two_mul (by positivity), ih, Nat.add_assoc]

/-- A whole number with an exponent is rounded to the number that it names. -/
theorem round_eq {m : ℕ} {e : ℤ} (positive : 0 < m) (names : b.Names (m * 2 ^ e)) :
    UnpackedFloat.round Format.binary64 .positive m e = b.unpacked .positive := by
  have target := Binary.targetExponent_eq m e
  generalize shift : (e - Format.binary64.targetExponent (totalExponent m e)).toNat = k
  have shown : UnpackedFloat.round Format.binary64 .positive m e =
      roundWithAccuracy Format.binary64 .positive (m * 2 ^ k) (e - k) .exact := by
    unfold UnpackedFloat.round decreaseExponent
    simp only [shift, Nat.shiftLeft_eq]
  rw [shown]
  refine Binary.roundWithAccuracy_eq ?_ ?_ names
  · show _ = ((m * 2 ^ k : ℕ) : ℚ)
    rw [zpow_sub₀ two_ne_zero, zpow_natCast]
    push_cast
    field_simp
  · rw [log2_mul_two_pow positive.ne', Nat.cast_add]
    omega

/-- A short whole number as a binary number. -/
def Binary.ofNat (n : ℕ) (positive : 0 < n) (short : n < 2 ^ 53) : Binary :=
  have bits : n.log2 < 53 := (Nat.log2_lt positive.ne').mpr short
  have places : (n * 2 ^ (52 - n.log2)).log2 = 52 := by
    rw [log2_mul_two_pow positive.ne']
    omega
  have some : n * 2 ^ (52 - n.log2) ≠ 0 := by positivity
  { mantissa := n * 2 ^ (52 - n.log2)
    exponent := n.log2 - 52
    positive := Nat.pos_of_ne_zero some
    places := (Nat.log2_lt some).mp (by omega)
    low := by omega
    high := by omega
    normal := Or.inl ((Nat.le_log2 some).mp places.ge) }

theorem Binary.log2_ofNat {n : ℕ} (positive : 0 < n) (short : n < 2 ^ 53) :
    (Binary.ofNat n positive short).mantissa.log2 = 52 := by
  have bits : n.log2 < 53 := (Nat.log2_lt positive.ne').mpr short
  show (n * 2 ^ (52 - n.log2)).log2 = 52
  rw [log2_mul_two_pow positive.ne']
  omega

theorem Binary.value_ofNat {n : ℕ} (positive : 0 < n) (short : n < 2 ^ 53) :
    (Binary.ofNat n positive short).value = n := by
  have bits : n.log2 < 53 := (Nat.log2_lt positive.ne').mpr short
  show ((n * 2 ^ (52 - n.log2) : ℕ) : ℚ) * 2 ^ ((n.log2 : ℤ) - 52) = n
  have exponent : (n.log2 : ℤ) - 52 = -((52 - n.log2 : ℕ) : ℤ) := by omega
  rw [exponent, zpow_neg, zpow_natCast]
  push_cast
  field_simp

/-- A short whole number is converted exactly. -/
theorem unpack_toFloat {n : ℕ} (positive : 0 < n) (short : n < 2 ^ 53) :
    n.toUInt64.toFloat.toModel.unpack = (Binary.ofNat n positive short).unpacked .positive := by
  have same : n.toUInt64.toNat = n := Nat.mod_eq_of_lt (by omega)
  have names : (Binary.ofNat n positive short).Names (n * 2 ^ (0 : ℤ)) := by
    have self := (Binary.ofNat n positive short).names_value
    rwa [Binary.value_ofNat, ← mul_one (n : ℚ), ← zpow_zero (2 : ℚ)] at self
  have order : compare (n : ℤ) 0 = .gt := compare_gt_iff_gt.mpr (by exact_mod_cast positive)
  have converted : UnpackedFloat.ofUInt64 Format.binary64 n.toUInt64 =
      (Binary.ofNat n positive short).unpacked .positive := by
    rw [UnpackedFloat.ofUInt64, same, UnpackedFloat.ofNat, UnpackedFloat.ofInt,
      UnpackedFloat.normalize, order]
    exact round_eq positive names
  show (Float.Model.pack (UnpackedFloat.ofUInt64 Format.binary64 n.toUInt64)).unpack = _
  rw [converted, Binary.unpack_pack]

/-- A power with a signed exponent as a fraction of two powers. -/
theorem zpow_eq_div {a : ℚ} (some : a ≠ 0) (e : ℤ) : a ^ e = a ^ e.toNat / a ^ (-e).toNat := by
  have signed : e = (e.toNat : ℤ) - ((-e).toNat : ℤ) := by omega
  calc a ^ e = a ^ ((e.toNat : ℤ) - ((-e).toNat : ℤ)) := by rw [← signed]
    _ = a ^ e.toNat / a ^ (-e).toNat := by rw [zpow_sub₀ some, zpow_natCast, zpow_natCast]

/-- Does the library keep this as the power of ten with this exponent? -/
def isPowerOfTen (j : ℕ) : UnpackedFloat → Bool
  | .finite .positive m e _ => m * 2 ^ e.toNat = 10 ^ j * 2 ^ (-e).toNat
  | _ => false

theorem exists_of_isPowerOfTen {j : ℕ} {u : UnpackedFloat} (h : isPowerOfTen j u = true) :
    ∃ m e hm, u = .finite .positive m e hm ∧ (m : ℚ) * 2 ^ e = 10 ^ j := by
  unfold isPowerOfTen at h
  split at h
  · rename_i m e hm
    have same : (m : ℚ) * 2 ^ e.toNat = 10 ^ j * 2 ^ (-e).toNat := by
      exact_mod_cast of_decide_eq_true h
    refine ⟨m, e, hm, rfl, ?_⟩
    rw [zpow_eq_div two_ne_zero, ← mul_div_assoc, div_eq_iff (by positivity)]
    exact same
  · exact nomatch h

/-- The powers of ten that the library keeps are exact. -/
theorem isPowerOfTen_exactlyRepresentablePowersOfTen :
    ∀ j : Fin Float.exactlyRepresentablePowersOfTen.size,
      isPowerOfTen j (Float.exactlyRepresentablePowersOfTen[j]).toModel.unpack = true := by
  decide

theorem exists_powerOfTen {j : ℕ} (inside : j < Float.exactlyRepresentablePowersOfTen.size) :
    ∃ m e hm, (Float.exactlyRepresentablePowersOfTen[j]).toModel.unpack =
      .finite .positive m e hm ∧ (m : ℚ) * 2 ^ e = 10 ^ j :=
  exists_of_isPowerOfTen (isPowerOfTen_exactlyRepresentablePowersOfTen ⟨j, inside⟩)

/-! ## Decimals -/

theorem toModel_div (x y : Float) : (x / y).toModel =
    .pack (UnpackedFloat.div Format.binary64 x.toModel.unpack y.toModel.unpack) := rfl

theorem toModel_mul (x y : Float) : (x * y).toModel =
    .pack (UnpackedFloat.mul Format.binary64 x.toModel.unpack y.toModel.unpack) := rfl

/-- With short digits and a short power one operation on two numbers is enough. -/
theorem ofScientific_of_short {n j : ℕ} {down : Bool} (positive : 0 < n) (short : n < 2 ^ 53)
    (few : j ≤ 22) (names : b.Names (if down then n / 10 ^ j else n * 10 ^ j)) :
    (Float.ofScientific n down j).toModel = .pack (b.unpacked .positive) := by
  have inside : j < Float.exactlyRepresentablePowersOfTen.size := Nat.lt_succ_of_le few
  obtain ⟨m, e, hm, unpacked, value⟩ := exists_powerOfTen inside
  have whole := unpack_toFloat positive short
  have exact := Binary.value_ofNat positive short
  unfold Binary.value at exact
  unfold Float.ofScientific
  rw [dif_pos ⟨short, few⟩]
  cases down with
  | true =>
    show (n.toUInt64.toFloat / Float.exactlyRepresentablePowersOfTen[j]).toModel = _
    rw [toModel_div, whole, unpacked]
    refine congrArg Float.Model.pack (div_eq ?_)
    rw [exact, value]
    exact names
  | false =>
    show (n.toUInt64.toFloat * Float.exactlyRepresentablePowersOfTen[j]).toModel = _
    rw [toModel_mul, whole, unpacked]
    refine congrArg Float.Model.pack (mul_eq ?_ ?_)
    · rw [← Binary.log2_ofNat positive short]
      exact log2_le_log2_mul (Binary.positive _) hm
    · rw [exact, value]
      exact names

/-- Without bounds, digits are multiplied by a power of ten as they are ... -/
theorem ofScientific_natCast {n j : ℕ} (positive : 0 < n) (few : j ≤ 2048)
    (names : b.Names (n * 10 ^ j)) :
    UnpackedFloat.ofScientific Format.binary64 n (j : ℤ) = b.unpacked .positive := by
  have range : (2 : ℤ) ^ Format.binary64.exponentBits = 2048 := by decide
  have places : Format.binary64.mantissaBits = 53 := rfl
  unfold UnpackedFloat.ofScientific
  rw [dif_neg positive.ne', range, if_neg (by omega), if_neg (by omega), if_pos (by omega)]
  refine mul_eq ?_ ?_
  · have long : 52 ≤ (n <<< Format.binary64.mantissaBits).log2 := by
      rw [places, Nat.shiftLeft_eq, log2_mul_two_pow positive.ne']
      omega
    exact long.trans (log2_le_log2_mul (by rw [Nat.shiftLeft_eq]; positivity) (by positivity))
  · have value : ((n <<< Format.binary64.mantissaBits : ℕ) : ℚ) *
        2 ^ (-(Format.binary64.mantissaBits : ℤ)) * ((10 ^ (j : ℤ).toNat : ℕ) * 2 ^ (0 : ℤ)) =
        n * 10 ^ j := by
      rw [places, Nat.shiftLeft_eq, zpow_neg, zpow_natCast, zpow_zero, Int.toNat_natCast]
      push_cast
      field_simp
      norm_num
    rw [value]
    exact names

/-- ... or divided by one. -/
theorem ofScientific_neg {n j : ℕ} (positive : 0 < n) (some : 0 < j) (few : j ≤ 2048)
    (names : b.Names (n / 10 ^ j)) :
    UnpackedFloat.ofScientific Format.binary64 n (-(j : ℤ)) = b.unpacked .positive := by
  have range : (2 : ℤ) ^ Format.binary64.exponentBits = 2048 := by decide
  unfold UnpackedFloat.ofScientific
  rw [dif_neg positive.ne', range, if_neg (by omega), if_neg (by omega), if_neg (by omega)]
  refine div_eq ?_
  rw [neg_neg, Int.toNat_natCast, zpow_zero, mul_one, mul_one]
  push_cast
  exact names

/-- Digits and a power of ten are rounded to the number that they name. -/
theorem ofScientific_eq {n j : ℕ} {down : Bool} (positive : 0 < n) (few : j ≤ 2048)
    (names : b.Names (if down then n / 10 ^ j else n * 10 ^ j)) :
    (Float.ofScientific n down j).toModel = .pack (b.unpacked .positive) := by
  by_cases short : n < 2 ^ 53 ∧ j ≤ 22
  · exact ofScientific_of_short positive short.1 short.2 names
  · unfold Float.ofScientific
    rw [dif_neg short]
    refine congrArg Float.Model.pack ?_
    cases down with
    | false => exact ofScientific_natCast positive few names
    | true =>
      cases j with
      | zero =>
        have names : b.Names (n * 10 ^ 0) := by
          rw [pow_zero, mul_one]
          rwa [if_pos rfl, pow_zero, div_one] at names
        exact ofScientific_natCast positive few names
      | succ j => exact ofScientific_neg positive (Nat.succ_pos j) few names

/-! ## Far away decimals -/

/-- A number that names something is not too small ... -/
theorem Binary.Names.two_zpow_le_of_names {v : ℚ} (names : b.Names v) :
    (2 : ℚ) ^ (-1075 : ℤ) ≤ v := by
  have unit : (0 : ℚ) < 2 ^ b.exponent := by positivity
  have half : (2 : ℚ) ^ (-1075 : ℤ) ≤ 2 ^ b.exponent / 2 := by
    have least : (2 : ℚ) ^ (-1074 : ℤ) ≤ 2 ^ b.exponent :=
      zpow_le_zpow_right₀ one_le_two b.low
    have twice : (2 : ℚ) ^ (-1074 : ℤ) = 2 * 2 ^ (-1075 : ℤ) := by
      rw [← zpow_one_add₀ two_ne_zero]
      norm_num
    linarith
  have some : (1 : ℚ) ≤ b.mantissa := by exact_mod_cast b.positive
  have least := mul_le_mul_of_nonneg_right some unit.le
  have low : b.value - 2 ^ b.exponent / 2 ≤ v := by
    rcases names.low with ⟨-, low⟩ | ⟨-, low | ⟨-, low⟩⟩ <;> linarith
  unfold value at low
  linarith

/-- ... and not too large. -/
theorem Binary.Names.lt_two_pow {v : ℚ} (names : b.Names v) : v < 2 ^ 1024 := by
  have most : (2 : ℚ) ^ (b.exponent + 53) ≤ 2 ^ (1024 : ℤ) := by
    have high := b.high
    exact zpow_le_zpow_right₀ one_le_two (by omega)
  exact_mod_cast names.lt_two_zpow.trans_le most

/-- A decimal that is not too large has few binary places before the point.  Three decimal
places are less than ten binary ones. -/
theorem log2_lt_of_lt {n j : ℕ} (some : n ≠ 0) (high : (n : ℚ) / 10 ^ j < 2 ^ 1024) :
    3 * n.log2 < 3072 + 10 * j := by
  rw [div_lt_iff₀ (by positivity)] at high
  have high : n < 2 ^ 1024 * 10 ^ j := by exact_mod_cast high
  have low : 2 ^ n.log2 < 2 ^ 1024 * 10 ^ j := (Nat.log2_self_le some).trans_lt high
  have cubes : 2 ^ (3 * n.log2) < 2 ^ (3072 + 10 * j) := by
    calc 2 ^ (3 * n.log2) = (2 ^ n.log2) ^ 3 := by rw [← pow_mul, Nat.mul_comm]
      _ < (2 ^ 1024 * 10 ^ j) ^ 3 := Nat.pow_lt_pow_left low (by decide)
      _ = 2 ^ 3072 * (10 ^ 3) ^ j := by
        rw [mul_pow, ← pow_mul, ← pow_mul, ← pow_mul, Nat.mul_comm j]
      _ ≤ 2 ^ 3072 * (2 ^ 10) ^ j :=
        Nat.mul_le_mul_left _ (Nat.pow_le_pow_left (by decide) j)
      _ = 2 ^ (3072 + 10 * j) := by rw [← pow_mul, ← pow_add]
  exact (Nat.pow_lt_pow_iff_right (by decide)).mp cubes

/-- A decimal that is not too small has not too few.  Ten decimal places are more than
thirty-three binary ones. -/
theorem lt_log2_of_le {n j : ℕ} (low : (2 : ℚ) ^ (-1075 : ℤ) ≤ (n : ℚ) / 10 ^ j) :
    33 * j < 10 * (n.log2 + 1076) := by
  rw [le_div_iff₀ (by positivity), zpow_neg, inv_mul_le_iff₀ (by positivity)] at low
  have low : 10 ^ j ≤ 2 ^ 1075 * n := by exact_mod_cast low
  have high : 10 ^ j < 2 ^ (n.log2 + 1076) := by
    calc 10 ^ j ≤ 2 ^ 1075 * n := low
      _ < 2 ^ 1075 * 2 ^ (n.log2 + 1) := Nat.mul_lt_mul_of_pos_left Nat.lt_log2_self (by positivity)
      _ = 2 ^ (n.log2 + 1076) := by
        rw [← pow_add]
        congr 1
        omega
  have powers : 2 ^ (33 * j) < 2 ^ (10 * (n.log2 + 1076)) := by
    calc 2 ^ (33 * j) = (2 ^ 33) ^ j := pow_mul 2 33 j
      _ ≤ (10 ^ 10) ^ j := Nat.pow_le_pow_left (by decide) j
      _ = (10 ^ j) ^ 10 := by rw [← pow_mul, ← pow_mul, Nat.mul_comm]
      _ < (2 ^ (n.log2 + 1076)) ^ 10 := Nat.pow_lt_pow_left high (by decide)
      _ = 2 ^ (10 * (n.log2 + 1076)) := by rw [← pow_mul, Nat.mul_comm]
  exact (Nat.pow_lt_pow_iff_right (by decide)).mp powers

/-- With zeros behind its digits a decimal has few places altogether, ten decimal ones taken for
thirty-three binary ones. -/
theorem log2_add_lt_of_lt {n j : ℕ} (some : n ≠ 0) (high : (n : ℚ) * 10 ^ j < 2 ^ 1024) :
    10 * n.log2 + 33 * j < 10240 := by
  have high : n * 10 ^ j < 2 ^ 1024 := by exact_mod_cast high
  have low : 2 ^ n.log2 * 10 ^ j < 2 ^ 1024 :=
    (Nat.mul_le_mul_right _ (Nat.log2_self_le some)).trans_lt high
  have powers : 2 ^ (10 * n.log2 + 33 * j) < 2 ^ (1024 * 10) := by
    calc 2 ^ (10 * n.log2 + 33 * j) = (2 ^ n.log2) ^ 10 * (2 ^ 33) ^ j := by
          rw [pow_add, ← pow_mul, ← pow_mul, Nat.mul_comm 10]
      _ ≤ (2 ^ n.log2) ^ 10 * (10 ^ 10) ^ j :=
        Nat.mul_le_mul_left _ (Nat.pow_le_pow_left (by decide) j)
      _ = (2 ^ n.log2 * 10 ^ j) ^ 10 := by rw [mul_pow, ← pow_mul 10 10 j, Nat.mul_comm 10, pow_mul]
      _ < (2 ^ 1024) ^ 10 := Nat.pow_lt_pow_left low (by decide)
      _ = 2 ^ (1024 * 10) := (pow_mul 2 1024 10).symm
  have places := (Nat.pow_lt_pow_iff_right (by decide)).mp powers
  omega

/-- A decimal with digits behind the point is read as the number that it names. -/
theorem nearest_eq {n j : ℕ} (few : j ≤ 1074) (names : b.Names (n / 10 ^ j)) :
    (nearest n (-(j : ℤ))).toModel = .pack (b.unpacked .positive) := by
  have low := names.two_zpow_le_of_names
  have some : n ≠ 0 := by
    rintro rfl
    rw [Nat.cast_zero, zero_div] at low
    exact absurd low (not_le.mpr (by positivity))
  have above := log2_lt_of_lt some names.lt_two_pow
  have below := lt_log2_of_le low
  have size : (-(j : ℤ)).natAbs = j := by omega
  unfold nearest
  simp only [size]
  rw [if_neg some, if_neg (by omega), if_neg (by omega)]
  refine ofScientific_eq (Nat.pos_of_ne_zero some) (by omega) ?_
  by_cases none : j = 0
  · subst none
    simpa using names
  · have negative : -(j : ℤ) < 0 := by omega
    rw [decide_eq_true negative, if_pos rfl]
    exact names

/-- So is one with zeros behind its digits. -/
theorem nearest_natCast {n j : ℕ} (names : b.Names (n * 10 ^ j)) :
    (nearest n (j : ℤ)).toModel = .pack (b.unpacked .positive) := by
  have some : n ≠ 0 := by
    rintro rfl
    have low := names.two_zpow_le_of_names
    rw [Nat.cast_zero, zero_mul] at low
    exact absurd low (not_le.mpr (by positivity))
  have places := log2_add_lt_of_lt some names.lt_two_pow
  have up : ¬ (j : ℤ) < 0 := by omega
  unfold nearest
  dsimp only
  rw [if_neg some, if_neg (by omega), if_neg (by omega), Int.natAbs_natCast,
    decide_eq_false up]
  exact ofScientific_eq (Nat.pos_of_ne_zero some) (by omega) names

/-- **A decimal is read as the number that it names**, whatever its exponent is. -/
theorem nearest_of_names {n : ℕ} {e : ℤ} (low : -1074 ≤ e) (names : b.Names (n * 10 ^ e)) :
    (nearest n e).toModel = .pack (b.unpacked .positive) := by
  obtain ⟨j, rfl | rfl⟩ := e.eq_nat_or_neg
  · rw [zpow_natCast] at names
    exact nearest_natCast names
  · rw [zpow_neg, zpow_natCast, ← div_eq_mul_inv] at names
    exact nearest_eq (by omega) names

end Decimal
end StreamCatalog
