import Mathlib

/-!
# Rounding to a binary number

A floating-point number stands for `mantissa * 2 ^ exponent`, and the arithmetic of the library
rounds to such a number what it computes.  It carries along the integral part of the exact
result and two bits about what is left, whether that reaches one half and whether it differs
from nothing and one half; `Stands` says what these mean.  Halving keeps this meaning
(`Stands.shiftRight`), which is all that moving to another exponent does.

`Rounds m q` says that `m` is the number nearest to `q`, with halfway cases to even.  For a
binary number the interval of everything that rounds to it follows from this, except at a power
of two, where the numbers below are twice as close; `Binary.Names` describes the interval, and
`roundWithAccuracy_eq` says that everything in it is in fact rounded to the number.
-/

namespace StreamCatalog
namespace Decimal

open Float.Model (Format totalExponent)
open Float.Model.UnpackedFloat

/-! ## The integral part and two bits -/

/-- Is this what an extended mantissa says of a number? -/
def Stands (em : ExtendedMantissa) (q : ℚ) : Prop :=
  match em.roundBit, em.stickyBit with
  | false, false => q = em.mantissa
  | false, true => em.mantissa < q ∧ q < em.mantissa + 1 / 2
  | true, false => q = em.mantissa + 1 / 2
  | true, true => em.mantissa + 1 / 2 < q ∧ q < em.mantissa + 1

/-- Is `m` the whole number nearest to `q`, or the even one of two? -/
structure Rounds (m : ℕ) (q : ℚ) : Prop where
  low : (m : ℚ) - 1 / 2 < q ∨ m % 2 = 0 ∧ (m : ℚ) - 1 / 2 = q
  high : q < (m : ℚ) + 1 / 2 ∨ m % 2 = 0 ∧ q = (m : ℚ) + 1 / 2

namespace Stands

variable {em : ExtendedMantissa} {q : ℚ}

theorem bounds (h : Stands em q) : (em.mantissa : ℚ) ≤ q ∧ q < em.mantissa + 1 := by
  obtain ⟨m, round, sticky⟩ := em
  cases round <;> cases sticky <;> simp only [Stands] at h <;> constructor <;> linarith

theorem shiftRightOne (h : Stands em q) : Stands em.shiftRightOne (q / 2) := by
  obtain ⟨m, round, sticky⟩ := em
  have split : ((m % 2 : ℕ) : ℚ) + 2 * ((m / 2 : ℕ) : ℚ) = m := by
    exact_mod_cast Nat.mod_add_div m 2
  rcases Nat.mod_two_eq_zero_or_one m with even | odd
  · rw [even, Nat.cast_zero] at split
    cases round <;> cases sticky <;>
      simp only [Stands, ExtendedMantissa.shiftRightOne, even, bne_self_eq_false, Bool.or_false,
        Bool.or_true] at h ⊢ <;>
      first
        | constructor <;> linarith
        | linarith
  · rw [odd, Nat.cast_one] at split
    have bit : (1 != 0) = true := rfl
    cases round <;> cases sticky <;>
      simp only [Stands, ExtendedMantissa.shiftRightOne, odd, bit, Bool.or_false, Bool.or_true]
        at h ⊢ <;>
      first
        | constructor <;> linarith
        | linarith

theorem shiftRight (h : Stands em q) (n : ℕ) : Stands (em >>> n) (q / 2 ^ n) := by
  show Stands (n.repeat ExtendedMantissa.shiftRightOne em) (q / 2 ^ n)
  induction n with
  | zero => simpa [Nat.repeat] using h
  | succ n ih =>
    have halved := ih.shiftRightOne
    rw [div_div, ← pow_succ] at halved
    exact halved

/-- What is rounded according to the two bits is the nearest number. -/
theorem roundedMantissa_eq (h : Stands em q) {m : ℕ} (rounds : Rounds m q) :
    em.roundedMantissa = m := by
  obtain ⟨low, high⟩ := rounds
  obtain ⟨below, above⟩ := h.bounds
  have near : m = em.mantissa ∨ m = em.mantissa + 1 := by
    have lower : (em.mantissa : ℚ) < (m : ℚ) + 1 := by
      rcases high with high | ⟨-, high⟩ <;> linarith
    have upper : (m : ℚ) < (em.mantissa : ℚ) + 2 := by
      rcases low with low | ⟨-, low⟩ <;> linarith
    have lower : em.mantissa < m + 1 := by exact_mod_cast lower
    have upper : m < em.mantissa + 2 := by exact_mod_cast upper
    omega
  obtain ⟨n, round, sticky⟩ := em
  -- In each case the bits decide which of the two it is; only a tie asks for the even one.
  rcases near with rfl | rfl <;> cases round <;> cases sticky <;>
    simp only [Stands, ExtendedMantissa.roundedMantissa, ExtendedMantissa.accuracy,
      Accuracy.roundToNearestEven] at h ⊢ <;>
    push_cast at low high <;>
    rcases low with low | ⟨even, low⟩ <;> rcases high with high | ⟨even, high⟩ <;>
    first
      | linarith
      | omega

end Stands

/-! ## Binary numbers -/

/-- A positive number with 53 binary places, or fewer if its exponent is the least. -/
structure Binary where
  mantissa : ℕ
  exponent : ℤ
  positive : 0 < mantissa
  places : mantissa < 2 ^ 53
  low : -1074 ≤ exponent
  high : exponent ≤ 971
  normal : 2 ^ 52 ≤ mantissa ∨ exponent = -1074

namespace Binary

/-- The number that a binary number stands for. -/
def value (b : Binary) : ℚ := b.mantissa * 2 ^ b.exponent

/-- Does the next number below have a smaller exponent, so that it is closer? -/
def IsPower (b : Binary) : Prop := b.mantissa = 2 ^ 52 ∧ -1074 < b.exponent

/-- Is the binary number the one that is nearest to `v`, or the even one of two? -/
structure Names (b : Binary) (v : ℚ) : Prop where
  low : b.IsPower ∧ b.value - 2 ^ b.exponent / 4 ≤ v ∨
    ¬ b.IsPower ∧ (b.value - 2 ^ b.exponent / 2 < v ∨
      b.mantissa % 2 = 0 ∧ b.value - 2 ^ b.exponent / 2 = v)
  high : v < b.value + 2 ^ b.exponent / 2 ∨
    b.mantissa % 2 = 0 ∧ v = b.value + 2 ^ b.exponent / 2

variable {b : Binary} {v : ℚ}

/-- A binary number is nearest to itself. -/
theorem names_value (b : Binary) : b.Names b.value := by
  have unit : (0 : ℚ) < 2 ^ b.exponent := by positivity
  by_cases power : b.IsPower
  · exact ⟨Or.inl ⟨power, by linarith⟩, Or.inl (by linarith)⟩
  · exact ⟨Or.inr ⟨power, Or.inl (by linarith)⟩, Or.inl (by linarith)⟩

/-- The binary number with a sign, in the form in which the library computes. -/
def unpacked (s : Sign) (b : Binary) : Float.Model.UnpackedFloat :=
  .finite s b.mantissa b.exponent b.positive

/-! ### Moving to the exponent of the result -/

theorem targetExponent_eq (m : ℕ) (e : ℤ) :
    Format.binary64.targetExponent (totalExponent m e) = max (m.log2 + e - 52) (-1074) := by
  simp only [Format.targetExponent, totalExponent, Format.mantissaBits, Format.minExponent]
  norm_num
  omega

/-- Moving to a larger exponent keeps what is known of a number. -/
theorem stands_shiftToTargetExponent {m : ℕ} {e t : ℤ} {accuracy : Accuracy}
    (stands : Stands (.ofMantissaAndAccuracy m accuracy) (v / 2 ^ e))
    (target : max ((m.log2 : ℤ) + e - 52) (-1074) = t) (below : e ≤ t) :
    (shiftToTargetExponent Format.binary64 m e accuracy).2 = t ∧
      Stands (shiftToTargetExponent Format.binary64 m e accuracy).1 (v / 2 ^ t) := by
  obtain ⟨k, rfl⟩ := Int.le.dest below
  have steps : (e + k - e).toNat = k := by omega
  have moved : shiftToTargetExponent Format.binary64 m e accuracy =
      (ExtendedMantissa.ofMantissaAndAccuracy m accuracy >>> k, e + k) := by
    rw [shiftToTargetExponent, targetExponent_eq, target, shiftToExponent, steps]
  rw [moved]
  refine ⟨rfl, ?_⟩
  have shifted := stands.shiftRight k
  rwa [div_div, ← zpow_natCast, ← zpow_add₀ two_ne_zero] at shifted

/-- A rounded mantissa that is not too long stays as it is. -/
theorem shiftToTargetExponent_of_lt {m : ℕ} {e : ℤ} (short : m < 2 ^ 53) (low : -1074 ≤ e) :
    shiftToTargetExponent Format.binary64 m e .exact = (⟨m, false, false⟩, e) := by
  have bits : m.log2 ≤ 52 := by
    by_cases zero : m = 0
    · rw [zero]
      decide
    · have := (Nat.log2_lt zero).mpr short
      omega
  have steps : (max ((m.log2 : ℤ) + e - 52) (-1074) - e).toNat = 0 := by omega
  rw [shiftToTargetExponent, targetExponent_eq, shiftToExponent, steps]
  exact Prod.ext rfl (Int.add_zero e)

/-- One that has become too long by rounding is a power of two, and is halved. -/
theorem shiftToTargetExponent_of_carry {e : ℤ} (low : -1074 ≤ e) :
    shiftToTargetExponent Format.binary64 (2 ^ 53) e .exact = (⟨2 ^ 52, false, false⟩, e + 1) := by
  have steps : (max (((2 ^ 53 : ℕ).log2 : ℤ) + e - 52) (-1074) - e).toNat = 1 := by
    rw [Nat.log2_two_pow]
    omega
  rw [shiftToTargetExponent, targetExponent_eq, shiftToExponent, steps]
  rfl

theorem roundWithAccuracy_of_mantissa {s : Sign} {m : ℕ} {e : ℤ} {accuracy : Accuracy}
    (exponent : (shiftToTargetExponent Format.binary64 m e accuracy).2 = b.exponent)
    (mantissa : (shiftToTargetExponent Format.binary64 m e accuracy).1.roundedMantissa =
      b.mantissa) :
    roundWithAccuracy Format.binary64 s m e accuracy = b.unpacked s := by
  unfold roundWithAccuracy
  simp only [exponent, mantissa, shiftToTargetExponent_of_lt b.places b.low]
  exact dif_neg b.positive.ne'

theorem roundWithAccuracy_of_carry {s : Sign} {m : ℕ} {e : ℤ} {accuracy : Accuracy}
    (power : b.mantissa = 2 ^ 52) (low : -1074 < b.exponent)
    (exponent : (shiftToTargetExponent Format.binary64 m e accuracy).2 = b.exponent - 1)
    (mantissa : (shiftToTargetExponent Format.binary64 m e accuracy).1.roundedMantissa =
      2 ^ 53) :
    roundWithAccuracy Format.binary64 s m e accuracy = b.unpacked s := by
  obtain ⟨_, exp, positive, _, _, _, _⟩ := b
  simp only at power low exponent
  subst power
  have carried := shiftToTargetExponent_of_carry (e := exp - 1) (by omega)
  rw [sub_add_cancel] at carried
  unfold roundWithAccuracy
  simp only [exponent, mantissa, carried]
  exact dif_neg positive.ne'

/-! ### The size of a number that is named -/

/-- The first binary place of a number is that of its integral part. -/
theorem lt_two_zpow {m : ℕ} {e : ℤ} {accuracy : Accuracy}
    (stands : Stands (.ofMantissaAndAccuracy m accuracy) (v / 2 ^ e)) :
    v < 2 ^ ((m.log2 : ℤ) + e + 1) ∧ (m ≠ 0 → 2 ^ ((m.log2 : ℤ) + e) ≤ v) := by
  have unit : (0 : ℚ) < 2 ^ e := by positivity
  have mantissa : (ExtendedMantissa.ofMantissaAndAccuracy m accuracy).mantissa = m := by
    cases accuracy with
    | exact => rfl
    | inexact half => cases half <;> rfl
  obtain ⟨below, above⟩ := stands.bounds
  rw [mantissa] at below above
  rw [le_div_iff₀ unit] at below
  rw [div_lt_iff₀ unit] at above
  constructor
  · have long : ((m : ℚ) + 1) ≤ 2 ^ ((m.log2 : ℤ) + 1) := by
      exact_mod_cast Nat.succ_le_of_lt (Nat.lt_log2_self (n := m))
    calc v < ((m : ℚ) + 1) * 2 ^ e := above
      _ ≤ 2 ^ ((m.log2 : ℤ) + 1) * 2 ^ e := mul_le_mul_of_nonneg_right long unit.le
      _ = 2 ^ ((m.log2 : ℤ) + e + 1) := by
        rw [← zpow_add₀ two_ne_zero]
        ring_nf
  · intro some
    have short : (2 : ℚ) ^ (m.log2 : ℤ) ≤ m := by exact_mod_cast Nat.log2_self_le some
    calc (2 : ℚ) ^ ((m.log2 : ℤ) + e) = 2 ^ (m.log2 : ℤ) * 2 ^ e := zpow_add₀ two_ne_zero _ _
      _ ≤ m * 2 ^ e := mul_le_mul_of_nonneg_right short unit.le
      _ ≤ v := below

variable {m : ℕ} {e : ℤ} {accuracy : Accuracy}

/-- A number between two powers of two gets the exponent that goes with them. -/
theorem target_eq_of_bounds (stands : Stands (.ofMantissaAndAccuracy m accuracy) (v / 2 ^ e))
    (fine : e ≤ max ((m.log2 : ℤ) + e - 52) (-1074)) {t : ℤ} (least : -1074 ≤ t)
    (low : (2 : ℚ) ^ (t + 52) ≤ v) (high : v < 2 ^ (t + 53)) :
    max ((m.log2 : ℤ) + e - 52) (-1074) = t := by
  obtain ⟨above, below⟩ := lt_two_zpow stands
  have most := (zpow_lt_zpow_iff_right₀ (one_lt_two (α := ℚ))).mp (low.trans_lt above)
  have some : m ≠ 0 := by
    rintro rfl
    rw [Nat.log2_zero] at most fine
    omega
  have under := (zpow_lt_zpow_iff_right₀ (one_lt_two (α := ℚ))).mp ((below some).trans_lt high)
  omega

/-- A small number gets the least exponent. -/
theorem target_eq_of_small (stands : Stands (.ofMantissaAndAccuracy m accuracy) (v / 2 ^ e))
    (fine : e ≤ max ((m.log2 : ℤ) + e - 52) (-1074)) (high : v < 2 ^ (-1021 : ℤ)) :
    max ((m.log2 : ℤ) + e - 52) (-1074) = -1074 := by
  obtain ⟨-, below⟩ := lt_two_zpow stands
  by_cases none : m = 0
  · rw [none, Nat.log2_zero] at fine ⊢
    omega
  · have under := (zpow_lt_zpow_iff_right₀ (one_lt_two (α := ℚ))).mp ((below none).trans_lt high)
    omega

/-- Unless it lies just below a power of two, a named number rounds to the mantissa. -/
theorem Names.rounds (names : b.Names v) (above : b.IsPower → b.value ≤ v) :
    Rounds b.mantissa (v / 2 ^ b.exponent) := by
  have unit : (0 : ℚ) < 2 ^ b.exponent := by positivity
  unfold value at above
  constructor
  · rw [lt_div_iff₀ unit, eq_div_iff unit.ne']
    rcases names.low with ⟨power, -⟩ | ⟨-, low | ⟨even, low⟩⟩
    · have below := above power
      left
      linarith
    · left
      unfold value at low
      linarith
    · right
      unfold value at low
      exact ⟨even, by linarith⟩
  · rw [div_lt_iff₀ unit, div_eq_iff unit.ne']
    rcases names.high with high | ⟨even, high⟩
    · left
      unfold value at high
      linarith
    · right
      unfold value at high
      exact ⟨even, by linarith⟩

theorem Names.lt_two_zpow (names : b.Names v) : v < 2 ^ (b.exponent + 53) := by
  have unit : (0 : ℚ) < 2 ^ b.exponent := by positivity
  have most : (b.mantissa : ℚ) + 1 ≤ 2 ^ (53 : ℤ) := by exact_mod_cast b.places
  have inside : v ≤ b.value + 2 ^ b.exponent / 2 := by
    rcases names.high with high | ⟨-, high⟩
    · exact high.le
    · exact high.le
  rw [add_comm, zpow_add₀ two_ne_zero]
  have scaled := mul_le_mul_of_nonneg_right most unit.le
  unfold value at inside
  linarith

/-- A number that is named by one with all places has as many, unless it lies just below a
power of two. -/
theorem Names.two_zpow_le (names : b.Names v) (above : b.IsPower → b.value ≤ v)
    (normal : 2 ^ 52 ≤ b.mantissa) (exponent : -1074 < b.exponent) :
    (2 : ℚ) ^ (b.exponent + 52) ≤ v := by
  have unit : (0 : ℚ) < 2 ^ b.exponent := by positivity
  rw [add_comm, zpow_add₀ two_ne_zero]
  unfold value at above
  by_cases power : b.mantissa = 2 ^ 52
  · have least := above ⟨power, exponent⟩
    rw [power] at least
    exact_mod_cast least
  · have more : (2 : ℚ) ^ (52 : ℤ) + 1 ≤ b.mantissa := by
      exact_mod_cast Nat.lt_of_le_of_ne normal (Ne.symm power)
    have scaled := mul_le_mul_of_nonneg_right more unit.le
    rcases names.low with ⟨⟨is, -⟩, -⟩ | ⟨-, low | ⟨-, low⟩⟩
    · exact absurd is power
    · unfold value at low
      linarith
    · unfold value at low
      linarith

/-- Just below a power of two the exponent is smaller by one. -/
theorem Names.bounds_of_lt (names : b.Names v) (power : b.IsPower) (below : v < b.value) :
    (2 : ℚ) ^ (b.exponent - 1 + 52) ≤ v ∧ v < 2 ^ (b.exponent - 1 + 53) ∧
      Rounds (2 ^ 53) (v / 2 ^ (b.exponent - 1)) := by
  have low : b.value - 2 ^ b.exponent / 4 ≤ v := by
    rcases names.low with ⟨-, low⟩ | ⟨no, -⟩
    · exact low
    · exact absurd power no
  have half : (2 : ℚ) ^ b.exponent = 2 * 2 ^ (b.exponent - 1) := by
    rw [← zpow_one_add₀ two_ne_zero]
    ring_nf
  have unit : (0 : ℚ) < 2 ^ (b.exponent - 1) := by positivity
  have value : b.value = 2 ^ 53 * 2 ^ (b.exponent - 1) := by
    rw [Binary.value, power.1, half]
    push_cast
    ring
  rw [value, half] at low
  rw [value] at below
  refine ⟨?_, ?_, ?_, ?_⟩
  · rw [add_comm, zpow_add₀ two_ne_zero]
    have numeral : (2 : ℚ) ^ (52 : ℤ) = 2 ^ 52 := by norm_cast
    rw [numeral]
    linarith
  · rw [add_comm, zpow_add₀ two_ne_zero]
    exact_mod_cast below
  · have least : ((2 ^ 53 : ℕ) : ℚ) - 1 / 2 ≤ v / 2 ^ (b.exponent - 1) := by
      rw [le_div_iff₀ unit]
      push_cast
      linarith
    rcases least.lt_or_eq with less | same
    · exact Or.inl less
    · exact Or.inr ⟨by decide, same⟩
  · left
    rw [div_lt_iff₀ unit]
    push_cast
    linarith

/-- **Whatever names a binary number is rounded to it.** -/
theorem roundWithAccuracy_eq {s : Sign}
    (stands : Stands (.ofMantissaAndAccuracy m accuracy) (v / 2 ^ e))
    (fine : e ≤ max ((m.log2 : ℤ) + e - 52) (-1074)) (names : b.Names v) :
    roundWithAccuracy Format.binary64 s m e accuracy = b.unpacked s := by
  by_cases carry : b.IsPower ∧ v < b.value
  · obtain ⟨power, below⟩ := carry
    obtain ⟨low, high, rounds⟩ := names.bounds_of_lt power below
    have target := target_eq_of_bounds stands fine (Int.le_sub_one_of_lt power.2) low high
    rw [target] at fine
    obtain ⟨exponent, shifted⟩ := stands_shiftToTargetExponent stands target fine
    exact roundWithAccuracy_of_carry power.1 power.2 exponent (shifted.roundedMantissa_eq rounds)
  · have above (power : b.IsPower) : b.value ≤ v := not_lt.mp fun below => carry ⟨power, below⟩
    have target : max ((m.log2 : ℤ) + e - 52) (-1074) = b.exponent := by
      by_cases least : b.exponent = -1074
      · have small := names.lt_two_zpow
        rw [least] at small ⊢
        exact target_eq_of_small stands fine small
      · have normal := b.normal.resolve_right least
        have exponent : -1074 < b.exponent := lt_of_le_of_ne b.low (Ne.symm least)
        exact target_eq_of_bounds stands fine b.low
          (names.two_zpow_le above normal exponent) names.lt_two_zpow
    rw [target] at fine
    obtain ⟨exponent, shifted⟩ := stands_shiftToTargetExponent stands target fine
    exact roundWithAccuracy_of_mantissa exponent
      (shifted.roundedMantissa_eq (names.rounds above))

end Binary

end Decimal
end StreamCatalog
