import StreamCatalog.Proofs.Decimal.Binary

/-!
# The order of floating-point numbers

All floats but the one that is no number stand in a row, with the infinities at the ends and
the two zeros at one place.  `standing` counts the places from zero on, and all comparisons of
numbers are comparisons of their places (`lt_iff`, `le_iff`, `beq_iff`).  So what holds of the
order of whole numbers holds of the order of floats that are numbers, and is taken from there
instead of being proved again.

A number without sign stands at the place that its bits say, read as a whole number
(`standing_eq_toNat`).
-/

namespace StreamCatalog
namespace Decimal

open Float.Model (Format UnpackedFloat)
open Float.Model.UnpackedFloat

/-! ## What a float can be -/

/-- The three forms of a float that is a number. -/
inductive Numeric : UnpackedFloat → Prop
  | infinity (s : Sign) : Numeric (.infinity s)
  | zero (s : Sign) : Numeric (.zero s)
  | binary (s : Sign) (b : Binary) : Numeric (b.unpacked s)

theorem unpack_pack_zero (s : Sign) : (Float.Model.pack (.zero s)).unpack = .zero s := by
  cases s <;> exact rfl

/-- A float that is a number has one of the three forms. -/
theorem numeric_unpack {x : Float} (number : x.isNaN = false) : Numeric x.toModel.unpack := by
  by_cases finite : x.isFinite = true
  · rcases exists_binary finite with ⟨s, zero⟩ | ⟨s, b, binary⟩
    · rw [zero, unpack_pack_zero]
      exact .zero s
    · rw [binary, Binary.unpack_pack]
      exact .binary s b
  · have number : x.toModel.unpack.isNaN = false := number
    have finite : ¬ x.toModel.unpack.isFinite = true := finite
    cases form : x.toModel.unpack with
    | notANumber =>
      rw [form] at number
      exact nomatch number
    | infinity s => exact .infinity s
    | zero s => exact absurd (form ▸ rfl) finite
    | finite s m e hm => exact absurd (form ▸ rfl) finite

/-! ## Places -/

/-- The place of a float, counted from zero. -/
def standingOf : UnpackedFloat → ℤ
  | .notANumber => 0
  | .zero _ => 0
  | .infinity s => s.apply (2047 * 2 ^ 52)
  | .finite s m e _ => s.apply ((e + 1074) * 2 ^ 52 + m)

/-- The place of a float among all, counted from zero. -/
def standing (x : Float) : ℤ := standingOf x.toModel.unpack

/-- The place of a binary number without its sign. -/
theorem standingOf_binary (s : Sign) (b : Binary) :
    standingOf (b.unpacked s) = s.apply ((b.exponent + 1074) * 2 ^ 52 + b.mantissa) := rfl

/-- A binary number stands between zero and infinity. -/
theorem Binary.standing_bounds (b : Binary) :
    0 < (b.exponent + 1074) * 2 ^ 52 + b.mantissa ∧
      (b.exponent + 1074) * 2 ^ 52 + b.mantissa < 2047 * 2 ^ 52 := by
  have positive := b.positive
  have places := b.places
  have low := b.low
  have high := b.high
  constructor <;> omega

/-- Binary numbers are compared by their exponents and then by their mantissas. -/
theorem Binary.compare_eq (b c : Binary) :
    (compare b.exponent c.exponent).then (compare b.mantissa c.mantissa) =
      compare ((b.exponent + 1074) * 2 ^ 52 + (b.mantissa : ℤ))
        ((c.exponent + 1074) * 2 ^ 52 + (c.mantissa : ℤ)) := by
  have places := b.places
  have places' := c.places
  have low := b.low
  have low' := c.low
  rcases lt_trichotomy b.exponent c.exponent with less | same | more
  · have long := c.normal.resolve_right (by omega)
    rw [compare_lt_iff_lt.mpr less, Ordering.lt_then]
    exact (compare_lt_iff_lt.mpr (by omega)).symm
  · rw [same, compare_eq_iff_eq.mpr rfl, Ordering.eq_then]
    rcases lt_trichotomy b.mantissa c.mantissa with less | same | more
    · rw [compare_lt_iff_lt.mpr less, compare_lt_iff_lt.mpr (by omega)]
    · rw [same, compare_eq_iff_eq.mpr rfl, compare_eq_iff_eq.mpr rfl]
    · rw [compare_gt_iff_gt.mpr more, compare_gt_iff_gt.mpr (by omega)]
  · have long := b.normal.resolve_right (by omega)
    rw [compare_gt_iff_gt.mpr more, Ordering.gt_then]
    exact (compare_gt_iff_gt.mpr (by omega)).symm

theorem some_lt {a b : ℤ} (h : a < b) : some Ordering.lt = some (compare a b) :=
  congrArg some (compare_lt_iff_lt.mpr h).symm

theorem some_gt {a b : ℤ} (h : b < a) : some Ordering.gt = some (compare a b) :=
  congrArg some (compare_gt_iff_gt.mpr h).symm

theorem some_eq {a b : ℤ} (h : a = b) : some Ordering.eq = some (compare a b) :=
  congrArg some (compare_eq_iff_eq.mpr h).symm

theorem compare_neg_neg (a b : ℤ) : compare (-a) (-b) = (compare a b).swap := by
  rcases lt_trichotomy a b with less | same | more
  · rw [compare_lt_iff_lt.mpr less, compare_gt_iff_gt.mpr (neg_lt_neg less)]
    rfl
  · rw [compare_eq_iff_eq.mpr same, compare_eq_iff_eq.mpr (congrArg _ same)]
    rfl
  · rw [compare_gt_iff_gt.mpr more, compare_lt_iff_lt.mpr (neg_lt_neg more)]
    rfl

/-- Numbers are compared by their places. -/
theorem Numeric.compare_eq {u v : UnpackedFloat} (hu : Numeric u) (hv : Numeric v) :
    u.compare v = some (compare (standingOf u) (standingOf v)) := by
  cases hu with
  | infinity s =>
    cases hv with
    | infinity t =>
      cases s <;> cases t
      · exact some_eq rfl
      · exact some_lt (by decide)
      · exact some_gt (by decide)
      · exact some_eq rfl
    | zero t =>
      cases s
      · exact some_lt (show (-(2047 * 2 ^ 52) : ℤ) < 0 by decide)
      · exact some_gt (show (0 : ℤ) < 2047 * 2 ^ 52 by decide)
    | binary t c =>
      have bounds := c.standing_bounds
      rw [standingOf_binary]
      cases s <;> cases t <;> simp only [standingOf, Sign.apply]
      · exact some_lt (by omega)
      · exact some_lt (by omega)
      · exact some_gt (by omega)
      · exact some_gt (by omega)
  | zero s =>
    cases hv with
    | infinity t =>
      cases t
      · exact some_gt (show (-(2047 * 2 ^ 52) : ℤ) < 0 by decide)
      · exact some_lt (show (0 : ℤ) < 2047 * 2 ^ 52 by decide)
    | zero t => exact some_eq rfl
    | binary t c =>
      have bounds := c.standing_bounds
      rw [standingOf_binary]
      cases t <;> simp only [standingOf, Sign.apply]
      · exact some_gt (by omega)
      · exact some_lt (by omega)
  | binary s b =>
    have bounds := b.standing_bounds
    cases hv with
    | infinity t =>
      rw [standingOf_binary]
      cases s <;> cases t <;> simp only [standingOf, Sign.apply]
      · exact some_gt (by omega)
      · exact some_lt (by omega)
      · exact some_gt (by omega)
      · exact some_lt (by omega)
    | zero t =>
      rw [standingOf_binary]
      cases s <;> simp only [standingOf, Sign.apply]
      · exact some_lt (by omega)
      · exact some_gt (by omega)
    | binary t c =>
      have bounds' := c.standing_bounds
      have order := b.compare_eq c
      rw [standingOf_binary, standingOf_binary]
      cases s <;> cases t <;> simp only [Sign.apply]
      · rw [compare_neg_neg, ← order]
        rfl
      · exact some_lt (by omega)
      · exact some_gt (by omega)
      · exact congrArg some order

/-! ## The order of floats -/

variable {x y : Float}

theorem compare_unpack (hx : x.isNaN = false) (hy : y.isNaN = false) :
    x.toModel.unpack.compare y.toModel.unpack = some (compare (standing x) (standing y)) :=
  (numeric_unpack hx).compare_eq (numeric_unpack hy)

theorem lt_iff (hx : x.isNaN = false) (hy : y.isNaN = false) :
    x < y ↔ standing x < standing y := by
  show decide ((x.toModel.unpack.compare y.toModel.unpack == some .lt) = true) = true ↔ _
  rw [decide_eq_true_iff, compare_unpack hx hy, beq_iff_eq, Option.some.injEq, compare_lt_iff_lt]

theorem le_iff (hx : x.isNaN = false) (hy : y.isNaN = false) :
    x ≤ y ↔ standing x ≤ standing y := by
  show decide (Option.any Ordering.isLE (x.toModel.unpack.compare y.toModel.unpack) = true)
    = true ↔ _
  rw [decide_eq_true_iff, compare_unpack hx hy, Option.any_some, Ordering.isLE_iff_ne_gt,
    compare_gt_iff_gt, not_lt]

theorem beq_iff (hx : x.isNaN = false) (hy : y.isNaN = false) :
    (x == y) = true ↔ standing x = standing y := by
  show (x.toModel.unpack.compare y.toModel.unpack == some .eq) = true ↔ _
  rw [compare_unpack hx hy, beq_iff_eq, Option.some.injEq, compare_eq_iff_eq]

/-- Only numbers are compared. -/
theorem compare_eq_none (h : x.isNaN = true ∨ y.isNaN = true) :
    x.toModel.unpack.compare y.toModel.unpack = none := by
  rcases h with h | h
  · rw [isNaN_iff.mp h]
    rfl
  · rw [isNaN_iff.mp h]
    cases x.toModel.unpack <;> exact rfl

theorem numbers_of_compare {o : Ordering} (h : x.toModel.unpack.compare y.toModel.unpack = some o) :
    x.isNaN = false ∧ y.isNaN = false := by
  constructor <;> refine Bool.eq_false_iff.mpr fun none => ?_
  · exact nomatch (compare_eq_none (.inl none)).symm.trans h
  · exact nomatch (compare_eq_none (.inr none)).symm.trans h

theorem numbers_of_lt (h : x < y) : x.isNaN = false ∧ y.isNaN = false := by
  have h : decide ((x.toModel.unpack.compare y.toModel.unpack == some .lt) = true) = true := h
  rw [decide_eq_true_iff, beq_iff_eq] at h
  exact numbers_of_compare h

theorem numbers_of_le (h : x ≤ y) : x.isNaN = false ∧ y.isNaN = false := by
  have h : decide (Option.any Ordering.isLE (x.toModel.unpack.compare y.toModel.unpack) = true)
    = true := h
  rw [decide_eq_true_iff, Option.any_eq_true] at h
  obtain ⟨o, h, -⟩ := h
  exact numbers_of_compare h

theorem float_le_refl (number : x.isNaN = false) : x ≤ x :=
  (le_iff number number).mpr (le_refl _)

theorem float_le_trans {z : Float} (le : x ≤ y) (le' : y ≤ z) : x ≤ z := by
  obtain ⟨hx, hy⟩ := numbers_of_le le
  obtain ⟨-, hz⟩ := numbers_of_le le'
  rw [le_iff hx hy] at le
  rw [le_iff hy hz] at le'
  exact (le_iff hx hz).mpr (le.trans le')

theorem float_lt_irrefl (x : Float) : ¬ x < x := by
  intro less
  obtain ⟨hx, -⟩ := numbers_of_lt less
  exact lt_irrefl _ ((lt_iff hx hx).mp less)

theorem float_lt_trans {z : Float} (less : x < y) (less' : y < z) : x < z := by
  obtain ⟨hx, hy⟩ := numbers_of_lt less
  obtain ⟨-, hz⟩ := numbers_of_lt less'
  rw [lt_iff hx hy] at less
  rw [lt_iff hy hz] at less'
  exact (lt_iff hx hz).mpr (less.trans less')

theorem numbers_of_beq (h : (x == y) = true) : x.isNaN = false ∧ y.isNaN = false := by
  have h : (x.toModel.unpack.compare y.toModel.unpack == some .eq) = true := h
  rw [beq_iff_eq] at h
  exact numbers_of_compare h

/-! ## Signs and bits -/

/-- The sign of a float; what is no number has none, and counts as positive. -/
def signOf : UnpackedFloat → Sign
  | .notANumber => .positive
  | .infinity s => s
  | .zero s => s
  | .finite s _ _ _ => s

theorem toModel_eq_pack_unpack (x : Float) : x.toModel = .pack x.toModel.unpack :=
  toModel_eq_pack (pack_unpack_of_valid x.toModel.valid)

/-- Three fields unpack as a number of their sign, unless they are those of no number. -/
theorem unpack_packComponents (s : Sign) {e : BitVec 11} {m : BitVec 52}
    (number : e = -1#11 → m = 0#52) :
    (UnpackedFloat.unpack Format.binary64 (packComponents Format.binary64 s e m)).isNaN = false ∧
      signOf (UnpackedFloat.unpack Format.binary64 (packComponents Format.binary64 s e m)) = s := by
  unfold UnpackedFloat.unpack
  simp only [unpackMantissa_packComponents, unpackExponent_packComponents,
    unpackSign_packComponents, Sign.ofBitVec_toBitVec]
  split
  · next ones =>
    rw [if_pos (number ones)]
    exact ⟨rfl, rfl⟩
  · split
    · split <;> exact ⟨rfl, rfl⟩
    · exact ⟨rfl, rfl⟩

/-- Packing a number gives fields of its sign, also where it overflows. -/
theorem exists_packComponents {u : UnpackedFloat} (number : u.isNaN = false) :
    ∃ (e : BitVec 11) (m : BitVec 52), (e = -1#11 → m = 0#52) ∧
      UnpackedFloat.pack Format.binary64 u = packComponents Format.binary64 (signOf u) e m := by
  cases u with
  | notANumber => exact nomatch number
  | infinity s => exact ⟨-1#11, 0#52, fun _ => rfl, rfl⟩
  | zero s => exact ⟨0#11, 0#52, fun _ => rfl, rfl⟩
  | finite s m e positive =>
    unfold UnpackedFloat.pack
    simp only
    split
    · exact ⟨-1#11, 0#52, fun _ => rfl, rfl⟩
    · next small =>
      split
      · refine ⟨_, _, fun ones => absurd (congrArg BitVec.toNat ones) ?_, rfl⟩
        rw [BitVec.toNat_ofNat]
        have ones : (-1#11 : BitVec 11).toNat = 2047 := by decide
        have small : ¬ 2 ^ 11 ≤ (e + (Format.binary64.exponentBias : ℤ) +
          (Format.binary64.mantissaBitsWithoutImplicit : ℤ)).toNat + 1 := small
        rw [ones]
        show ¬ _ % 2 ^ 11 = 2047
        omega
      · exact ⟨0#11, _, fun ones => absurd ones (by decide), rfl⟩

/-- A number is still a number when it is packed, and has its sign. -/
theorem unpack_pack_number {u : UnpackedFloat} (number : u.isNaN = false) :
    (Float.Model.pack u).unpack.isNaN = false ∧ signOf (Float.Model.pack u).unpack = signOf u := by
  obtain ⟨e, m, fields, packed⟩ := exists_packComponents number
  have parts := unpack_packComponents (signOf u) fields
  rw [← packed] at parts
  exact parts

/-- What is no number stays so. -/
theorem isNaN_unpack_pack (u : UnpackedFloat) : (Float.Model.pack u).unpack.isNaN = u.isNaN := by
  cases none : u.isNaN with
  | true =>
    rw [isNaN_iff.mp none]
    rfl
  | false => exact (unpack_pack_number none).1

/-- A number without sign stands at the place that its bits say. -/
theorem Numeric.standing_eq_toNat {u : UnpackedFloat} (numeric : Numeric u)
    (positive : signOf u = .positive) :
    standingOf u = (Float.Model.pack u).toBits.toNat := by
  cases numeric with
  | infinity s =>
    obtain rfl : s = .positive := positive
    rfl
  | zero s =>
    obtain rfl : s = .positive := positive
    rfl
  | binary s b =>
    obtain rfl : s = .positive := positive
    have places := b.places
    have low := b.low
    have none : Sign.positive.toBitVec.toNat = 0 := by decide
    rw [Binary.toNat_pack, standingOf_binary, Binary.exponentField, none]
    show (b.exponent + 1074) * 2 ^ 52 + (b.mantissa : ℤ) = _
    split
    · omega
    · have least := b.normal.resolve_left ‹_›
      omega

theorem standing_eq_toNat (number : x.isNaN = false)
    (positive : signOf x.toModel.unpack = .positive) : standing x = x.toBits.toNat := by
  have same := (numeric_unpack number).standing_eq_toNat positive
  rw [← toModel_eq_pack_unpack] at same
  exact same

theorem signOf_of_pos (above : 0 < standing x) : signOf x.toModel.unpack = .positive := by
  have number : x.isNaN = false := by
    refine Bool.eq_false_iff.mpr fun none => above.ne' ?_
    rw [standing, isNaN_iff.mp none, standingOf]
  have numeric := numeric_unpack number
  unfold standing at above
  generalize x.toModel.unpack = u at above numeric ⊢
  cases numeric with
  | infinity s =>
    cases s with
    | negative => exact absurd above (by decide)
    | positive => rfl
  | zero s => exact absurd above (lt_irrefl 0)
  | binary s b =>
    have bounds := b.standing_bounds
    cases s with
    | negative =>
      rw [standingOf_binary, Sign.apply] at above
      omega
    | positive => rfl

/-! ## Signs of results -/

theorem signOf_abs (x : Float) : signOf x.abs.toModel.unpack = .positive := by
  show signOf (Float.Model.pack x.toModel.unpack.abs).unpack = .positive
  cases none : x.toModel.unpack.abs.isNaN with
  | true =>
    rw [isNaN_iff.mp none]
    rfl
  | false =>
    rw [(unpack_pack_number none).2]
    cases x.toModel.unpack <;> exact rfl

theorem isNaN_roundWithAccuracy (s : Sign) (m : ℕ) (e : ℤ) (accuracy : Accuracy) :
    (roundWithAccuracy Format.binary64 s m e accuracy).isNaN = false := by
  unfold roundWithAccuracy
  simp only
  split <;> rfl

theorem signOf_roundWithAccuracy (s : Sign) (m : ℕ) (e : ℤ) (accuracy : Accuracy) :
    signOf (roundWithAccuracy Format.binary64 s m e accuracy) = s := by
  unfold roundWithAccuracy
  simp only
  split <;> rfl

/-- A quotient has the sign that its parts give it. -/
theorem signOf_div {u v : UnpackedFloat}
    (number : (UnpackedFloat.div Format.binary64 u v).isNaN = false) :
    signOf (UnpackedFloat.div Format.binary64 u v) = signOf u / signOf v := by
  cases u <;> cases v <;>
    first | rfl | exact signOf_roundWithAccuracy .. | exact Bool.noConfusion number

end Decimal
end StreamCatalog
