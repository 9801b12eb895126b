import StreamCatalog.Proofs.Decimal.Nearest
import StreamCatalog.Proofs.Decimal.Ordering

/-!
# Results that are no numbers

An operation on numbers gives something that is no number in few cases only: infinities are
taken from each other, or one is multiplied by zero.  So a product of finite numbers is a number
(`isNaN_mul`), whether it overflows or not, and so is the sum of a number and a finite one
(`isNaN_add`).  What is no number makes everything so that is computed with it.
-/

namespace StreamCatalog
namespace Decimal

open Float.Model (Format UnpackedFloat)
open Float.Model.UnpackedFloat

variable {x y : Float}

/-! ## Finite forms -/

/-- The two forms of a finite number. -/
theorem isFinite_iff {u : UnpackedFloat} : u.isFinite = true ↔
    (∃ s, u = .zero s) ∨ ∃ s m e hm, u = .finite s m e hm := by
  cases u with
  | notANumber | infinity =>
    refine iff_of_false Bool.false_ne_true ?_
    rintro (⟨s, ⟨⟩⟩ | ⟨s, m, e, hm, ⟨⟩⟩)
  | zero s => exact iff_of_true rfl (.inl ⟨s, rfl⟩)
  | finite s m e hm => exact iff_of_true rfl (.inr ⟨s, m, e, hm, rfl⟩)

theorem isNaN_of_isFinite (finite : x.isFinite = true) : x.isNaN = false := by
  show x.toModel.unpack.isNaN = false
  obtain ⟨s, form⟩ | ⟨s, m, e, hm, form⟩ := isFinite_iff.mp finite <;> rw [form] <;> rfl

theorem isNaN_round (s : Sign) (m : ℕ) (e : ℤ) :
    (UnpackedFloat.round Format.binary64 s m e).isNaN = false :=
  isNaN_roundWithAccuracy ..

theorem isNaN_normalize (m e : ℤ) (s : Sign) :
    (UnpackedFloat.normalize Format.binary64 m e s).isNaN = false := by
  unfold UnpackedFloat.normalize
  split
  · exact isNaN_round ..
  · rfl
  · exact isNaN_round ..

/-! ## Results that are numbers -/

theorem isNaN_mul (hx : x.isFinite = true) (hy : y.isFinite = true) :
    (x * y).isNaN = false := by
  refine (isNaN_unpack_pack (.mul .binary64 x.toModel.unpack y.toModel.unpack)).trans ?_
  obtain ⟨s, form⟩ | ⟨s, m, e, hm, form⟩ := isFinite_iff.mp hx <;>
    obtain ⟨t, form'⟩ | ⟨t, n, f, hn, form'⟩ := isFinite_iff.mp hy <;> rw [form, form']
  · rfl
  · rfl
  · rfl
  · exact isNaN_roundWithAccuracy ..

theorem isNaN_mul_of_ne_zero (hx : x.isNaN = false) (hy : y.isFinite = true)
    (some : standing y ≠ 0) : (x * y).isNaN = false := by
  refine (isNaN_unpack_pack (.mul .binary64 x.toModel.unpack y.toModel.unpack)).trans ?_
  have numeric := numeric_unpack hx
  generalize x.toModel.unpack = u at numeric
  unfold standing at some
  obtain ⟨t, form⟩ | ⟨t, n, f, hn, form⟩ := isFinite_iff.mp hy
  · rw [form] at some
    exact absurd rfl some
  · rw [form]
    cases numeric with
    | infinity s => rfl
    | zero s => rfl
    | binary s b => exact isNaN_roundWithAccuracy ..

theorem isNaN_add (hx : x.isNaN = false) (hy : y.isFinite = true) : (x + y).isNaN = false := by
  refine (isNaN_unpack_pack (.add .binary64 x.toModel.unpack y.toModel.unpack)).trans ?_
  have numeric := numeric_unpack hx
  generalize x.toModel.unpack = u at numeric
  obtain ⟨t, form⟩ | ⟨t, n, f, hn, form⟩ := isFinite_iff.mp hy <;> rw [form] <;> cases numeric with
  | infinity s => rfl
  | zero s => cases s <;> cases t <;> exact rfl
  | binary s b => first | rfl | exact isNaN_normalize ..

theorem isNaN_add_of_isFinite (hx : x.isFinite = true) (hy : y.isNaN = false) :
    (x + y).isNaN = false := by
  refine (isNaN_unpack_pack (.add .binary64 x.toModel.unpack y.toModel.unpack)).trans ?_
  have numeric := numeric_unpack hy
  generalize y.toModel.unpack = v at numeric
  obtain ⟨s, form⟩ | ⟨s, m, e, hm, form⟩ := isFinite_iff.mp hx <;> rw [form] <;> cases numeric with
  | infinity t => rfl
  | zero t => cases s <;> cases t <;> exact rfl
  | binary t b => first | rfl | exact isNaN_normalize ..

theorem isNaN_sub (hx : x.isFinite = true) (hy : y.isFinite = true) : (x - y).isNaN = false := by
  refine (isNaN_unpack_pack (.sub .binary64 x.toModel.unpack y.toModel.unpack)).trans ?_
  obtain ⟨s, form⟩ | ⟨s, m, e, hm, form⟩ := isFinite_iff.mp hx <;>
    obtain ⟨t, form'⟩ | ⟨t, n, f, hn, form'⟩ := isFinite_iff.mp hy <;> rw [form, form']
  · cases s <;> cases t <;> exact rfl
  · rfl
  · rfl
  · exact isNaN_normalize ..

/-! ## What is no number, and zero -/

theorem eq_nan (none : x.isNaN = true) : x = Float.nan := by
  simpa using none

theorem isNaN_sub_of_isNaN (none : y.isNaN = true) : (x - y).isNaN = true := by
  refine (isNaN_unpack_pack (.sub .binary64 x.toModel.unpack y.toModel.unpack)).trans ?_
  rw [isNaN_iff.mp none]
  cases x.toModel.unpack <;> exact rfl

theorem isNaN_add_of_isNaN (none : y.isNaN = true) : (x + y).isNaN = true := by
  refine (isNaN_unpack_pack (.add .binary64 x.toModel.unpack y.toModel.unpack)).trans ?_
  rw [isNaN_iff.mp none]
  cases x.toModel.unpack <;> exact rfl

theorem isNaN_mul_of_isNaN (none : x.isNaN = true) : (x * y).isNaN = true := by
  refine (isNaN_unpack_pack (.mul .binary64 x.toModel.unpack y.toModel.unpack)).trans ?_
  rw [isNaN_iff.mp none]
  rfl

theorem unpack_zero : (0.0 : Float).toModel.unpack = .zero .positive := by
  have bits : (0.0 : Float) = .ofBits 0 := by decide
  rw [bits]
  exact rfl

/-- Zero times what is not finite is no number. -/
theorem isNaN_mul_zero (infinite : ¬ x.isFinite = true) : (x * 0.0).isNaN = true := by
  refine (isNaN_unpack_pack (.mul .binary64 x.toModel.unpack _)).trans ?_
  have infinite : ¬ x.toModel.unpack.isFinite = true := infinite
  rw [unpack_zero]
  cases form : x.toModel.unpack with
  | notANumber | infinity => exact rfl
  | zero | finite => exact absurd (form ▸ rfl) infinite

/-- Zero times a finite number is one of the two zeros. -/
theorem mul_zero_eq (finite : x.isFinite = true) : x * 0.0 = 0.0 ∨ x * 0.0 = -0.0 := by
  have form : ∃ s, (x * 0.0).toModel = .pack (.zero s) := by
    show ∃ s, Float.Model.pack (.mul .binary64 x.toModel.unpack (0.0 : Float).toModel.unpack) = _
    rw [unpack_zero]
    obtain ⟨s, form⟩ | ⟨s, m, e, hm, form⟩ := isFinite_iff.mp finite <;> rw [form] <;>
      exact ⟨_, rfl⟩
  have zeros : (0.0 : Float) = ⟨.pack (.zero .positive)⟩ ∧ -0.0 = ⟨.pack (.zero .negative)⟩ := by
    decide
  obtain ⟨s, form⟩ := form
  cases s with
  | positive => exact .inl ((congrArg (fun m => (⟨m⟩ : Float)) form).trans zeros.1.symm)
  | negative => exact .inr ((congrArg (fun m => (⟨m⟩ : Float)) form).trans zeros.2.symm)

/-! ## Infinities -/

theorem Numeric.standing_bounds {u : UnpackedFloat} (numeric : Numeric u) :
    -(2047 * 2 ^ 52) ≤ standingOf u ∧ standingOf u ≤ 2047 * 2 ^ 52 ∧
      (u.isFinite = true ↔ -(2047 * 2 ^ 52) < standingOf u ∧ standingOf u < 2047 * 2 ^ 52) := by
  cases numeric with
  | infinity s => cases s <;> simp [standingOf, UnpackedFloat.isFinite, Sign.apply]
  | zero s => simp [standingOf, UnpackedFloat.isFinite]
  | binary s b =>
    have bounds := b.standing_bounds
    rw [standingOf_binary]
    refine ⟨?_, ?_, iff_of_true rfl ?_⟩ <;> cases s <;> simp only [Sign.apply] <;> omega

/-- A number is finite if it stands between the infinities. -/
theorem isFinite_iff_standing (number : x.isNaN = false) :
    x.isFinite = true ↔ -(2047 * 2 ^ 52) < standing x ∧ standing x < 2047 * 2 ^ 52 :=
  (numeric_unpack number).standing_bounds.2.2

theorem standing_infinity : standing (1.0 / 0.0) = 2047 * 2 ^ 52 := by decide

theorem not_infinity_lt (x : Float) : ¬ 1.0 / 0.0 < x := by
  intro less
  obtain ⟨infinite, number⟩ := numbers_of_lt less
  rw [lt_iff infinite number, standing_infinity] at less
  exact not_lt.mpr (numeric_unpack number).standing_bounds.2.1 less

/-- What is no number and not finite is one of the infinities. -/
theorem exists_unpack_eq_infinity (number : x.isNaN = false) (infinite : ¬ x.isFinite = true) :
    ∃ s, x.toModel.unpack = .infinity s := by
  have infinite : ¬ x.toModel.unpack.isFinite = true := infinite
  have numeric := numeric_unpack number
  generalize x.toModel.unpack = u at infinite numeric
  cases numeric with
  | infinity s => exact ⟨s, rfl⟩
  | zero s => exact absurd rfl infinite
  | binary s b => exact absurd rfl infinite

/-- Seen from an infinity all finite numbers are equally far. -/
theorem sub_of_infinity {s : Sign} (hx : x.isFinite = true)
    (hy : y.toModel.unpack = .infinity s) : x - y = ⟨.pack (.infinity (-s))⟩ := by
  have form : UnpackedFloat.sub .binary64 x.toModel.unpack y.toModel.unpack = .infinity (-s) := by
    rw [hy]
    obtain ⟨t, form⟩ | ⟨t, m, e, hm, form⟩ := isFinite_iff.mp hx <;> rw [form] <;> rfl
  exact congrArg (fun u => (⟨.pack u⟩ : Float)) form

/-- Only the infinities stand at the ends. -/
theorem Numeric.eq_infinity {u : UnpackedFloat} (numeric : Numeric u) :
    (2047 * 2 ^ 52 ≤ standingOf u → u = .infinity .positive) ∧
      (standingOf u ≤ -(2047 * 2 ^ 52) → u = .infinity .negative) := by
  by_cases finite : u.isFinite = true
  · have bounds := numeric.standing_bounds.2.2.mp finite
    exact ⟨fun high => absurd high (by omega), fun low => absurd low (by omega)⟩
  · cases numeric with
    | infinity s =>
      cases s with
      | negative => exact ⟨fun high => absurd high (by decide), fun _ => rfl⟩
      | positive => exact ⟨fun _ => rfl, fun low => absurd low (by decide)⟩
    | zero s => exact absurd rfl finite
    | binary s b => exact absurd rfl finite

/-- The difference of two numbers that are not both finite, the greater first. -/
theorem sub_eq_infinity (hx : x.isNaN = false) (hy : y.isNaN = false)
    (le : standing y ≤ standing x) (infinite : ¬ (x.isFinite = true ∧ y.isFinite = true)) :
    (x - y).isNaN = true ∨ x - y = 1.0 / 0.0 := by
  have numeric := numeric_unpack hx
  have numeric' := numeric_unpack hy
  have ends : x.toModel.unpack = .infinity .positive ∨ y.toModel.unpack = .infinity .negative := by
    have bounds := numeric.standing_bounds
    have bounds' := numeric'.standing_bounds
    rw [isFinite_iff_standing hx, isFinite_iff_standing hy] at infinite
    unfold standing at le infinite
    by_cases high : 2047 * 2 ^ 52 ≤ standingOf x.toModel.unpack
    · exact .inl (numeric.eq_infinity.1 high)
    · exact .inr (numeric'.eq_infinity.2 (by omega))
  have form : (UnpackedFloat.sub .binary64 x.toModel.unpack y.toModel.unpack).isNaN = true ∨
      UnpackedFloat.sub .binary64 x.toModel.unpack y.toModel.unpack = .infinity .positive := by
    rcases ends with form | form
    · rw [form]
      generalize y.toModel.unpack = v at numeric'
      cases numeric' with
      | infinity t => cases t <;> first | exact .inl rfl | exact .inr rfl
      | zero t => exact .inr rfl
      | binary t c => exact .inr rfl
    · rw [form]
      generalize x.toModel.unpack = u at numeric
      cases numeric with
      | infinity s => cases s <;> first | exact .inl rfl | exact .inr rfl
      | zero s => exact .inr rfl
      | binary s b => exact .inr rfl
  rcases form with none | some
  · exact .inl ((isNaN_unpack_pack _).trans none)
  · have positive : (1.0 / 0.0 : Float) = ⟨.pack (.infinity .positive)⟩ := by decide
    exact .inr ((congrArg (fun u => (⟨.pack u⟩ : Float)) some).trans positive.symm)

/-! ## Whole numbers -/

theorem toModel_ofNat {n : ℕ} (positive : 0 < n) (short : n < 2 ^ 53) :
    (Float.ofNat n).toModel = .pack ((Binary.ofNat n positive short).unpacked .positive) := by
  refine ofScientific_eq positive (Nat.zero_le _) ?_
  have self := (Binary.ofNat n positive short).names_value
  rw [Binary.value_ofNat] at self
  rw [if_neg Bool.false_ne_true, pow_zero, mul_one]
  exact self

theorem isFinite_ofInt {n : ℤ} (short : n.natAbs < 2 ^ 53) : (Float.ofInt n).isFinite = true := by
  match n with
  | .ofNat 0 => decide
  | .ofNat (m + 1) =>
    have short : m + 1 < 2 ^ 53 := short
    show (Float.ofNat (m + 1)).toModel.unpack.isFinite = true
    rw [toModel_ofNat (Nat.succ_pos m) short, Binary.unpack_pack]
    rfl
  | .negSucc m =>
    have short : m + 1 < 2 ^ 53 := short
    show (Float.Model.pack (Float.ofNat (m + 1)).toModel.unpack.neg).unpack.isFinite = true
    rw [toModel_ofNat (Nat.succ_pos m) short, Binary.unpack_pack]
    show (Float.Model.pack ((Binary.ofNat _ _ _).unpacked .negative)).unpack.isFinite = true
    rw [Binary.unpack_pack]
    rfl

end Decimal
end StreamCatalog
