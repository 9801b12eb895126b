import StreamCatalog.Proofs.Decimal.Nearest

/-!
# The shortest decimal names its number

The search for the shortest decimal compares decimals with the ends of the interval that rounds
to a number, in whole numbers.  `names_of_names` says that the interval is the right one.  The
search may only return what passed this test or, if nothing did, the exact value, and dropping
trailing zeros does not change a value; so the decimal names the number in any case
(`names_shortest`), whether or not seventeen digits are always enough.
-/

namespace StreamCatalog
namespace Decimal

/-- The number that a decimal stands for. -/
def Numeral.value (d : Numeral) : ℚ := d.coefficient * 10 ^ d.exponent

namespace Numeral

variable {d : Numeral} {n : ℕ} {j : ℤ}

/-- Both sides of a comparison are the numbers compared, multiplied out. -/
theorem exists_scale (d : Numeral) (n : ℕ) (j : ℤ) : ∃ p : ℚ, 0 < p ∧
    ((d.coefficient * Nat.pow 10 d.exponent.toNat * Nat.pow 2 (-j).toNat : ℕ) : ℚ) =
      d.value * p ∧
    ((n * Nat.pow 2 j.toNat * Nat.pow 10 (-d.exponent).toNat : ℕ) : ℚ) = n * 2 ^ j * p := by
  refine ⟨10 ^ (-d.exponent).toNat * 2 ^ (-j).toNat, by positivity, ?_, ?_⟩
  · rw [value, zpow_eq_div (by norm_num : (10 : ℚ) ≠ 0)]
    push_cast [Nat.pow_eq]
    field_simp
  · rw [zpow_eq_div two_ne_zero]
    push_cast [Nat.pow_eq]
    field_simp

theorem lt_of_compareBinary (h : d.compareBinary n j = .lt) : d.value < n * 2 ^ j := by
  obtain ⟨p, positive, left, right⟩ := d.exists_scale n j
  have less := (Nat.cast_lt (α := ℚ)).mpr (compare_lt_iff_lt.mp h)
  rw [left, right] at less
  exact lt_of_mul_lt_mul_right less positive.le

theorem eq_of_compareBinary (h : d.compareBinary n j = .eq) : d.value = n * 2 ^ j := by
  obtain ⟨p, positive, left, right⟩ := d.exists_scale n j
  have same := congrArg (Nat.cast (R := ℚ)) (compare_eq_iff_eq.mp h)
  rw [left, right] at same
  exact mul_right_cancel₀ positive.ne' same

theorem gt_of_compareBinary (h : d.compareBinary n j = .gt) : n * 2 ^ j < d.value := by
  obtain ⟨p, positive, left, right⟩ := d.exists_scale n j
  have less := (Nat.cast_lt (α := ℚ)).mpr (compare_gt_iff_gt.mp h)
  rw [left, right] at less
  exact lt_of_mul_lt_mul_right less positive.le

/-- Trailing zeros do not matter. -/
theorem value_trim (d : Numeral) : d.trim.value = d.value ∧ d.exponent ≤ d.trim.exponent := by
  induction d using Numeral.trim.induct with
  | case1 d h ih =>
    rw [trim, dif_pos h]
    obtain ⟨same, grows⟩ := ih
    refine ⟨?_, by simp only at grows; omega⟩
    rw [same, value, value, zpow_add_one₀ (by norm_num)]
    have split : (d.coefficient : ℚ) = 10 * ((d.coefficient / 10 : ℕ) : ℚ) := by
      exact_mod_cast (Nat.mul_div_cancel' (Nat.dvd_of_mod_eq_zero h.2)).symm
    rw [split]
    ring
  | case2 d h =>
    rw [trim, dif_neg h]
    exact ⟨rfl, le_refl _⟩

end Numeral

/-- The magnitude of a binary number. -/
def Binary.magnitude (b : Binary) : Magnitude :=
  ⟨b.mantissa, b.exponent, b.mantissa = 2 ^ 52 && -1074 < b.exponent⟩

namespace Binary

variable {b : Binary} {d : Numeral}

@[simp] theorem mantissa_magnitude (b : Binary) : b.magnitude.mantissa = b.mantissa := rfl

@[simp] theorem exponent_magnitude (b : Binary) : b.magnitude.exponent = b.exponent := rfl

/-! The test compares with the ends of the interval, which it counts in quarters of the last
place. -/

theorem quarters (n : ℕ) (e : ℤ) : (n : ℚ) * 2 ^ (e - 2) = n / 4 * 2 ^ e := by
  rw [zpow_sub₀ two_ne_zero]
  norm_num
  ring

theorem quarters_below (b : Binary) {k : ℕ} (few : k ≤ 4 * b.mantissa) :
    ((4 * b.mantissa - k : ℕ) : ℚ) * 2 ^ (b.exponent - 2) =
      b.value - k / 4 * 2 ^ b.exponent := by
  rw [quarters, Nat.cast_sub few, value]
  push_cast
  ring

theorem quarters_above (b : Binary) (k : ℕ) :
    ((4 * b.mantissa + k : ℕ) : ℚ) * 2 ^ (b.exponent - 2) =
      b.value + k / 4 * 2 ^ b.exponent := by
  rw [quarters, value]
  push_cast
  ring

theorem halfBelow_magnitude (b : Binary) : b.magnitude.halfBelow = true ↔ b.IsPower := by
  show (decide (b.mantissa = 2 ^ 52) && decide (-1074 < b.exponent)) = true ↔ _
  rw [← Bool.decide_and, decide_eq_true_iff]
  rfl

/-- A decimal that passes the test names the number. -/
theorem names_of_names (h : b.magnitude.names d = true) : b.Names d.value := by
  obtain ⟨low, high⟩ := of_decide_eq_true h
  simp only [mantissa_magnitude, exponent_magnitude] at low high
  have positive := b.positive
  constructor
  · by_cases power : b.IsPower
    · have bottom := b.quarters_below (k := 1) (by omega)
      rw [Nat.cast_one] at bottom
      rw [if_pos (b.halfBelow_magnitude.mpr power)] at low
      refine Or.inl ⟨power, ?_⟩
      rcases low with low | ⟨-, low⟩
      · have above := Numeral.gt_of_compareBinary low
        exact le_of_lt (by linarith only [above, bottom])
      · have same := Numeral.eq_of_compareBinary low
        exact le_of_eq (by linarith only [same, bottom])
    · have bottom := b.quarters_below (k := 2) (by omega)
      rw [Nat.cast_ofNat] at bottom
      rw [if_neg (mt b.halfBelow_magnitude.mp power)] at low
      refine Or.inr ⟨power, ?_⟩
      rcases low with low | ⟨even, low⟩
      · have above := Numeral.gt_of_compareBinary low
        exact Or.inl (by linarith only [above, bottom])
      · have same := Numeral.eq_of_compareBinary low
        exact Or.inr ⟨even, by linarith only [same, bottom]⟩
  · have top := b.quarters_above 2
    rw [Nat.cast_ofNat] at top
    rcases high with high | ⟨even, high⟩
    · have below := Numeral.lt_of_compareBinary high
      exact Or.inl (by linarith only [below, top])
    · have same := Numeral.eq_of_compareBinary high
      exact Or.inr ⟨even, by linarith only [same, top]⟩

/-- What the search takes from a grid has passed the test. -/
theorem names_of_onGrid {e : ℤ} (h : b.magnitude.onGrid e = some d) :
    b.magnitude.names d = true ∧ d.exponent = e := by
  unfold Magnitude.onGrid at h
  dsimp only at h
  split at h
  · rename_i below above
    have chosen := Option.some.inj h
    split at chosen
    · rw [← chosen]
      exact ⟨below, rfl⟩
    · rw [← chosen]
      exact ⟨above, rfl⟩
  · rename_i below _
    rw [← Option.some.inj h]
    exact ⟨below, rfl⟩
  · rename_i _ above
    rw [← Option.some.inj h]
    exact ⟨above, rfl⟩
  · exact nomatch h

theorem value_exact (b : Binary) : b.magnitude.exact.value = b.value := by
  unfold Magnitude.exact value
  rw [exponent_magnitude]
  cases b.exponent with
  | ofNat e =>
    show ((b.mantissa * 2 ^ e : ℕ) : ℚ) * 10 ^ (0 : ℤ) = b.mantissa * 2 ^ (e : ℤ)
    rw [zpow_zero, zpow_natCast, mul_one]
    push_cast
    rfl
  | negSucc e =>
    show ((b.mantissa * 5 ^ (e + 1) : ℕ) : ℚ) * 10 ^ (Int.negSucc e) =
      b.mantissa * 2 ^ (Int.negSucc e)
    have ten : (10 : ℚ) ^ (e + 1) = 5 ^ (e + 1) * 2 ^ (e + 1) := by
      rw [← mul_pow]
      norm_num
    rw [zpow_negSucc, zpow_negSucc, ten]
    push_cast
    field_simp

/-- The position of the first place is not too far down, as the logarithm gives it. -/
theorem le_places (b : Binary) : -324 ≤ b.magnitude.places := by
  have low := b.low
  have logarithm : -324 ≤ (((b.mantissa.log2 : ℤ) + b.exponent) * 30103).fdiv 100000 := by
    rw [Int.fdiv_eq_ediv_of_nonneg _ (by decide)]
    omega
  have shown : b.magnitude.places =
      (((b.mantissa.log2 : ℤ) + b.exponent) * 30103).fdiv 100000 ∨ b.magnitude.places =
      (((b.mantissa.log2 : ℤ) + b.exponent) * 30103).fdiv 100000 + 1 ∨ b.magnitude.places =
      (((b.mantissa.log2 : ℤ) + b.exponent) * 30103).fdiv 100000 + 2 := by
    unfold Magnitude.places
    dsimp only
    split
    · exact Or.inl rfl
    · split
      · exact Or.inr (Or.inl rfl)
      · exact Or.inr (Or.inr rfl)
  omega

theorem le_exponent_exact (b : Binary) : -1074 ≤ b.magnitude.exact.exponent := by
  have low := b.low
  unfold Magnitude.exact
  rw [exponent_magnitude]
  split
  · simp only
    omega
  · rename_i e eq
    rw [eq] at low
    simp only
    omega

/-- **The shortest decimal names the number.** -/
theorem names_shortest (b : Binary) :
    b.Names b.magnitude.shortest.value ∧ -1074 ≤ b.magnitude.shortest.exponent := by
  have places := b.le_places
  unfold Magnitude.shortest
  dsimp only
  generalize found : ((List.range 17).findSome? fun n : ℕ =>
    b.magnitude.onGrid (b.magnitude.places - (n + 1))) = result
  have good : b.Names (result.getD b.magnitude.exact).value ∧
      -1074 ≤ (result.getD b.magnitude.exact).exponent := by
    cases result with
    | none =>
      show b.Names b.magnitude.exact.value ∧ -1074 ≤ b.magnitude.exact.exponent
      rw [value_exact]
      exact ⟨b.names_value, b.le_exponent_exact⟩
    | some d =>
      obtain ⟨n, member, onGrid⟩ := List.exists_of_findSome?_eq_some found
      have few := List.mem_range.mp member
      obtain ⟨names, exponent⟩ := names_of_onGrid onGrid
      refine ⟨names_of_names names, ?_⟩
      show -1074 ≤ d.exponent
      omega
  obtain ⟨same, grows⟩ := (result.getD b.magnitude.exact).value_trim
  rw [same]
  exact ⟨good.1, good.2.trans grows⟩

end Binary

end Decimal
end StreamCatalog
