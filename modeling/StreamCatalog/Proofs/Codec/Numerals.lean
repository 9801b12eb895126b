import StreamCatalog.Decimal.Digits
import StreamCatalog.Text.Blank

/-!
# Numerals in a text

A numeral is written as digits and nothing else, with a leading zero only if it is padded
or zero.  So a reader that takes digits as long as there are any takes exactly the numeral,
provided that no further digit follows: the condition `Stops` says so of what follows.
-/

namespace StreamCatalog

namespace Text

/-- Does a run of characters with a property end where this text begins? -/
def Stops (p : Char → Bool) (cs : List Char) : Prop := ∀ c, cs.head? = some c → p c = false

theorem stops_nil (p : Char → Bool) : Stops p [] := fun _ h => nomatch h

theorem stops_cons {p : Char → Bool} {c : Char} (h : p c = false) (cs : List Char) :
    Stops p (c :: cs) := by
  intro d hd
  rw [List.head?_cons, Option.some.injEq] at hd
  rw [← hd]
  exact h

theorem takeWhile_append_of_stops {p : Char → Bool} {run rest : List Char}
    (all : ∀ c ∈ run, p c = true) (stops : Stops p rest) : (run ++ rest).takeWhile p = run := by
  rw [List.takeWhile_append_of_pos all]
  cases rest with
  | nil => rw [List.takeWhile_nil, List.append_nil]
  | cons c rest => rw [List.takeWhile_cons_of_neg (by simp [stops c rfl]), List.append_nil]

theorem dropWhile_append_of_stops {p : Char → Bool} {run rest : List Char}
    (all : ∀ c ∈ run, p c = true) (stops : Stops p rest) : (run ++ rest).dropWhile p = rest := by
  rw [List.dropWhile_append_of_pos all]
  cases rest with
  | nil => rfl
  | cons c rest => exact List.dropWhile_cons_of_neg (by simp [stops c rfl])

end Text

namespace Decimal

theorem isDigit_digitChar {d : Nat} (h : d < 10) : isDigit (digitChar d) = true := by
  rw [isDigit, digitValue?_digitChar h]
  rfl

/-- Only digits are written. -/
theorem isDigit_of_mem_digits {n : Nat} {c : Char} (h : c ∈ digits n) : isDigit c = true := by
  induction n using digits.induct with
  | case1 n small =>
    rw [digits, if_pos small, List.mem_singleton] at h
    rw [h]
    exact isDigit_digitChar small
  | case2 n large ih =>
    rw [digits, if_neg large, List.mem_append, List.mem_singleton] at h
    rcases h with h | rfl
    · exact ih h
    · exact isDigit_digitChar (Nat.mod_lt n (by decide))

theorem isDigit_of_mem_padded {width n : Nat} {c : Char} (h : c ∈ padded width n) :
    isDigit c = true := by
  rw [padded, padLeft, List.mem_append] at h
  rcases h with h | h
  · rw [List.eq_of_mem_replicate h]
    decide
  · exact isDigit_of_mem_digits h

/-- The first digit of a number that is not zero is not zero. -/
theorem head?_digits_ne {n : Nat} (positive : 0 < n) : (digits n).head? ≠ some '0' := by
  induction n using digits.induct with
  | case1 n small =>
    rw [digits, if_pos small, List.head?_cons]
    have all : ∀ d ∈ List.range 10, 0 < d → some (digitChar d) ≠ some '0' := by decide
    exact all n (List.mem_range.mpr small) positive
  | case2 n large ih =>
    obtain ⟨d, ds, first⟩ := List.exists_cons_of_ne_nil (digits_ne_nil (n / 10))
    have ih := ih (by omega)
    rw [first] at ih
    rw [digits, if_neg large, first]
    exact ih

/-- Different numbers have different digits. -/
theorem digits_injective {m n : Nat} (same : digits m = digits n) : m = n := by
  have values := congrArg value? same
  rw [value?_digits, value?_digits] at values
  exact Option.some.inj values

/-- A number below a power of ten has no more digits than the power has zeros. -/
theorem length_digits_le {n width : Nat} (positive : 0 < width) (h : n < Nat.pow 10 width) :
    (digits n).length ≤ width := by
  induction n using digits.induct generalizing width with
  | case1 n small =>
    rw [digits, if_pos small]
    exact positive
  | case2 n large ih =>
    rw [digits, if_neg large, List.length_append, List.length_singleton]
    obtain _ | _ | width := width
    · exact absurd positive (Nat.lt_irrefl 0)
    · exact absurd h large
    · have below : n / 10 < Nat.pow 10 (width + 1) :=
        Nat.div_lt_of_lt_mul (by rwa [Nat.mul_comm])
      exact Nat.succ_le_succ (ih (Nat.succ_pos width) below)

theorem length_padded {n width : Nat} (positive : 0 < width) (h : n < Nat.pow 10 width) :
    (padded width n).length = width := by
  have := length_digits_le positive h
  rw [padded, padLeft, List.length_append, List.length_replicate]
  omega

theorem padded_ne_nil (width n : Nat) : padded width n ≠ [] := by
  rw [padded, padLeft]
  exact List.append_ne_nil_of_right_ne_nil _ (digits_ne_nil n)

theorem extend_replicate (k : Nat) (cs : List Char) :
    extend 0 (List.replicate k '0' ++ cs) = extend 0 cs := by
  induction k with
  | zero => rfl
  | succ k ih =>
    rw [List.replicate_succ, List.cons_append, extend]
    exact ih

/-- Leading zeros do not change a number. -/
theorem value?_padded (width n : Nat) : value? (padded width n) = some n := by
  rw [value?, List.isEmpty_eq_false_iff.mpr (padded_ne_nil width n), padded, padLeft,
    extend_replicate]
  exact extend_digits n

/-- No digit is blank. -/
theorem isBlank_of_isDigit {c : Char} (h : isDigit c = true) : Text.isBlank c = false := by
  rw [isDigit, digitValue?] at h
  split at h
  · rename_i range
    have low : 48 ≤ c.toNat := range.1
    have high : c.toNat ≤ 57 := range.2
    simp only [Text.isBlank, Text.blankRanges, List.any_cons, List.any_nil]
    simp only [Bool.or_false, Bool.or_eq_false_iff, Bool.and_eq_false_iff, decide_eq_false_iff_not]
    omega
  · exact absurd h (by decide)

end Decimal
end StreamCatalog
