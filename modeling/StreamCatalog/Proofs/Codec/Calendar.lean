import StreamCatalog.Time.Calendar

/-!
# Dates and day numbers

A day number has a date that exists, and the date has that day number again
(`Date.ofDayNumber_spec`).

The year of a day is guessed from the mean length of a year.  The guess is off by one at
most, because a year begins less than a day after, and less than two days before, the
point that the mean length gives for it.  The month is found by taking the months of the
year off the day, one after the other.
-/

namespace StreamCatalog
namespace Time

/-! ## Years -/

/-- The number of days in a year. -/
def yearLength (leap : Bool) : Nat := if leap then 366 else 365

theorem isLeapYear_iff (y : Int) :
    isLeapYear y = true ↔ y % 4 = 0 ∧ (y % 100 ≠ 0 ∨ y % 400 = 0) := by
  simp [isLeapYear]

/-- A year has the days that lie between its beginning and that of the next one. -/
theorem daysBeforeYear_succ (y : Int) :
    daysBeforeYear (y + 1) = daysBeforeYear y + yearLength (isLeapYear y) := by
  by_cases leap : isLeapYear y = true
  · have rule := (isLeapYear_iff y).mp leap
    rw [leap]
    simp only [daysBeforeYear, yearLength, if_true]
    omega
  · have rule : ¬(y % 4 = 0 ∧ (y % 100 ≠ 0 ∨ y % 400 = 0)) := fun h =>
      leap ((isLeapYear_iff y).mpr h)
    rw [Bool.eq_false_iff.mpr leap]
    simp only [daysBeforeYear, yearLength, Bool.false_eq_true, if_false]
    omega

/-- A day falls into its year. -/
theorem yearOf_spec (n : Int) :
    daysBeforeYear (yearOf n) ≤ n ∧ n < daysBeforeYear (yearOf n + 1) := by
  unfold yearOf
  dsimp only
  split
  · simp only [daysBeforeYear] at *
    omega
  · split
    · simp only [daysBeforeYear] at *
      omega
    · omega

/-! ## Months -/

/-- The days of several months. -/
def daysOf : List Nat → Nat
  | [] => 0
  | length :: lengths => length + daysOf lengths

theorem foldl_add_eq_daysOf (n : Nat) (lengths : List Nat) :
    lengths.foldl (· + ·) n = n + daysOf lengths := by
  induction lengths generalizing n with
  | nil => rfl
  | cons length lengths ih => rw [List.foldl_cons, ih, daysOf, Nat.add_assoc]

/-- Taking months off a day ends in a month that has this day. -/
theorem monthOf_spec (month : Nat) {n : Nat} {lengths : List Nat} (inside : n < daysOf lengths) :
    ∃ i day, monthOf month n lengths = (month + i, day) ∧ i < lengths.length ∧ 1 ≤ day ∧
      day ≤ lengths.getD i 0 ∧ daysOf (lengths.take i) + day = n + 1 := by
  induction lengths generalizing month n with
  | nil => exact absurd inside (Nat.not_lt_zero n)
  | cons length rest ih =>
    rw [monthOf]
    split
    · rename_i here
      exact ⟨0, n + 1, rfl, Nat.zero_lt_succ _, by omega, here, Nat.zero_add _⟩
    · rename_i later
      rw [daysOf] at inside
      obtain ⟨i, day, found, bound, positive, fits, total⟩ :=
        ih (month + 1) (n := n - length) (by omega)
      refine ⟨i + 1, day, ?_, Nat.succ_lt_succ bound, positive, fits, ?_⟩
      · rw [found]
        congr 1
        omega
      · rw [List.take_succ_cons, daysOf]
        omega

theorem daysOf_monthLengths (leap : Bool) : daysOf (monthLengths leap) = yearLength leap := by
  cases leap <;> rfl

theorem length_monthLengths (leap : Bool) : (monthLengths leap).length = 12 := by
  cases leap <;> rfl

theorem daysBeforeMonth_eq_daysOf (leap : Bool) (month : Nat) :
    daysBeforeMonth leap month = daysOf ((monthLengths leap).take (month - 1)) := by
  rw [daysBeforeMonth, foldl_add_eq_daysOf, Nat.zero_add]

/-! ## Dates -/

namespace Date

/-- **The date of a day number exists and has this day number.** -/
theorem ofDayNumber_spec (n : Int) :
    (ofDayNumber n).isValid = true ∧ (ofDayNumber n).dayNumber = n := by
  obtain ⟨above, below⟩ := yearOf_spec (n + epochDay)
  rw [daysBeforeYear_succ] at below
  have inside : (n + epochDay - daysBeforeYear (yearOf (n + epochDay))).toNat <
      daysOf (monthLengths (isLeapYear (yearOf (n + epochDay)))) := by
    rw [daysOf_monthLengths]
    omega
  obtain ⟨i, day, found, bound, positive, fits, total⟩ := monthOf_spec 1 inside
  rw [length_monthLengths] at bound
  have date : ofDayNumber n = ⟨yearOf (n + epochDay), 1 + i, day⟩ := by
    simp only [ofDayNumber, found]
  have before : 1 + i - 1 = i := by omega
  rw [date]
  constructor
  · simp only [isValid, before, Bool.and_eq_true, decide_eq_true_eq]
    exact ⟨⟨⟨by omega, by omega⟩, positive⟩, fits⟩
  · simp only [dayNumber, ordinal, daysBeforeMonth_eq_daysOf, before]
    omega

end Date
end Time
end StreamCatalog
