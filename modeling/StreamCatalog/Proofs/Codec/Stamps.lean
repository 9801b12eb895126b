import StreamCatalog.Proofs.Codec.Calendar
import StreamCatalog.Proofs.Codec.Numerals
import StreamCatalog.Time.Stamp

/-!
# Time stamps are read back

A time stamp is read field by field.  Every field is a numeral of known width with a mark
behind it that is no digit, so that each reader stops where the writer did.  What has been
read is a date and a time of day, and these give the instant back: the date by way of its
day number, the time of day by division, and the second sixty as a leap second.

The main statement is `Instant.ofStamp?_stamp`, for every instant there is.
-/

namespace StreamCatalog
namespace Time

open Decimal
open Text (Stops stops_nil stops_cons)

/-! ## Fields -/

/-- Digits are taken as long as there are any. -/
theorem readDigits_append {most : Nat} {ds rest : List Char} (digits : ∀ c ∈ ds, isDigit c = true)
    (fits : ds.length ≤ most) (stops : Stops isDigit rest) :
    readDigits most (ds ++ rest) = (value? ds).map fun n => (n, rest) := by
  have taken : ((ds ++ rest).take most).takeWhile isDigit = ds := by
    rw [List.take_append, List.take_of_length_le fits]
    refine Text.takeWhile_append_of_stops digits fun c first => stops c ?_
    rw [List.head?_take] at first
    split at first
    · exact nomatch first
    · exact first
  rw [readDigits, taken]
  simp only [List.drop_left]

/-- In front of a digit nothing is trimmed. -/
theorem trimLeft_append_of_digits {ds : List Char} (filled : ds ≠ [])
    (digits : ∀ c ∈ ds, isDigit c = true) (rest : List Char) :
    Text.trimLeft (ds ++ rest) = ds ++ rest := by
  obtain ⟨d, ds, rfl⟩ := List.exists_cons_of_ne_nil filled
  exact List.dropWhile_cons_of_neg (by simp [isBlank_of_isDigit (digits d List.mem_cons_self)])

theorem readField_append {n : Nat} (small : n < 100) {rest : List Char}
    (stops : Stops isDigit rest) : readField (padded 2 n ++ rest) = some (n, rest) := by
  have digits : ∀ c ∈ padded 2 n, isDigit c = true := fun c h => isDigit_of_mem_padded h
  rw [readField, trimLeft_append_of_digits (padded_ne_nil 2 n) digits,
    readDigits_append digits (Nat.le_of_eq (length_padded (by decide) small)) stops, value?_padded]
  rfl

theorem readMark_cons {mark : Char} (visible : Text.isBlank mark = false) (rest : List Char) :
    readMark mark (mark :: rest) = some rest := by
  rw [readMark, Text.trimLeft, List.dropWhile_cons_of_neg (by simp [visible])]
  exact if_pos rfl

/-- A year is read back. -/
theorem readYear_append (y : Int) {rest : List Char} (stops : Stops isDigit rest) :
    readYear (writeYear y ++ rest) = some (y, rest) := by
  have digits (n : Nat) : ∀ c ∈ padded 4 n, isDigit c = true := fun c h => isDigit_of_mem_padded h
  have signed (n : Nat) : readDigits (padded 4 n ++ rest).length (padded 4 n ++ rest) =
      some (n, rest) := by
    rw [readDigits_append (digits n) (by simp) stops, value?_padded]
    rfl
  unfold writeYear
  split
  · rename_i plain
    have small : y.toNat < Nat.pow 10 4 := by
      show y.toNat < 10000
      omega
    obtain ⟨d, ds, first⟩ := List.exists_cons_of_ne_nil (padded_ne_nil 4 y.toNat)
    have digit : isDigit d = true := digits y.toNat d (by rw [first]; exact List.mem_cons_self)
    have not_minus : d ≠ '-' := by rintro rfl; exact absurd digit (by decide)
    have not_plus : d ≠ '+' := by rintro rfl; exact absurd digit (by decide)
    have read := readDigits_append (digits y.toNat)
      (Nat.le_of_eq (length_padded (by decide) small)) stops
    rw [readYear, trimLeft_append_of_digits (padded_ne_nil 4 y.toNat) (digits y.toNat)]
    rw [value?_padded] at read
    rw [first, List.cons_append] at read ⊢
    split
    · rename_i same
      exact absurd (List.cons.inj same).1 not_minus
    · rename_i same
      exact absurd (List.cons.inj same).1 not_plus
    · rw [read]
      simp only [Option.map_some, Option.some.injEq, Prod.mk.injEq, and_true]
      omega
  · split
    · rw [readYear, List.cons_append, Text.trimLeft, List.dropWhile_cons_of_neg (by decide)]
      simp only [signed, Option.map_some, Option.some.injEq, Prod.mk.injEq, and_true]
      omega
    · rw [readYear, List.cons_append, Text.trimLeft, List.dropWhile_cons_of_neg (by decide)]
      simp only [signed, Option.map_some, Option.some.injEq, Prod.mk.injEq, and_true]
      omega

/-- A part of a second is read back. -/
theorem readFraction_append {nanos : Nat} (small : nanos < 1000000000) {rest : List Char}
    (stops : Stops isDigit rest) (noPoint : rest.head? ≠ some '.') :
    readFraction (writeFraction nanos ++ rest) = some (nanos, rest) := by
  have point {width n : Nat} (positive : 0 < width) (most : width ≤ 9) (fits : n < Nat.pow 10 width) :
      readFraction ('.' :: padded width n ++ rest) = some (n * Nat.pow 10 (9 - width), rest) := by
    have digits : ∀ c ∈ padded width n, isDigit c = true := fun c h => isDigit_of_mem_padded h
    have length := length_padded positive fits
    rw [List.cons_append, readFraction,
      readDigits_append digits (by rw [length]; exact most) stops, value?_padded]
    have behind : (padded width n ++ rest).drop width = rest := List.drop_left' length
    simp only [Option.map_some, Text.takeWhile_append_of_stops digits stops, length,
      Nat.min_eq_right most, behind]
  unfold writeFraction
  split
  · rename_i zero
    rw [List.nil_append, zero]
    unfold readFraction
    split
    · rename_i same
      exact absurd rfl noPoint
    · rfl
  · split
    · rename_i whole
      rw [point (by decide) (by decide) (show nanos / 1000000 < 1000 by omega)]
      congr 2
      show nanos / 1000000 * 1000000 = nanos
      omega
    · split
      · rename_i whole
        rw [point (by decide) (by decide) (show nanos / 1000 < 1000000 by omega)]
        congr 2
        show nanos / 1000 * 1000 = nanos
        omega
      · rw [point (by decide) (by decide) small]
        congr 2
        exact Nat.mul_one nanos

/-! ## Dates and times of day -/

/-- The parts of a date that exists have two digits at most. -/
theorem Date.small_of_isValid {d : Date} (valid : d.isValid = true) :
    d.month < 100 ∧ d.day < 100 := by
  have lengths : ∀ leap, ∀ month ∈ List.range 12, (monthLengths leap).getD month 0 ≤ 31 := by decide
  simp only [isValid, Bool.and_eq_true, decide_eq_true_eq] at valid
  obtain ⟨⟨⟨first, last⟩, -⟩, fits⟩ := valid
  have short := lengths (isLeapYear d.year) (d.month - 1) (List.mem_range.mpr (by omega))
  constructor <;> omega

namespace Instant

/-- The parts of a time of day. -/
theorem timeOfDay_spec (i : Instant) :
    i.hour < 24 ∧ i.minute < 60 ∧ i.second ≤ 60 ∧ i.nanosecond < 1000000000 := by
  have day : i.secondOfDay < 86400 := by
    unfold secondOfDay
    omega
  refine ⟨?_, Nat.mod_lt _ (by decide), ?_, Nat.mod_lt _ (by decide)⟩
  · unfold hour
    omega
  · unfold second
    split <;> omega

/-- **The parts of an instant give it back**, also inside a leap second, which is the
second sixty of its minute. -/
theorem instantOf?_parts (i : Instant) :
    instantOf? i.date i.hour i.minute i.second i.nanosecond 0 = some i := by
  obtain ⟨valid, number⟩ := Date.ofDayNumber_spec i.day
  obtain ⟨hours, minutes, seconds, -⟩ := i.timeOfDay_spec
  have read : (if i.second = 60 then (59, i.nanosecond + 1000000000) else (i.second, i.nanosecond)) =
      (i.secondOfDay % 60, i.nanos) := by
    have leap := i.leapAtMinuteEnd
    have below := Nat.mod_lt i.secondOfDay (show 60 > 0 by decide)
    have sixty : i.seconds % 60 = 59 → i.secondOfDay % 60 = 59 := by
      unfold secondOfDay
      omega
    by_cases inside : 1000000000 ≤ i.nanos
    · have last : i.secondOfDay % 60 = 59 := sixty (by omega)
      have second : i.second = 60 := by
        rw [Instant.second, inLeapSecond, if_pos (decide_eq_true inside), last]
      rw [if_pos second, last, nanosecond]
      congr 1
      omega
    · have second : i.second = i.secondOfDay % 60 := by
        rw [Instant.second, inLeapSecond, if_neg (by simpa using inside), Nat.add_zero]
      rw [if_neg (by omega), second, nanosecond, Nat.mod_eq_of_lt (Nat.lt_of_not_le inside)]
  have together : i.day * 86400 +
      (i.hour * 3600 + i.minute * 60 + i.secondOfDay % 60 : Nat) = i.seconds := by
    unfold day hour minute secondOfDay
    omega
  have allowed : (i.date.isValid && decide (i.hour < 24) && decide (i.minute < 60) &&
      decide (i.second ≤ 60) && decide ((0 : Int).natAbs < 86400)) = true := by
    simp [date, valid, hours, minutes, seconds]
  rw [instantOf?, if_pos allowed]
  simp only [read]
  rw [show i.date.dayNumber = i.day from number, together, if_pos i.inRange, Int.sub_zero]
  exact of?_self i

/-- **An instant is read back from its time stamp.** -/
theorem ofStamp?_stamp (i : Instant) : ofStamp? i.stamp = some i := by
  obtain ⟨month, day⟩ := Date.small_of_isValid (Date.ofDayNumber_spec i.day).1
  obtain ⟨hours, minutes, seconds, nanos⟩ := i.timeOfDay_spec
  have mark {c : Char} (h : isDigit c = false) (cs : List Char) : Stops isDigit (c :: cs) :=
    stops_cons h cs
  have fraction : Stops isDigit (writeFraction i.nanosecond ++ ['Z']) := by
    unfold writeFraction
    split
    · exact mark (by decide) _
    · split
      · exact mark (by decide) _
      · split <;> exact mark (by decide) _
  rw [ofStamp?, stamp, String.toList_ofList, writeStamp, writeDate, writeTimeOfDay]
  simp only [List.append_assoc, List.cons_append]
  rw [readStamp?]
  simp only [readYear_append _ (mark (c := '-') (by decide) _), Option.bind_eq_bind,
    Option.bind_some, readMark_cons (show Text.isBlank '-' = false by decide),
    readMark_cons (show Text.isBlank ':' = false by decide),
    readField_append (show i.date.month < 100 from month) (mark (c := '-') (by decide) _),
    readField_append (show i.date.day < 100 from day) (mark (c := 'T') (by decide) _),
    readField_append (show i.hour < 100 by omega) (mark (c := ':') (by decide) _),
    readField_append (show i.minute < 100 by omega) (mark (c := ':') (by decide) _),
    readField_append (show i.second < 100 by omega) fraction,
    readFraction_append nanos (mark (c := 'Z') (by decide) []) (by decide)]
  exact i.instantOf?_parts

end Instant

end Time
end StreamCatalog
