import StreamCatalog.Proofs.Decimal.ReadBack

/-!
# The marked layout can be read back

The marked layout puts a point into every number that it writes in full, and an exponent behind
the digits of a number that is very large or very small.  In either case the text is digits with
at most one point and perhaps an exponent, and reading it gives the coefficient times a power of
ten that is the decimal's value: for a whole number the added zero is one more digit and one more
place (`marks_of_ofNat`), and for a number with an exponent all digits but one stand behind the
point (`marks_of_far`).
-/

namespace StreamCatalog
namespace Decimal

open Text (Stops)

/-! ## Exponents -/

/-- An exponent behind the digits of a number. -/
def exponentText (e : ℤ) : List Char :=
  'e' :: ((if e < 0 then ['-'] else []) ++ digits e.natAbs)

/-- An exponent is read back. -/
theorem exponent?_exponentText (e : ℤ) : exponent? (exponentText e) = some e := by
  have sign : splitSign ((if e < 0 then ['-'] else []) ++ digits e.natAbs) =
      (decide (e < 0), digits e.natAbs) := by
    by_cases negative : e < 0
    · rw [if_pos negative, decide_eq_true negative]
      rfl
    · obtain ⟨c, cs, first⟩ := List.exists_cons_of_ne_nil (digits_ne_nil e.natAbs)
      have digit : isDigit c = true :=
        allDigits_digits e.natAbs c (by rw [first]; exact List.mem_cons_self)
      rw [if_neg negative, decide_eq_false negative, List.nil_append, first]
      exact splitSign_of_isDigit digit cs
  rw [exponentText, exponent?, if_pos (Or.inl rfl), sign]
  dsimp only
  rw [value?_digits]
  show some (if decide (e < 0) = true then -(e.natAbs : ℤ) else e.natAbs) = some e
  congr 1
  by_cases negative : e < 0
  · rw [if_pos (decide_eq_true negative)]
    omega
  · rw [decide_eq_false negative, if_neg Bool.false_ne_true]
    omega

theorem mem_exponentText {e : ℤ} {c : Char} (member : c ∈ exponentText e) :
    isDigit c = true ∨ c ∈ ['.', 'e', '-'] := by
  rcases List.mem_cons.mp member with rfl | member
  · exact Or.inr (by decide)
  · rcases List.mem_append.mp member with sign | digit
    · split at sign
      · exact Or.inr (List.mem_cons_of_mem _ (List.mem_cons_of_mem _ sign))
      · exact absurd sign List.not_mem_nil
    · exact Or.inl (allDigits_digits _ c digit)

/-! ## Marked decimals -/

variable {whole fraction tail : List Char}

/-- A decimal is written with these digits before and behind the point, and with this exponent. -/
structure Numeral.Marks (d : Numeral) (whole fraction tail : List Char) : Prop where
  text : Layout.marked.writeNumeral d = pointed whole fraction ++ tail
  filled : whole ≠ []
  front : AllDigits whole
  back : AllDigits fraction
  ends : tail = [] ∨ ∃ e, tail = exponentText e
  value : ∃ n e, extend 0 (whole ++ fraction) = some n ∧ exponent? tail = some e ∧
    (n : ℚ) * 10 ^ (e - fraction.length) = d.value ∧ min d.exponent (-1) ≤ e - fraction.length

/-- A whole number that is written in full gets a zero behind the point ... -/
theorem marks_of_ofNat {c e : ℕ}
    (near : Layout.marked.positional (Numeral.leading ⟨c, Int.ofNat e⟩) = true) :
    Numeral.Marks ⟨c, Int.ofNat e⟩ (digits c ++ List.replicate e '0') ['0'] [] where
  text := by
    rw [Layout.writeNumeral, if_pos near, List.append_nil]
    rfl
  filled := List.append_ne_nil_of_left_ne_nil (digits_ne_nil c) _
  front := (allDigits_digits c).append (allDigits_zeros e)
  back := allDigits_zeros 1
  ends := Or.inl rfl
  value := by
    have zeros : List.replicate e '0' ++ ['0'] = List.replicate (e + 1) '0' :=
      List.replicate_succ'.symm
    refine ⟨c * 10 ^ (e + 1), 0, ?_, rfl, ?_, min_le_right _ _⟩
    · rw [List.append_assoc, zeros, extend_append, extend_digits]
      exact extend_zeros c (e + 1)
    · show ((c * 10 ^ (e + 1) : ℕ) : ℚ) * 10 ^ (-1 : ℤ) = (c : ℚ) * 10 ^ (e : ℤ)
      rw [zpow_natCast]
      push_cast
      rw [pow_succ]
      norm_num
      ring

/-- ... another one is written as in the plain layout ... -/
theorem exists_marks_of_negSucc {c e : ℕ}
    (near : Layout.marked.positional (Numeral.leading ⟨c, Int.negSucc e⟩) = true) :
    ∃ whole fraction, Numeral.Marks ⟨c, Int.negSucc e⟩ whole fraction [] := by
  obtain ⟨whole, fraction, shows⟩ := exists_shows ⟨c, Int.negSucc e⟩
  obtain ⟨n, digits, value⟩ := shows.value
  have size : fraction.length = e + 1 := shows.size
  have same : Layout.marked.writePositional ⟨c, Int.negSucc e⟩ =
      Layout.plain.writePositional ⟨c, Int.negSucc e⟩ := rfl
  refine ⟨whole, fraction, {
    text := ?_
    filled := shows.filled
    front := shows.front
    back := shows.back
    ends := Or.inl rfl
    value := ⟨n, 0, digits, rfl, ?_, ?_⟩ }⟩
  · rw [Layout.writeNumeral, if_pos near, same, shows.text, List.append_nil]
  · rw [← value, zero_sub, zpow_neg, zpow_natCast, div_eq_mul_inv]
  · show min (Int.negSucc e) (-1) ≤ _
    omega

/-- ... and one that is not written in full has one digit before the point. -/
theorem exists_marks_of_far {d : Numeral}
    (far : ¬ Layout.marked.positional d.leading = true) :
    ∃ c cs, d.Marks [c] cs (exponentText d.leading) := by
  obtain ⟨c, cs, first⟩ := List.exists_cons_of_ne_nil (digits_ne_nil d.coefficient)
  have all : AllDigits (c :: cs) := by
    rw [← first]
    exact allDigits_digits d.coefficient
  have exponent : d.leading - cs.length = d.exponent := by
    rw [Numeral.leading, first, List.length_cons]
    omega
  refine ⟨c, cs, {
    text := ?_
    filled := List.cons_ne_nil _ _
    front := List.forall_mem_singleton.mpr (all c List.mem_cons_self)
    back := fun e member => all e (List.mem_cons_of_mem _ member)
    ends := Or.inr ⟨_, rfl⟩
    value := ⟨d.coefficient, d.leading, ?_, exponent?_exponentText _, ?_, ?_⟩ }⟩
  · rw [Layout.writeNumeral, if_neg far, writeScientific, first, List.append_assoc]
    cases cs with
    | nil => rfl
    | cons e cs => rfl
  · rw [List.singleton_append, ← first]
    exact extend_digits d.coefficient
  · rw [exponent, Numeral.value]
  · rw [exponent]
    exact min_le_left _ _

theorem exists_marks (d : Numeral) : ∃ whole fraction tail, d.Marks whole fraction tail := by
  by_cases near : Layout.marked.positional d.leading = true
  · obtain ⟨c, e⟩ := d
    cases e with
    | ofNat e => exact ⟨_, _, _, marks_of_ofNat near⟩
    | negSucc e =>
      obtain ⟨whole, fraction, marks⟩ := exists_marks_of_negSucc near
      exact ⟨whole, fraction, [], marks⟩
  · obtain ⟨c, cs, marks⟩ := exists_marks_of_far near
    exact ⟨[c], cs, _, marks⟩

namespace Numeral.Marks

variable {d : Numeral}

/-- No digit and no point stands where the exponent begins. -/
theorem stops (marks : d.Marks whole fraction tail) :
    Stops isDigit tail ∧ tail.head? ≠ some '.' := by
  rcases marks.ends with rfl | ⟨e, rfl⟩
  · exact ⟨Text.stops_nil _, (Option.some_ne_none _).symm⟩
  · refine ⟨Text.stops_cons (by decide) _, ?_⟩
    rw [exponentText, List.head?_cons]
    decide

/-- The text begins with a digit, and digits, points and exponents follow. -/
theorem shape (marks : d.Marks whole fraction tail) : ∃ c rest,
    Layout.marked.writeNumeral d = c :: rest ∧ isDigit c = true ∧
      ∀ e ∈ rest, isDigit e = true ∨ e ∈ ['.', 'e', '-'] := by
  obtain ⟨c, rest, eq, digit, behind⟩ := pointed_eq_cons marks.filled marks.front marks.back
  refine ⟨c, rest ++ tail, ?_, digit, fun e member => ?_⟩
  · rw [marks.text, eq, List.cons_append]
  · rcases List.mem_append.mp member with here | later
    · exact (behind e here).imp_right fun point => by rw [point]; exact List.mem_cons_self
    · rcases marks.ends with rfl | ⟨_, rfl⟩
      · exact absurd later List.not_mem_nil
      · exact mem_exponentText later

end Numeral.Marks

/-- **The marked layout can be read back.** -/
theorem legible_marked : Layout.marked.Legible where
  numeral d b names low := by
    obtain ⟨whole, fraction, tail, marks⟩ := exists_marks d
    obtain ⟨n, e, digits, power, value, least⟩ := marks.value
    have read := unsigned?_pointed_append marks.filled marks.front marks.back digits
      marks.stops.1 marks.stops.2 power
    rw [← marks.text] at read
    refine ⟨_, ⟨marks.shape, read⟩, nearest_of_names (by omega) ?_⟩
    rw [value]
    exact names
  zero := by
    have text : Layout.marked.writePositional ⟨0, 0⟩ = ['0', '.', '0'] := by decide +kernel
    rw [text]
    have behind : ∀ e ∈ ['.', '0'], isDigit e = true ∨ e ∈ ['.', 'e', '-'] :=
      List.forall_mem_cons.mpr
        ⟨Or.inr List.mem_cons_self, List.forall_mem_singleton.mpr (Or.inl (by decide))⟩
    exact ⟨⟨'0', ['.', '0'], rfl, by decide, behind⟩, by decide⟩

end Decimal
end StreamCatalog
