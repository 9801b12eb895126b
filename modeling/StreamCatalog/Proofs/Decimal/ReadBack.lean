import StreamCatalog.Decimal.Layout
import StreamCatalog.Proofs.Codec.Numerals
import StreamCatalog.Proofs.Decimal.Naming

/-!
# A number is read back from its text

The text of a finite number is a sign and a body of digits, a point and an exponent.  A layout is
`Legible` if the body that it writes for a decimal is read as the number that the decimal names,
and what a legible layout writes for a number is read as the number: `Legible.read?_write`.

The plain layout is legible (`legible_plain`), because the shortest decimal names its number and
the point stands where it belongs: behind, inside or before the digits, and the value is the same
in each case.
-/

namespace StreamCatalog
namespace Decimal

open Float.Model (Format UnpackedFloat)
open Float.Model.UnpackedFloat
open Text (Stops)

/-! ## Digits and a point -/

theorem extend_zeros (n k : ℕ) : extend n (List.replicate k '0') = some (n * 10 ^ k) := by
  induction k generalizing n with
  | zero => rw [pow_zero, Nat.mul_one]; rfl
  | succ k ih =>
    have digit : digitValue? '0' = some 0 := by decide
    rw [List.replicate_succ, extend, digit]
    show extend (10 * n + 0) _ = _
    rw [ih, pow_succ]
    congr 1
    ring

/-- Does a text consist of digits? -/
def AllDigits (cs : List Char) : Prop := ∀ c ∈ cs, isDigit c = true

theorem allDigits_digits (n : ℕ) : AllDigits (digits n) := fun _ => isDigit_of_mem_digits

theorem allDigits_zeros (k : ℕ) : AllDigits (List.replicate k '0') := by
  intro c member
  rw [List.eq_of_mem_replicate member]
  decide

theorem AllDigits.append {cs ds : List Char} (front : AllDigits cs) (back : AllDigits ds) :
    AllDigits (cs ++ ds) := by
  intro c member
  exact (List.mem_append.mp member).elim (front c) (back c)

theorem toNat_le_of_isDigit {c : Char} (digit : isDigit c = true) : c.toNat ≤ 57 := by
  unfold isDigit digitValue? at digit
  split at digit
  · rename_i range
    exact range.2
  · exact nomatch digit

/-- Digits, and more digits behind a point if there are any. -/
def pointed (whole fraction : List Char) : List Char :=
  if fraction.isEmpty then whole else whole ++ '.' :: fraction

variable {whole fraction : List Char}

/-- Each digit behind the point makes the unit smaller, and an exponent behind the digits changes
it. -/
theorem unsigned?_pointed_append {n : ℕ} {e : ℤ} {tail : List Char} (filled : whole ≠ [])
    (front : AllDigits whole) (back : AllDigits fraction)
    (value : extend 0 (whole ++ fraction) = some n) (ends : Stops isDigit tail)
    (pointless : tail.head? ≠ some '.') (power : exponent? tail = some e) :
    unsigned? (pointed whole fraction ++ tail) = some (nearest n (e - fraction.length)) := by
  have filled : whole.isEmpty = false := List.isEmpty_eq_false_iff.mpr filled
  unfold pointed
  by_cases none : fraction.isEmpty = true
  · obtain rfl := List.isEmpty_iff.mp none
    have taken := Text.takeWhile_append_of_stops front ends
    have left := Text.dropWhile_append_of_stops front ends
    rw [List.append_nil] at value
    rw [if_pos none, unsigned?]
    cases tail with
    | nil =>
      rw [List.append_nil] at taken left ⊢
      simp [taken, left, filled, value, power]
    | cons c cs =>
      have other : c ≠ '.' := fun point => pointless (congrArg some point)
      simp [taken, left, filled, value, power, other]
  · have point : Stops isDigit ('.' :: (fraction ++ tail)) := Text.stops_cons (by decide) _
    have taken := Text.takeWhile_append_of_stops front point
    have left := Text.dropWhile_append_of_stops front point
    have behind := Text.takeWhile_append_of_stops back ends
    have rest := Text.dropWhile_append_of_stops back ends
    rw [if_neg none, List.append_assoc, List.cons_append, unsigned?]
    simp [taken, left, behind, rest, filled, value, power]

/-- Without an exponent only the digits behind the point count. -/
theorem unsigned?_pointed {n : ℕ} (filled : whole ≠ []) (front : AllDigits whole)
    (back : AllDigits fraction) (value : extend 0 (whole ++ fraction) = some n) :
    unsigned? (pointed whole fraction) = some (nearest n (-(fraction.length : ℤ))) := by
  have read := unsigned?_pointed_append filled front back value (Text.stops_nil _)
    (Option.some_ne_none _).symm (e := 0) rfl
  rwa [List.append_nil, zero_sub] at read

/-- A text with a point begins with a digit, and only digits and points follow. -/
theorem pointed_eq_cons (filled : whole ≠ []) (front : AllDigits whole)
    (back : AllDigits fraction) : ∃ c rest, pointed whole fraction = c :: rest ∧
      isDigit c = true ∧ ∀ e ∈ rest, isDigit e = true ∨ e = '.' := by
  obtain ⟨c, cs, rfl⟩ := List.exists_cons_of_ne_nil filled
  have first := front c List.mem_cons_self
  have front (e : Char) (member : e ∈ cs) : isDigit e = true :=
    front e (List.mem_cons_of_mem _ member)
  rw [pointed]
  split
  · exact ⟨c, cs, rfl, first, fun e member => Or.inl (front e member)⟩
  · refine ⟨c, cs ++ '.' :: fraction, rfl, first, fun e member => ?_⟩
    rcases List.mem_append.mp member with here | there
    · exact Or.inl (front e here)
    · rcases List.mem_cons.mp there with point | behind
      · exact Or.inr point
      · exact Or.inl (back e behind)

/-- A decimal is written with these digits before and behind the point. -/
structure Numeral.Shows (d : Numeral) (whole fraction : List Char) : Prop where
  text : Layout.plain.writePositional d = pointed whole fraction
  filled : whole ≠ []
  front : AllDigits whole
  back : AllDigits fraction
  size : fraction.length = (-d.exponent).toNat
  value : ∃ n, extend 0 (whole ++ fraction) = some n ∧ (n : ℚ) / 10 ^ fraction.length = d.value

/-- The point stands behind the digits, and zeros in between ... -/
theorem shows_of_ofNat (c e : ℕ) :
    Numeral.Shows ⟨c, Int.ofNat e⟩ (digits c ++ List.replicate e '0') [] where
  text := List.append_nil _
  filled := List.append_ne_nil_of_left_ne_nil (digits_ne_nil c) _
  front := (allDigits_digits c).append (allDigits_zeros e)
  back _ member := nomatch member
  size := by
    show 0 = (-(e : ℤ)).toNat
    omega
  value := by
    refine ⟨c * 10 ^ e, ?_, ?_⟩
    · rw [List.append_nil, extend_append, extend_digits]
      exact extend_zeros c e
    · show _ = (c : ℚ) * 10 ^ (e : ℤ)
      rw [List.length_nil, zpow_natCast, pow_zero, div_one]
      push_cast
      rfl

theorem value_negSucc (c e : ℕ) :
    (c : ℚ) / 10 ^ (e + 1) = Numeral.value ⟨c, Int.negSucc e⟩ := by
  rw [Numeral.value, zpow_negSucc, div_eq_mul_inv]

/-- ... or inside them ... -/
theorem shows_of_lt {c e : ℕ} (inside : e + 1 < (digits c).length) :
    Numeral.Shows ⟨c, Int.negSucc e⟩ ((digits c).take ((digits c).length - (e + 1)))
      ((digits c).drop ((digits c).length - (e + 1))) := by
  have size : ((digits c).drop ((digits c).length - (e + 1))).length = e + 1 := by
    rw [List.length_drop]
    omega
  have longer : ((digits c).drop ((digits c).length - (e + 1))).isEmpty ≠ true := by
    intro none
    rw [List.isEmpty_iff.mp none] at size
    exact nomatch size
  refine {
    text := (if_pos inside).trans (if_neg longer).symm
    filled := ?_
    front := fun d member => allDigits_digits c d (List.mem_of_mem_take member)
    back := fun d member => allDigits_digits c d (List.mem_of_mem_drop member)
    size := size
    value := ⟨c, ?_, ?_⟩ }
  · intro none
    have none := congrArg List.length none
    rw [List.length_take, List.length_nil] at none
    omega
  · rw [List.take_append_drop]
    exact extend_digits c
  · rw [size]
    exact value_negSucc c e

/-- ... or before them, and zeros in between. -/
theorem shows_of_le {c e : ℕ} (before : ¬ e + 1 < (digits c).length) :
    Numeral.Shows ⟨c, Int.negSucc e⟩ ['0']
      (List.replicate (e + 1 - (digits c).length) '0' ++ digits c) := by
  have size : (List.replicate (e + 1 - (digits c).length) '0' ++ digits c).length = e + 1 := by
    rw [List.length_append, List.length_replicate]
    omega
  have longer : (List.replicate (e + 1 - (digits c).length) '0' ++ digits c).isEmpty ≠ true := by
    intro none
    rw [List.isEmpty_iff.mp none] at size
    exact nomatch size
  refine {
    text := (if_neg before).trans (if_neg longer).symm
    filled := List.cons_ne_nil _ _
    front := allDigits_zeros 1
    back := (allDigits_zeros _).append (allDigits_digits c)
    size := size
    value := ⟨c, ?_, ?_⟩ }
  · show extend 0 (List.replicate (e + 1 - (digits c).length + 1) '0' ++ digits c) = some c
    rw [extend_replicate]
    exact extend_digits c
  · rw [size]
    exact value_negSucc c e

theorem exists_shows (d : Numeral) : ∃ whole fraction, d.Shows whole fraction := by
  obtain ⟨c, e⟩ := d
  cases e with
  | ofNat e => exact ⟨_, _, shows_of_ofNat c e⟩
  | negSucc e =>
    by_cases inside : e + 1 < (digits c).length
    · exact ⟨_, _, shows_of_lt inside⟩
    · exact ⟨_, _, shows_of_le inside⟩

/-! ## Legible layouts -/

/-- Is this a text of digits, points and exponents that is read as this number? -/
structure Spells (body : List Char) (y : Float) : Prop where
  shape : ∃ c rest, body = c :: rest ∧ isDigit c = true ∧
    ∀ e ∈ rest, isDigit e = true ∨ e ∈ ['.', 'e', '-']
  read : unsigned? body = some y

/-- Are the decimals of a layout read as the numbers that they name, and is its zero? -/
structure Layout.Legible (l : Layout) : Prop where
  numeral : ∀ (d : Numeral) (b : Binary), b.Names d.value → -1074 ≤ d.exponent →
    ∃ y, Spells (l.writeNumeral d) y ∧ y.toModel = .pack (b.unpacked .positive)
  zero : Spells (l.writePositional ⟨0, 0⟩) 0.0

/-- **The plain layout can be read back.** -/
theorem legible_plain : Layout.plain.Legible where
  numeral d b names low := by
    obtain ⟨whole, fraction, shows⟩ := exists_shows d
    obtain ⟨n, digits, value⟩ := shows.value
    have size := shows.size
    have read := unsigned?_pointed shows.filled shows.front shows.back digits
    obtain ⟨c, rest, eq, digit, behind⟩ := pointed_eq_cons shows.filled shows.front shows.back
    have text : Layout.plain.writeNumeral d = pointed whole fraction := shows.text
    rw [text]
    refine ⟨_, ⟨⟨c, rest, eq, digit, fun e member => ?_⟩, read⟩, nearest_eq (by omega) ?_⟩
    · exact (behind e member).imp_right fun point => by rw [point]; exact List.mem_cons_self
    · rw [value]
      exact names
  zero := by
    have text : Layout.plain.writePositional ⟨0, 0⟩ = ['0'] := by decide +kernel
    rw [text]
    exact ⟨⟨'0', [], rfl, by decide, fun _ member => absurd member List.not_mem_nil⟩,
      by decide⟩

/-! ## The sign -/

/-- The text of a sign. -/
def signText : Sign → List Char
  | .negative => ['-']
  | .positive => []

/-- A number with a sign. -/
def signed : Sign → Float → Float
  | .negative, x => -x
  | .positive, x => x

theorem eq_of_toModel {x y : Float} (h : x.toModel = y.toModel) : x = y :=
  congrArg Float.ofModel h

/-- Negating changes the sign and nothing else. -/
theorem toModel_signed {b : Binary} {y : Float} (s : Sign)
    (h : y.toModel = .pack (b.unpacked .positive)) :
    (signed s y).toModel = .pack (b.unpacked s) := by
  cases s with
  | positive => exact h
  | negative =>
    show Float.Model.pack y.toModel.unpack.neg = _
    rw [h, Binary.unpack_pack]
    rfl

/-- In every layout a number is written as a sign and the shortest decimal that names it. -/
theorem write_of_binary (l : Layout) {x : Float} {s : Sign} {b : Binary}
    (h : x.toModel = .pack (b.unpacked s)) :
    l.write x = signText s ++ l.writeNumeral b.magnitude.shortest := by
  have unpacked : x.toModel.unpack = b.unpacked s := by rw [h, Binary.unpack_pack]
  have number : x.isNaN = false := by
    show x.toModel.unpack.isNaN = false
    rw [unpacked]
    rfl
  have finite : x.isInf = false := by
    show x.toModel.unpack.isInf = false
    rw [unpacked]
    rfl
  have magnitude : Magnitude.ofBits x.toBits = b.magnitude := by
    show Magnitude.ofBits x.toModel.toBits = _
    rw [h]
    exact b.ofBits_pack s
  have bit : (x.toBits >>> 63).toNat = s.toBitVec.toNat := by
    have field := b.toNat_exponentField_lt
    have bits : x.toBits.toNat = _ := (congrArg (UInt64.toNat ∘ Float.Model.toBits) h).trans
      (b.toNat_pack s)
    rw [toNat_sign_bit, bits]
    omega
  have sign : (if x.toBits >>> 63 = 1 then ['-'] else []) = signText s := by
    cases s with
    | negative => exact if_pos (UInt64.toNat_inj.mp bit)
    | positive =>
      refine if_neg fun set => ?_
      rw [set] at bit
      exact nomatch bit
  have some : b.magnitude.mantissa ≠ 0 := b.positive.ne'
  unfold Layout.write
  simp only [number, finite, magnitude, sign, Bool.false_eq_true, if_false]
  rw [if_neg some]

/-- A zero is written as a sign and a zero. -/
theorem write_zero (l : Layout) (s : Sign) :
    l.write (signed s 0.0) = signText s ++ l.writePositional ⟨0, 0⟩ := by
  have number : (signed s 0.0).isNaN = false := by cases s <;> decide
  have finite : (signed s 0.0).isInf = false := by cases s <;> decide
  have nothing : (Magnitude.ofBits (signed s 0.0).toBits).mantissa = 0 := by
    cases s <;> decide
  have sign : (if (signed s 0.0).toBits >>> 63 = 1 then ['-'] else []) = signText s := by
    cases s <;> decide
  unfold Layout.write
  simp only [number, finite, nothing, sign, Bool.false_eq_true, if_false]
  rw [if_pos trivial]

/-! ## Reading -/

/-- No digit is a letter, so none begins a name. -/
theorem named?_of_isDigit {c : Char} (digit : isDigit c = true) (rest : List Char) :
    named? (c :: rest) = none := by
  have upper : ¬ (c.val ≥ 'A'.val ∧ c.val ≤ 'Z'.val) := by
    intro letter
    have low : 65 ≤ c.toNat := letter.1
    have high := toNat_le_of_isDigit digit
    omega
  have lower : c.toLower = c := dif_neg upper
  unfold named?
  rw [List.map_cons, lower]
  split <;> rename_i eq
  · rw [(List.cons.inj eq).1] at digit
    exact absurd digit (by decide)
  · rw [(List.cons.inj eq).1] at digit
    exact absurd digit (by decide)
  · rw [(List.cons.inj eq).1] at digit
    exact absurd digit (by decide)
  · rfl

theorem splitSign_of_isDigit {c : Char} (digit : isDigit c = true) (rest : List Char) :
    splitSign (c :: rest) = (false, c :: rest) := by
  unfold splitSign
  split <;> rename_i eq
  · rw [(List.cons.inj eq).1] at digit
    exact absurd digit (by decide)
  · rw [(List.cons.inj eq).1] at digit
    exact absurd digit (by decide)
  · rfl

/-- A number is read together with the sign in front of it. -/
theorem Spells.read?_signed {body : List Char} {y : Float} (spells : Spells body y) (s : Sign) :
    read? (signText s ++ body) = some (signed s y) := by
  obtain ⟨⟨c, rest, rfl, digit, -⟩, read⟩ := spells
  have number : ((named? (c :: rest)).orElse fun _ => unsigned? (c :: rest)) = some y := by
    rw [named?_of_isDigit digit, read]
    rfl
  cases s with
  | positive =>
    show read? (c :: rest) = some y
    unfold read?
    simp only [splitSign_of_isDigit digit, number]
    rfl
  | negative =>
    show read? ('-' :: c :: rest) = some (-y)
    unfold read?
    simp only [splitSign, number]
    rfl

namespace Layout.Legible

variable {l : Layout} {x : Float}

/-- A finite number is written as a sign and a body that is read as the number without its
sign. -/
theorem exists_write (legible : l.Legible) (finite : x.isFinite = true) : ∃ s body y,
    l.write x = signText s ++ body ∧ Spells body y ∧ x = signed s y := by
  rcases exists_binary finite with ⟨s, h⟩ | ⟨s, b, h⟩
  · obtain rfl : x = signed s 0.0 := by
      refine eq_of_toModel (h.trans ?_)
      cases s <;> decide
    exact ⟨s, _, 0.0, write_zero l s, legible.zero, rfl⟩
  · obtain ⟨names, low⟩ := b.names_shortest
    obtain ⟨y, spells, model⟩ := legible.numeral _ b names low
    exact ⟨s, _, y, write_of_binary l h, spells,
      eq_of_toModel (h.trans (toModel_signed s model).symm)⟩

/-- **What is written for a finite number is read as the number.** -/
theorem read?_write (legible : l.Legible) (finite : x.isFinite = true) :
    read? (l.write x) = some x := by
  obtain ⟨s, body, y, text, spells, rfl⟩ := legible.exists_write finite
  rw [text]
  exact spells.read?_signed s

/-- The text of a finite number begins with a digit or a minus sign, and goes on with digits,
points and exponents. -/
theorem write_eq_cons (legible : l.Legible) (finite : x.isFinite = true) : ∃ c rest,
    l.write x = c :: rest ∧ (isDigit c = true ∨ c = '-') ∧
      ∀ e ∈ rest, isDigit e = true ∨ e ∈ ['.', 'e', '-'] := by
  obtain ⟨s, body, y, text, spells, -⟩ := legible.exists_write finite
  obtain ⟨c, rest, rfl, digit, behind⟩ := spells.shape
  cases s with
  | positive => exact ⟨c, rest, text, Or.inl digit, behind⟩
  | negative =>
    refine ⟨'-', c :: rest, text, Or.inr rfl, fun e member => ?_⟩
    rcases List.mem_cons.mp member with rfl | later
    · exact Or.inl digit
    · exact behind e later

end Layout.Legible

end Decimal
end StreamCatalog
