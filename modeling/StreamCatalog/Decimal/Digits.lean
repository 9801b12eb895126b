/-!
# Whole numbers in decimal

Counters, sizes, years and periods are all written the same way: decimal digits,
sometimes padded on the left to a fixed width.  Reading is the exact opposite of
writing, and both work on lists of characters, most significant digit first, so
that a statement about either is an induction on digits.
-/

namespace StreamCatalog
namespace Decimal

/-- The character of a digit below ten. -/
def digitChar (d : Nat) : Char := Char.ofNat (48 + d)

/-- The decimal digits of a number, most significant first; zero is one digit. -/
def digits (n : Nat) : List Char :=
  if n < 10 then [digitChar n] else digits (n / 10) ++ [digitChar (n % 10)]
termination_by n
decreasing_by omega

/-- The value of a digit character, if it is one of the ten ASCII digits. -/
def digitValue? (c : Char) : Option Nat :=
  if '0' ≤ c ∧ c ≤ '9' then some (c.toNat - 48) else none

/-- An ASCII digit. -/
def isDigit (c : Char) : Bool := (digitValue? c).isSome

/-- Continue a number by further digits; `none` at the first character that is
not a digit. -/
def extend : Nat → List Char → Option Nat
  | n, [] => some n
  | n, c :: cs =>
    match digitValue? c with
    | some d => extend (10 * n + d) cs
    | none => none

/-- The number that a non-empty list of digits denotes. -/
def value? (cs : List Char) : Option Nat :=
  if cs.isEmpty then none else extend 0 cs

/-- Fill up on the left to a width; longer texts stay as they are. -/
def padLeft (fill : Char) (width : Nat) (cs : List Char) : List Char :=
  List.replicate (width - cs.length) fill ++ cs

/-- The digits of a number with leading zeros up to a width. -/
def padded (width n : Nat) : List Char := padLeft '0' width (digits n)

/-- A number as text. -/
def text (n : Nat) : String := String.ofList (digits n)

theorem extend_append (n : Nat) (xs ys : List Char) :
    extend n (xs ++ ys) = (extend n xs).bind (extend · ys) := by
  induction xs generalizing n with
  | nil => simp [extend]
  | cons c cs ih =>
    simp only [List.cons_append, extend]
    cases digitValue? c with
    | none => simp
    | some d => simp [ih]

/-- The characters of the ten digits are read back. -/
theorem digitValue?_digitChar {d : Nat} (h : d < 10) : digitValue? (digitChar d) = some d := by
  have all : ∀ e ∈ List.range 10, digitValue? (digitChar e) = some e := by decide
  exact all d (List.mem_range.mpr h)

theorem digits_ne_nil (n : Nat) : digits n ≠ [] := by
  unfold digits
  split <;> simp

/-- What is written is read back. -/
theorem extend_digits (n : Nat) : extend 0 (digits n) = some n := by
  induction n using digits.induct with
  | case1 n h =>
    rw [digits, if_pos h]
    simp [extend, digitValue?_digitChar h]
  | case2 n h ih =>
    rw [digits, if_neg h, extend_append, ih]
    simp only [Option.bind_some, extend, digitValue?_digitChar (Nat.mod_lt n (by omega : 10 > 0))]
    congr 1
    omega

theorem value?_digits (n : Nat) : value? (digits n) = some n := by
  simp [value?, digits_ne_nil, extend_digits]

end Decimal
end StreamCatalog
