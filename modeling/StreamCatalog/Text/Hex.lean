/-!
# Hexadecimal numbers

Code points are written with as many digits as they need, identifiers and escapes
with a fixed number of them.  Letters are written in lower case and read in either
case.
-/

namespace StreamCatalog
namespace Text

/-- The hexadecimal digits of a number, lower case, most significant first. -/
def hexDigits (n : Nat) : List Char :=
  if n < 16 then [Nat.digitChar n] else hexDigits (n / 16) ++ [Nat.digitChar (n % 16)]
termination_by n
decreasing_by omega

/-- The last digits of a number, as many as wanted. -/
def hexFixed : Nat → Nat → List Char
  | 0, _ => []
  | width + 1, n => hexFixed width (n / 16) ++ [Nat.digitChar (n % 16)]

/-- The value of a hexadecimal digit, in either case. -/
def hexValue? (c : Char) : Option Nat :=
  if '0' ≤ c ∧ c ≤ '9' then some (c.toNat - 48)
  else if 'a' ≤ c ∧ c ≤ 'f' then some (c.toNat - 87)
  else if 'A' ≤ c ∧ c ≤ 'F' then some (c.toNat - 55)
  else none

/-- The number that hexadecimal digits denote; `none` if another character is among
them. -/
def readHex? (cs : List Char) : Option Nat :=
  cs.foldlM (fun n c => (hexValue? c).map fun d => 16 * n + d) 0

theorem hexValue?_digitChar {d : Nat} (h : d < 16) : hexValue? (Nat.digitChar d) = some d := by
  have all : ∀ e ∈ List.range 16, hexValue? (Nat.digitChar e) = some e := by decide
  exact all d (List.mem_range.mpr h)

@[simp] theorem length_hexFixed (width n : Nat) : (hexFixed width n).length = width := by
  induction width generalizing n with
  | zero => rfl
  | succ width ih => simp [hexFixed, ih]

/-- A number that fits is read back from its digits. -/
theorem readHex?_hexFixed {width n : Nat} (h : n < Nat.pow 16 width) :
    readHex? (hexFixed width n) = some n := by
  induction width generalizing n with
  | zero =>
    have : n = 0 := Nat.lt_one_iff.mp h
    subst this
    rfl
  | succ width ih =>
    have fits : n / 16 < Nat.pow 16 width := Nat.div_lt_of_lt_mul (by rwa [Nat.mul_comm])
    have front := ih fits
    unfold readHex? at front ⊢
    rw [hexFixed, List.foldlM_append, front]
    simp only [Option.bind_eq_bind, Option.bind_some, List.foldlM_cons, List.foldlM_nil,
      hexValue?_digitChar (Nat.mod_lt n (by omega : 16 > 0)), Option.map_some]
    show some (16 * (n / 16) + n % 16) = some n
    congr 1
    omega

end Text
end StreamCatalog
