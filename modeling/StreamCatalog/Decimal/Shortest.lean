/-!
# The shortest decimal of a floating-point number

A binary number is written with the fewest decimal digits that still name it: of
all decimals that round to the number, those with the least number of digits are
candidates, and of these the nearest is taken.  Where two candidates are equally
near, the larger one is taken.

## Exactness

The search needs no floating-point arithmetic.  A finite number is
`mantissa * 2 ^ exponent`, the decimals that round to it form an interval whose
ends lie halfway to its two neighbours (`Magnitude.names`), and a decimal is
compared with an end by multiplying out over the natural numbers.  The ends
belong to the interval exactly when the mantissa is even, because halfway cases
round to even.  Below a power of two the neighbour is only half as far away
(`halfBelow`).

If a grid of decimals has a point in the interval, then so does one of the two
grid points next to the number itself; so two tests for each number of digits
are enough, and seventeen digits always suffice.  Should no grid up to
seventeen digits succeed, the exact value is written rather than a guess.
-/

namespace StreamCatalog
namespace Decimal

/-- A finite magnitude `mantissa * 2 ^ exponent`. -/
structure Magnitude where
  mantissa : Nat
  exponent : Int
  /-- The gap to the neighbour below is half the gap to the neighbour above. -/
  halfBelow : Bool
  deriving DecidableEq, Repr

/-- The magnitude in the bits of a finite number; the sign bit is ignored. -/
def Magnitude.ofBits (bits : UInt64) : Magnitude :=
  let e := ((bits >>> 52) &&& 0x7FF).toNat
  let f := (bits &&& 0xFFFFFFFFFFFFF).toNat
  if e = 0 then ⟨f, -1074, false⟩ else ⟨4503599627370496 + f, (e : Int) - 1075, f = 0 && 1 < e⟩

/-- The decimal `coefficient * 10 ^ exponent`. -/
structure Numeral where
  coefficient : Nat
  exponent : Int
  deriving DecidableEq, Repr

/-- Compare `coefficient * 10 ^ exponent` with `n * 2 ^ j`, exactly. -/
def Numeral.compareBinary (d : Numeral) (n : Nat) (j : Int) : Ordering :=
  compare (d.coefficient * Nat.pow 10 d.exponent.toNat * Nat.pow 2 (-j).toNat)
    (n * Nat.pow 2 j.toNat * Nat.pow 10 (-d.exponent).toNat)

/-- Does the decimal round to this number?  The ends of the interval are counted
in quarters of the last place. -/
def Magnitude.names (x : Magnitude) (d : Numeral) : Bool :=
  let low := if x.halfBelow then 4 * x.mantissa - 1 else 4 * x.mantissa - 2
  let high := 4 * x.mantissa + 2
  let closed := x.mantissa % 2 = 0
  let atLow := d.compareBinary low (x.exponent - 2)
  let atHigh := d.compareBinary high (x.exponent - 2)
  (atLow = .gt ∨ closed ∧ atLow = .eq) ∧ (atHigh = .lt ∨ closed ∧ atHigh = .eq)

/-- The whole number of units `10 ^ e` in a magnitude. -/
def Magnitude.units (x : Magnitude) (e : Int) : Nat :=
  (x.mantissa * Nat.pow 2 x.exponent.toNat * Nat.pow 10 (-e).toNat) /
    (Nat.pow 2 (-x.exponent).toNat * Nat.pow 10 e.toNat)

/-- The least `k` with the magnitude below `10 ^ k`, for a positive magnitude.
The binary logarithm gives it up to two places, and comparing settles it. -/
def Magnitude.places (x : Magnitude) : Int :=
  let k := (((x.mantissa.log2 : Int) + x.exponent) * 30103).fdiv 100000
  if Numeral.compareBinary ⟨1, k⟩ x.mantissa x.exponent = .gt then k
  else if Numeral.compareBinary ⟨1, k + 1⟩ x.mantissa x.exponent = .gt then k + 1
  else k + 2

/-- The nearer of the two grid points next to the number among those that name
it; the upper one on a tie. -/
def Magnitude.onGrid (x : Magnitude) (e : Int) : Option Numeral :=
  let below : Numeral := ⟨x.units e, e⟩
  let above : Numeral := ⟨x.units e + 1, e⟩
  match x.names below, x.names above with
  | true, true =>
    let middle : Numeral := ⟨2 * x.units e + 1, e⟩
    some (if middle.compareBinary x.mantissa (x.exponent + 1) = .gt then below else above)
  | true, false => some below
  | false, true => some above
  | false, false => none

/-- Drop trailing zeros of a decimal. -/
def Numeral.trim (d : Numeral) : Numeral :=
  if h : 0 < d.coefficient ∧ d.coefficient % 10 = 0 then
    Numeral.trim ⟨d.coefficient / 10, d.exponent + 1⟩
  else d
termination_by d.coefficient
decreasing_by omega

/-- The exact decimal value of a magnitude. -/
def Magnitude.exact (x : Magnitude) : Numeral :=
  match x.exponent with
  | .ofNat e => ⟨x.mantissa * Nat.pow 2 e, 0⟩
  | .negSucc e => ⟨x.mantissa * Nat.pow 5 (e + 1), -(e + 1)⟩

/-- The shortest decimal that names a positive magnitude, without trailing
zeros. -/
def Magnitude.shortest (x : Magnitude) : Numeral :=
  let k := x.places
  (((List.range 17).findSome? fun n : Nat => x.onGrid (k - (n + 1))).getD x.exact).trim

end Decimal
end StreamCatalog
