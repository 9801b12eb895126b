import StreamCatalog.Decimal.Digits

/-!
# Reading a floating-point number

A number is an optional sign followed by `inf`, `infinity` or `nan` in any case,
or by digits with an optional point and an optional exponent.  At least one digit
stands beside the point; nothing else may precede, follow or interrupt.

The exact decimal is rounded once, to the nearest number with halfway cases to
even.  Decimals far outside the range are settled before any power of ten is
computed, so the length of the exponent does not matter.
-/

namespace StreamCatalog
namespace Decimal

/-- The sign in front of a number, and what follows it. -/
def splitSign : List Char → Bool × List Char
  | '-' :: cs => (true, cs)
  | '+' :: cs => (false, cs)
  | cs => (false, cs)

/-- An exponent part: nothing, or `e` with an optional sign and digits up to the
end. -/
def exponent? : List Char → Option Int
  | [] => some 0
  | c :: cs =>
    if c = 'e' ∨ c = 'E' then
      let (negative, ds) := splitSign cs
      (value? ds).map fun n => if negative then -(n : Int) else n
    else none

/-- The number nearest to `digits * 10 ^ exponent`. -/
def nearest (digits : Nat) (exponent : Int) : Float :=
  if digits = 0 then 0.0
  else
    let leading := exponent + (digits.log2 : Int) * 30103 / 100000
    if leading > 320 then 1.0 / 0.0
    else if leading < -360 then 0.0
    else Float.ofScientific digits (exponent < 0) exponent.natAbs

/-- An unsigned number of digits, point and exponent. -/
def unsigned? (cs : List Char) : Option Float :=
  let whole := cs.takeWhile isDigit
  let rest := cs.dropWhile isDigit
  let (fraction, tail) :=
    match rest with
    | '.' :: more => (more.takeWhile isDigit, more.dropWhile isDigit)
    | other => ([], other)
  if whole.isEmpty && fraction.isEmpty then none
  else do
    let n ← extend 0 (whole ++ fraction)
    let e ← exponent? tail
    some (nearest n (e - fraction.length))

/-- The named values, in any ASCII case. -/
def named? (cs : List Char) : Option Float :=
  match cs.map Char.toLower with
  | ['i', 'n', 'f'] => some (1.0 / 0.0)
  | ['i', 'n', 'f', 'i', 'n', 'i', 't', 'y'] => some (1.0 / 0.0)
  | ['n', 'a', 'n'] => some (0.0 / 0.0)
  | _ => none

/-- The number that a text denotes. -/
def read? (cs : List Char) : Option Float :=
  let (negative, body) := splitSign cs
  ((named? body).orElse fun _ => unsigned? body).map fun x => if negative then -x else x

end Decimal
end StreamCatalog
