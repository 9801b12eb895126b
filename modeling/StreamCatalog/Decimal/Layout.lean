import StreamCatalog.Decimal.Digits
import StreamCatalog.Decimal.Shortest

/-!
# How numbers are laid out

The shortest decimal settles which digits are written; a `Layout` settles how.
Geometry text and messages use `Layout.plain`, which never has an exponent and
writes whole numbers without a point.  Builder polygons and the configured
tolerance use `Layout.marked`, which keeps a `.0` on whole numbers and switches
to an exponent for very large and very small magnitudes.
-/

namespace StreamCatalog
namespace Decimal

/-- The two decisions that the layouts differ in. -/
structure Layout where
  /-- Whole numbers end in `.0`. -/
  pointZero : Bool
  /-- Which decimal exponents of the leading digit are written positionally. -/
  positional : Int → Bool

/-- Never an exponent, no point on whole numbers. -/
def Layout.plain : Layout where
  pointZero := false
  positional := fun _ => true

/-- A point in every number; an exponent from `1e16` up and below `1e-4`. -/
def Layout.marked : Layout where
  pointZero := true
  positional := fun e => decide (-4 ≤ e ∧ e < 16)

/-- A decimal in positional form: the point stands after, inside or before the
digits. -/
def Layout.writePositional (l : Layout) (d : Numeral) : List Char :=
  let ds := digits d.coefficient
  match d.exponent with
  | .ofNat e => ds ++ List.replicate e '0' ++ (if l.pointZero then ['.', '0'] else [])
  | .negSucc e =>
    let fraction := e + 1
    if fraction < ds.length then
      ds.take (ds.length - fraction) ++ '.' :: ds.drop (ds.length - fraction)
    else
      '0' :: '.' :: (List.replicate (fraction - ds.length) '0' ++ ds)

/-- A decimal with one digit before the point and an exponent. -/
def writeScientific (d : Numeral) (leading : Int) : List Char :=
  let mantissa :=
    match digits d.coefficient with
    | [] => []
    | [c] => [c]
    | c :: cs => c :: '.' :: cs
  mantissa ++ 'e' :: (if leading < 0 then ['-'] else []) ++ digits leading.natAbs

/-- The decimal exponent of the leading digit. -/
def Numeral.leading (d : Numeral) : Int :=
  d.exponent + (digits d.coefficient).length - 1

/-- Lay out a decimal without its sign. -/
def Layout.writeNumeral (l : Layout) (d : Numeral) : List Char :=
  if l.positional d.leading then l.writePositional d else writeScientific d d.leading

/-- The text of a floating-point number.  The sign of zero is kept. -/
def Layout.write (l : Layout) (x : Float) : List Char :=
  if x.isNaN then ['N', 'a', 'N']
  else
    let sign := if x.toBits >>> 63 = 1 then ['-'] else []
    if x.isInf then sign ++ ['i', 'n', 'f']
    else
      let m := Magnitude.ofBits x.toBits
      sign ++ (if m.mantissa = 0 then l.writePositional ⟨0, 0⟩ else l.writeNumeral m.shortest)

/-- The plain text of a number, as geometry text and messages show it. -/
def plain (x : Float) : String := String.ofList (Layout.plain.write x)

/-- The marked text of a number. -/
def marked (x : Float) : String := String.ofList (Layout.marked.write x)

end Decimal
end StreamCatalog
