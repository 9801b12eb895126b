import StreamCatalog.Decimal.Shortest
import StreamCatalog.Geometry.Basic

/-!
# The grid under a union

Regions are merged on a grid of whole numbers, where no comparison is ever
rounded.  The grid is laid over the bounding box of everything that takes part:
its origin is the middle of the box, and its unit is the power of two that puts
the longer half side of the box near `2 ^ 29`.  A box without extent has unit one.

Laying points on the grid moves them by at most half a unit.  This is where a
region that is thinner than the grid disappears, and it is why a merged region
has corners next to the given ones and not at them.
-/

namespace StreamCatalog
namespace Region

/-- A point of the grid. -/
structure Node where
  x : Int
  y : Int
  deriving DecidableEq, Repr, Inhabited

/-- The order of the sweep: from left to right, and upwards in a column. -/
def Node.before (p q : Node) : Bool := p.x < q.x || (p.x = q.x && p.y < q.y)

/-- Where the grid lies and how fine it is. -/
structure Grid where
  originX : Float
  originY : Float
  /-- Grid units in one unit of the plane. -/
  scale : Float
  /-- Units of the plane in one grid unit. -/
  unit : Float
  deriving Repr

/-- The binary logarithm of a positive finite number, to the nearest whole number.
The mantissa decides by its square, since a half could only come from the square
root of two. -/
def roundLog2 (v : Float) : Int :=
  let m := Decimal.Magnitude.ofBits v.toBits
  let k := m.mantissa.log2
  k + m.exponent + (if Nat.pow 2 (2 * k + 1) ≤ m.mantissa * m.mantissa then 1 else 0)

/-- A power of two as a floating-point number: zero below the least positive one,
infinite above the greatest. -/
def powerOfTwo (e : Int) : Float :=
  if e < -1074 then 0.0
  else if e < -1022 then Float.ofBits (1 <<< (e + 1074).toNat.toUInt64)
  else if e ≤ 1023 then Float.ofBits ((e + 1023).toNat.toUInt64 <<< 52)
  else 1.0 / 0.0

/-- The larger of two numbers. -/
def larger (a b : Float) : Float := if a < b then b else a

/-- The grid over all given points. -/
def Grid.over (ps : List Point) : Grid :=
  match ps with
  | [] => ⟨0.0, 0.0, 1.0, 1.0⟩
  | p :: rest =>
    let least (f : Point → Float) := rest.foldl (fun m q => if f q < m then f q else m) (f p)
    let greatest (f : Point → Float) := rest.foldl (fun m q => if m < f q then f q else m) (f p)
    let left := least (·.x)
    let low := least (·.y)
    let halfWidth := (greatest (·.x) - left) * 0.5
    let halfHeight := (greatest (·.y) - low) * 0.5
    let side := larger halfWidth halfHeight
    if side == 0.0 then ⟨left + halfWidth, low + halfHeight, 1.0, 1.0⟩
    else if side.isFinite then
      let e := 29 - roundLog2 side
      ⟨left + halfWidth, low + halfHeight, powerOfTwo e, powerOfTwo (-e)⟩
    else ⟨left + halfWidth, low + halfHeight, 0.0, 1.0 / 0.0⟩

/-- A number cut to a whole number of 32 bits; what is not a number is zero. -/
def whole (v : Float) : Int :=
  if v.isNaN then 0
  else if v < 0.0 then -(min 2147483648 (-v).toUInt64.toNat : Nat)
  else (min 2147483647 v.toUInt64.toNat : Nat)

/-- The nearest whole number, halves away from zero. -/
def nearestWhole (t : Float) : Int := if 0.0 ≤ t then whole (t + 0.5) else whole (t - 0.5)

/-- The grid point next to a point. -/
def Grid.node (g : Grid) (p : Point) : Node :=
  ⟨nearestWhole ((p.x - g.originX) * g.scale), nearestWhole ((p.y - g.originY) * g.scale)⟩

/-- The place of a grid point in the plane. -/
def Grid.point (g : Grid) (n : Node) : Point :=
  ⟨Float.ofInt n.x * g.unit + g.originX, Float.ofInt n.y * g.unit + g.originY⟩

end Region
end StreamCatalog
