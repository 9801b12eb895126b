/-!
# Plane geometry

Footprints are plane geometries of ten kinds.  A polygon's rings are lists of
points; `Polygon.closing` repeats the first point of every ring that does not
end where it starts, and all polygons that are made go through it, whether they are
read from text or stand for a box or a triangle.

`leaves` takes collections apart, depth first, and drops what holds no points.
Points, segments, boxes and triangles always hold points.
-/

namespace StreamCatalog

/-- A point of the plane. -/
structure Point where
  x : Float
  y : Float
  deriving DecidableEq, Repr, Inhabited

/-- Do two points have equal coordinates?  A coordinate that is not a number
equals nothing, and the two zeros are equal. -/
def Point.meets (p q : Point) : Bool := p.x == q.x && p.y == q.y

/-- Does a list of points end where it starts?  The empty list does. -/
def isClosed (ps : List Point) : Bool :=
  match ps.head?, ps.getLast? with
  | some p, some q => p.meets q
  | _, _ => true

/-- Repeat the first point at the end unless the list is closed already. -/
def closeRing (ps : List Point) : List Point :=
  if isClosed ps then ps else ps ++ ps.head?.toList

theorem closeRing_of_isClosed {ps : List Point} (closed : isClosed ps = true) :
    closeRing ps = ps := if_pos closed

/-- A list is still there when it is closed. -/
theorem prefix_closeRing (ps : List Point) : ps <+: closeRing ps := by
  unfold closeRing
  split
  · exact List.prefix_rfl
  · exact List.prefix_append ps _

/-- A polygon: an outer ring and holes. -/
structure Polygon where
  exterior : List Point
  interiors : List (List Point)
  deriving DecidableEq, Repr

/-- The polygon with these rings, each of them closed. -/
def Polygon.closing (exterior : List Point) (interiors : List (List Point)) : Polygon :=
  ⟨closeRing exterior, interiors.map closeRing⟩

/-- A box with sides parallel to the axes. -/
structure Box where
  minX : Float
  minY : Float
  maxX : Float
  maxY : Float
  deriving DecidableEq, Repr

/-- Two numbers, the smaller first. -/
def ordered (a b : Float) : Float × Float := if a < b then (a, b) else (b, a)

/-- The box with two opposite corners. -/
def Box.ofCorners (p q : Point) : Box :=
  let (minX, maxX) := ordered p.x q.x
  let (minY, maxY) := ordered p.y q.y
  ⟨minX, minY, maxX, maxY⟩

/-- The outline of a box: from the lower right corner counterclockwise, closed. -/
def Box.ring (b : Box) : List Point :=
  [⟨b.maxX, b.minY⟩, ⟨b.maxX, b.maxY⟩, ⟨b.minX, b.maxY⟩, ⟨b.minX, b.minY⟩, ⟨b.maxX, b.minY⟩]

/-- A box as a polygon without holes. -/
def Box.polygon (b : Box) : Polygon := .closing b.ring []

/-- A triangle. -/
structure Triangle where
  a : Point
  b : Point
  c : Point
  deriving DecidableEq, Repr

/-- The triangle with three corners, reversed if they turn clockwise. -/
def Triangle.ofCorners (a b c : Point) : Triangle :=
  let turn := (b.x - a.x) * (c.y - b.y) - (b.y - a.y) * (c.x - b.x)
  if turn < 0 then ⟨c, b, a⟩ else ⟨a, b, c⟩

/-- The outline of a triangle, closed. -/
def Triangle.ring (t : Triangle) : List Point := [t.a, t.b, t.c, t.a]

/-- A triangle as a polygon without holes. -/
def Triangle.polygon (t : Triangle) : Polygon := .closing t.ring []

/-- A geometry of one of ten kinds. -/
inductive Geometry where
  | point (p : Point)
  | line (a b : Point)
  | lineString (ps : List Point)
  | polygon (p : Polygon)
  | multiPoint (ps : List Point)
  | multiLineString (lines : List (List Point))
  | multiPolygon (ps : List Polygon)
  | collection (members : List Geometry)
  | rect (b : Box)
  | triangle (t : Triangle)
  deriving Repr

namespace Geometry

/-- The name of a geometry's kind. -/
def kind : Geometry → String
  | .point _ => "Point"
  | .line _ _ => "Line"
  | .lineString _ => "LineString"
  | .polygon _ => "Polygon"
  | .multiPoint _ => "MultiPoint"
  | .multiLineString _ => "MultiLineString"
  | .multiPolygon _ => "MultiPolygon"
  | .collection _ => "GeometryCollection"
  | .rect _ => "Rect"
  | .triangle _ => "Triangle"

/-- Does a geometry that is no collection hold points?  A polygon does if its
outer ring does, several polygons if one of them does. -/
def hasPoints : Geometry → Bool
  | .lineString ps => !ps.isEmpty
  | .polygon p => !p.exterior.isEmpty
  | .multiPoint ps => !ps.isEmpty
  | .multiLineString lines => lines.any fun ps => !ps.isEmpty
  | .multiPolygon ps => ps.any fun p => !p.exterior.isEmpty
  | _ => true

mutual

/-- The members of a geometry that hold points, collections taken apart. -/
def leaves : Geometry → List Geometry
  | .collection members => leavesOf members
  | g => if g.hasPoints then [g] else []

/-- The leaves of several geometries, in order. -/
def leavesOf : List Geometry → List Geometry
  | [] => []
  | g :: gs => leaves g ++ leavesOf gs

end

/-- A box is a leaf also as a polygon. -/
theorem leaves_box (b : Box) : (polygon b.polygon).leaves = [polygon b.polygon] := by
  refine if_pos ?_
  show (!(closeRing b.ring).isEmpty) = true
  unfold closeRing
  split <;> rfl

/-- The polygons that a geometry consists of, if it is a polygonal one. -/
def polygons? : Geometry → Option (List Polygon)
  | .polygon p => some [p]
  | .multiPolygon ps => some ps
  | .rect b => some [b.polygon]
  | .triangle t => some [t.polygon]
  | _ => none

/-- A polygon, several polygons, a box or a triangle. -/
def isPolygonal (g : Geometry) : Bool := g.polygons?.isSome

theorem leavesOf_eq_flatMap (gs : List Geometry) : leavesOf gs = gs.flatMap leaves := by
  induction gs with
  | nil => simp [leavesOf]
  | cons g gs ih => simp [leavesOf, ih]

theorem leavesOf_append (gs hs : List Geometry) :
    leavesOf (gs ++ hs) = leavesOf gs ++ leavesOf hs := by
  simp [leavesOf_eq_flatMap]

end Geometry
end StreamCatalog
