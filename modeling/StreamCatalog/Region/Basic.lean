import StreamCatalog.Geometry.Basic
import StreamCatalog.Region.Boundary

/-!
# Regions and their union

A region is given by rings, and a point is inside if it is inside an odd number of
them.  The union of two regions is again a list of rings: the outer rings of its
connected parts, which turn left, and its holes, which turn right.  Parts come in
the order of their leftmost points, the lower one first in a column.

Two regions that share a stretch of boundary are one part of the union; regions
that touch in a corner only are two.
-/

namespace StreamCatalog

/-- A region bounded by rings, each without repetition of its first point. -/
structure Region where
  /-- The rings around the connected parts. -/
  outer : List (List Point)
  holes : List (List Point)
  deriving Repr

namespace Region

/-- The region without points. -/
def empty : Region := ⟨[], []⟩

/-- The region of a polygon. -/
def ofPolygon (p : Polygon) : Region := ⟨[p.exterior.dropLast], p.interiors.map List.dropLast⟩

/-- All rings of a region. -/
def allRings (r : Region) : List (List Point) := r.outer ++ r.holes

/-- The edges of a region on a grid. -/
def edges (g : Grid) (r : Region) (first second : Int) : List Edge :=
  r.allRings.flatMap fun ring => ringEdges first second (straighten (ring.map g.node))

/-- The union of two regions, on the grid over both. -/
def union (r s : Region) : Region :=
  let g := Grid.over (r.allRings.flatten ++ s.allRings.flatten)
  let es := separate (gather (r.edges g 1 0 ++ s.edges g 0 1))
  let found := (rings (boundary es)).map fun ring =>
    { ring with corners := straighten ring.corners }
  let (holes, outer) := (found.filter (!·.corners.isEmpty)).partition (·.isHole)
  ⟨outer.map (·.corners.map g.point), holes.map (·.corners.map g.point)⟩

end Region
end StreamCatalog
