import StreamCatalog.Geometry.Basic

/-!
# Bounding boxes and areas

Both are computed in floating point, in a fixed order of operations.  The area of
a ring is taken relative to its first point, which keeps the products small; a
ring that is not closed, or has fewer than three points, has no area.
-/

namespace StreamCatalog

/-- Widen a range by a number.  A number that compares with neither end leaves
the range as it is. -/
def widen (range : Float × Float) (v : Float) : Float × Float :=
  if range.2 < v then (range.1, v) else if v < range.1 then (v, range.2) else range

/-- The least box around a list of points. -/
def Box.around? : List Point → Option Box
  | [] => none
  | p :: ps =>
    let xs := ps.foldl (fun range q => widen range q.x) (p.x, p.x)
    let ys := ps.foldl (fun range q => widen range q.y) (p.y, p.y)
    some (Box.ofCorners ⟨xs.1, ys.1⟩ ⟨xs.2, ys.2⟩)

/-- Does the outer box contain the inner one, sides included? -/
def Box.covers (outer inner : Box) : Bool :=
  outer.minX ≤ inner.minX && outer.minY ≤ inner.minY &&
    inner.maxX ≤ outer.maxX && inner.maxY ≤ outer.maxY

/-- The determinant of two vectors. -/
def Point.cross (p q : Point) : Float := p.x * q.y - p.y * q.x

/-- A point seen from another one. -/
def Point.relativeTo (p origin : Point) : Point := ⟨p.x - origin.x, p.y - origin.y⟩

/-- The sum of a value over all consecutive pairs, added up from the front. -/
def sumPairs (f : Point → Point → Float) : Float → List Point → Float
  | total, p :: q :: ps => sumPairs f (total + f p q) (q :: ps)
  | total, _ => total

/-- The signed area of a closed ring, positive if it turns left. -/
def ringArea (ps : List Point) : Float :=
  match ps with
  | origin :: _ :: _ :: _ =>
    if isClosed ps then
      sumPairs (fun p q => (p.relativeTo origin).cross (q.relativeTo origin)) 0.0 ps / 2.0
    else 0.0
  | _ => 0.0

/-- The area of a polygon: that of the outer ring without that of the holes, all
taken without sign. -/
def Polygon.area (p : Polygon) : Float :=
  (p.interiors.foldl (fun total ring => total - (ringArea ring).abs) (ringArea p.exterior).abs).abs

/-- The bounding box of a polygon, if its outer ring has points. -/
def Polygon.box? (p : Polygon) : Option Box := Box.around? p.exterior

end StreamCatalog
