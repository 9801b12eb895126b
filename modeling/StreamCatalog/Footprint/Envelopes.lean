import StreamCatalog.Geometry.Measure
import StreamCatalog.Region.Basic

/-!
# Reducing footprints to envelopes

A stream reports one small polygon per frame.  Replacing every connected cluster of
them by its bounding box keeps the number of stored corners proportional to the
number of places and not to the number of frames.

In a collection the polygonal members are merged, and each part of the merged
region gives one box.  A polygon without area would vanish in the merging, so it
keeps a box of its own, unless a box that is there already covers it.  A
multipolygon keeps its members apart; each is replaced by its own box.  Everything
else stays as it is.
-/

namespace StreamCatalog
namespace Footprint

/-- The bounding box of a polygon as a polygon; one without corners stays. -/
def boxed (p : Polygon) : Polygon :=
  match p.box? with
  | some b => b.polygon
  | none => p

/-- The union of polygons, one after the other. -/
def merged (ps : List Polygon) : Region :=
  ps.foldl (fun region p => region.union (.ofPolygon p)) .empty

/-- The boxes around the parts of a region. -/
def partBoxes (r : Region) : List Box := r.outer.filterMap Box.around?

/-- Add the boxes that no box before them covers. -/
def addUncovered (boxes added : List Box) : List Box :=
  added.foldl (fun out b => if out.any (·.covers b) then out else out ++ [b]) boxes

/-- The boxes of a collection's polygons: those of the merged parts, then those of
the polygons without area that are not covered. -/
def envelopes (ps : List Polygon) : List Box :=
  let (areal, flat) := (ps.filter fun p => !p.exterior.isEmpty).partition fun p => 0.0 < p.area
  addUncovered (partBoxes (merged areal)) (flat.filterMap Polygon.box?)

/-- The polygons among the members of a collection, several polygons taken apart. -/
def polygonsOf (members : List Geometry) : List Polygon :=
  members.flatMap fun g => g.polygons?.getD []

/-- Reduce a footprint to envelopes. -/
def toEnvelopes : Geometry → Geometry
  | .multiPolygon ps => .multiPolygon (ps.map boxed)
  | .collection members =>
    if members.any (·.isPolygonal) then
      .collection (members.filter (!·.isPolygonal) ++
        (envelopes (polygonsOf members)).map fun b => .polygon b.polygon)
    else .collection members
  | g => g

end Footprint
end StreamCatalog
