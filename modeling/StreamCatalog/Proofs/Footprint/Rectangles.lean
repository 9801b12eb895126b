import StreamCatalog.Footprint.Envelopes
import StreamCatalog.Proofs.Geometry.Extents

/-!
# The members of a multipolygon as rectangles

The polygons of a collection are merged, but those of a multipolygon are kept apart.  Each of
them becomes the least box around its outer ring, in its own place, and one whose outer ring is
empty stays as it is and still takes its place (`Boxing`).

## Nothing is left for a second time

A rectangle that was made is the least box around its own corners (`Box.Proper.box?_polygon`), so
a multipolygon that has been reduced is not changed by being reduced again (`boxed_boxed`).  This
holds for all coordinates: where a side of a box is no number, its outline is written with one
corner more, which is read back without changing the box.  Only collections are excluded.  Their
rectangles may overlap although the polygons did not, and would be merged the second time.
-/

namespace StreamCatalog
namespace Footprint

variable {p : Polygon}

/-- What one polygon of several becomes: a rectangle without holes, the least one around the outer
ring, or the polygon itself if that ring is empty. -/
structure Boxing (p q : Polygon) : Prop where
  empty : p.exterior = [] → q = p
  rectangle : p.exterior ≠ [] → ∃ b : Box, b.Fits p.exterior ∧
    q = ⟨[⟨b.maxX, b.minY⟩, ⟨b.maxX, b.maxY⟩, ⟨b.minX, b.maxY⟩, ⟨b.minX, b.minY⟩,
      ⟨b.maxX, b.minY⟩], []⟩

theorem boxed_of_empty (empty : p.exterior = []) : boxed p = p := by
  rw [boxed, Polygon.box?, empty]
  rfl

theorem boxed_of_box? {b : Box} (found : p.box? = some b) : boxed p = b.polygon := by
  rw [boxed, found]

theorem boxing_boxed (numbers : ∀ q ∈ p.exterior, q.IsNumeric) : Boxing p (boxed p) := by
  refine ⟨boxed_of_empty, fun corners => ?_⟩
  obtain ⟨b, found⟩ : ∃ b, p.box? = some b := Box.exists_around? corners
  have orderly : b.Orderly := (Box.around?_spec numbers found).1
  refine ⟨b, Box.fits_of_around? numbers found, ?_⟩
  rw [boxed_of_box? found, orderly.polygon_eq]
  rfl

/-- The box of a box is that box, whatever its coordinates are. -/
theorem boxed_boxed (p : Polygon) : boxed (boxed p) = boxed p := by
  by_cases empty : p.exterior = []
  · rw [boxed_of_empty empty, boxed_of_empty empty]
  · obtain ⟨b, found⟩ : ∃ b, p.box? = some b := Box.exists_around? empty
    have again : b.polygon.box? = some b := (Box.proper_of_around? found).box?_polygon
    rw [boxed_of_box? found, boxed_of_box? again]

theorem toEnvelopes_toEnvelopes {g : Geometry} (plain : ∀ members, g ≠ .collection members) :
    toEnvelopes (toEnvelopes g) = toEnvelopes g := by
  cases g with
  | multiPolygon ps =>
    rw [toEnvelopes, toEnvelopes, List.map_map]
    exact congrArg Geometry.multiPolygon (List.map_congr_left fun p _ => boxed_boxed p)
  | collection members => exact absurd rfl (plain members)
  | point | line | lineString | polygon | multiPoint | multiLineString | rect | triangle => rfl

/-- **A multipolygon becomes one of rectangles**, as many and in the same order, each of them the
least one around a member's outer ring; members without an outer ring stay.  And whatever is no
collection is not changed any more when it is reduced a second time. -/
theorem rectangles_of_multiPolygon :
    (∀ ps : List Polygon, (∀ p ∈ ps, ∀ q ∈ p.exterior, q.IsNumeric) →
      ∃ qs, toEnvelopes (.multiPolygon ps) = .multiPolygon qs ∧ List.Forall₂ Boxing ps qs) ∧
    ∀ g : Geometry, (∀ members, g ≠ .collection members) →
      toEnvelopes (toEnvelopes g) = toEnvelopes g := by
  refine ⟨fun ps numbers => ⟨ps.map boxed, rfl, ?_⟩, fun g => toEnvelopes_toEnvelopes⟩
  refine List.forall₂_map_right_iff.mpr (List.forall₂_same.mpr fun p member => ?_)
  exact boxing_boxed (numbers p member)

/-- An island, a member with a hole but without an outer ring, and a shoal that has no width and
both zeros among its coordinates. -/
def islands : List Polygon :=
  [⟨[⟨2, 5⟩, ⟨7, 1⟩, ⟨4, 9⟩, ⟨2, 5⟩], []⟩, ⟨[], [[⟨1, 1⟩, ⟨2, 2⟩, ⟨1, 1⟩]]⟩,
    ⟨[⟨0, 3⟩, ⟨-0.0, -2⟩, ⟨0, 3⟩], []⟩]

/-- An island with a corner that nobody has measured. -/
def unsurveyed : Polygon := ⟨[⟨Float.nan, 5⟩, ⟨7, 1⟩, ⟨4, 9⟩, ⟨Float.nan, 5⟩], []⟩

theorem rectangles_of_multiPolygon_islands :
    (∀ p ∈ islands, ∀ q ∈ p.exterior, q.IsNumeric) ∧
      (∃ qs, toEnvelopes (.multiPolygon islands) = .multiPolygon qs ∧
        List.Forall₂ Boxing islands qs) ∧
      (∀ members, Geometry.multiPolygon (unsurveyed :: islands) ≠ .collection members) ∧
      toEnvelopes (toEnvelopes (.multiPolygon (unsurveyed :: islands))) =
        toEnvelopes (.multiPolygon (unsurveyed :: islands)) := by
  have numbers : ∀ p ∈ islands, ∀ q ∈ p.exterior, q.IsNumeric := by decide
  have plain : ∀ members, Geometry.multiPolygon (unsurveyed :: islands) ≠ .collection members :=
    nofun
  exact ⟨numbers, rectangles_of_multiPolygon.1 islands numbers, plain,
    rectangles_of_multiPolygon.2 _ plain⟩

end Footprint
end StreamCatalog
