import StreamCatalog.Proofs.Footprint.Coverage

/-!
# The areas among the members of a collection

Only polygons with corners have a part in the boxes that a collection is reduced to.  A member
that consists of polygons, at least one of them with corners, is an area; the boxes are known from
the areas (`boxes_eq_of_areas`), and whatever is no area leaves the leaves it had
(`leaves_toEnvelopes_collection`).  A collection is no area, even if it holds nothing else.
-/

namespace StreamCatalog

variable {g : Geometry} {members others : List Geometry}

namespace Geometry

/-- Does a geometry consist of polygons, one of them with corners? -/
def isArea (g : Geometry) : Bool := g.isPolygonal && g.hasPoints

theorem isArea_of_not_isPolygonal (other : g.isPolygonal = false) : g.isArea = false := by
  rw [isArea, other, Bool.false_and]

/-- An area is a leaf. -/
theorem leaves_of_isArea (area : g.isArea = true) : g.leaves = [g] := by
  obtain ⟨polygonal, corners⟩ := (Bool.and_eq_true ..).mp area
  cases g with
  | polygon | multiPolygon => exact if_pos corners
  | rect | triangle => rfl
  | point | line | lineString | multiPoint | multiLineString | collection =>
    exact absurd polygonal Bool.false_ne_true

/-- Polygons without corners have no leaves. -/
theorem leaves_of_not_isArea (polygonal : g.isPolygonal = true) (none : g.isArea = false) :
    g.leaves = [] := by
  rw [isArea, polygonal, Bool.true_and] at none
  cases g with
  | polygon | multiPolygon => exact if_neg (Bool.eq_false_iff.mp none)
  | rect | triangle => exact absurd none.symm Bool.false_ne_true
  | point | line | lineString | multiPoint | multiLineString | collection =>
    exact absurd polygonal Bool.false_ne_true

theorem leavesOf_filter_isPolygonal (members : List Geometry) :
    leavesOf (members.filter (!·.isPolygonal)) = leavesOf (members.filter (!·.isArea)) := by
  induction members with
  | nil => rfl
  | cons g members ih =>
    rw [List.filter_cons, List.filter_cons]
    cases polygonal : g.isPolygonal with
    | false =>
      rw [isArea_of_not_isPolygonal polygonal]
      exact congrArg (g.leaves ++ ·) ih
    | true =>
      cases area : g.isArea with
      | true => exact ih
      | false => exact ih.trans (congrArg (· ++ _) (leaves_of_not_isArea polygonal area)).symm

/-- A list without areas has the same leaves as those members that are no areas. -/
theorem leavesOf_filter_of_no_area {members : List Geometry} (none : members.filter (·.isArea) = []) :
    leavesOf (members.filter (!·.isArea)) = leavesOf members := by
  rw [List.filter_eq_self.mpr]
  intro g member
  rw [Bool.not_eq_true', ← Bool.not_eq_true]
  exact List.filter_eq_nil_iff.mp none g member

/-- The areas of a list and the leaves of its other members are all of its leaves. -/
theorem perm_leavesOf (members : List Geometry) :
    (members.filter (·.isArea) ++ leavesOf (members.filter (!·.isArea))).Perm
      (leavesOf members) := by
  induction members with
  | nil => rfl
  | cons g members ih =>
    rw [leavesOf]
    cases area : g.isArea with
    | true =>
      simp only [List.filter_cons, area, Bool.not_true, Bool.false_eq_true, if_false, if_true]
      rw [leaves_of_isArea area]
      exact ih.cons g
    | false =>
      simp only [List.filter_cons, area, Bool.not_false, Bool.false_eq_true, if_false, if_true,
        leavesOf]
      exact (List.perm_append_comm_assoc ..).trans (ih.append_left g.leaves)

end Geometry

namespace Footprint

/-- Only polygons with corners have a part in the boxes. -/
theorem envelopes_eq_of_corners {ps qs : List Polygon}
    (same : (ps.filter fun p => !p.exterior.isEmpty) = qs.filter fun p => !p.exterior.isEmpty) :
    envelopes ps = envelopes qs := by
  rw [envelopes, same, envelopes]

theorem polygons_of_not_isArea (none : g.isArea = false) :
    ((g.polygons?.getD []).filter fun p => !p.exterior.isEmpty) = [] := by
  cases g with
  | polygon p =>
    have empty : ¬ (!p.exterior.isEmpty) = true := Bool.eq_false_iff.mp none
    exact List.filter_cons_of_neg empty
  | multiPolygon ps =>
    refine List.filter_eq_nil_iff.mpr fun p member corners => ?_
    exact Bool.eq_false_iff.mp none (List.any_eq_true.mpr ⟨p, member, corners⟩)
  | rect | triangle => exact absurd none.symm Bool.false_ne_true
  | point | line | lineString | multiPoint | multiLineString | collection => rfl

theorem polygonsOf_filter_isArea (members : List Geometry) :
    ((polygonsOf (members.filter (·.isArea))).filter fun p => !p.exterior.isEmpty) =
      (polygonsOf members).filter fun p => !p.exterior.isEmpty := by
  induction members with
  | nil => rfl
  | cons g members ih =>
    rw [polygonsOf, polygonsOf, List.flatMap_cons, List.filter_append, List.filter_cons]
    cases area : g.isArea with
    | true =>
      rw [if_pos rfl, List.flatMap_cons, List.filter_append]
      exact congrArg _ ih
    | false =>
      rw [polygons_of_not_isArea area, List.nil_append]
      exact ih

/-- The boxes are known from the areas. -/
theorem boxes_eq_of_areas (same : members.filter (·.isArea) = others.filter (·.isArea)) :
    boxes members = boxes others := by
  rw [boxes, envelopes_eq_of_corners (polygonsOf_filter_isArea members).symm, same,
    envelopes_eq_of_corners (polygonsOf_filter_isArea others), boxes]

theorem boxes_filter_isArea (members : List Geometry) :
    boxes (members.filter (·.isArea)) = boxes members := by
  refine boxes_eq_of_areas ?_
  rw [List.filter_filter]
  simp only [Bool.and_self]

/-- What is left of a collection: the leaves of the members that are no areas, then the boxes. -/
theorem leaves_toEnvelopes_collection (members : List Geometry) :
    (toEnvelopes (.collection members)).leaves =
      Geometry.leavesOf (members.filter (!·.isArea)) ++ boxes members := by
  have leaves : Geometry.leavesOf (boxes members) = boxes members := by
    rw [boxes, Geometry.leavesOf_eq_flatMap, List.flatMap_map]
    simp only [Geometry.leaves_box]
    exact List.flatMap_pure_eq_map ..
  rw [toEnvelopes_collection, Geometry.leaves, Geometry.leavesOf_append,
    Geometry.leavesOf_filter_isPolygonal, leaves]

end Footprint
end StreamCatalog
