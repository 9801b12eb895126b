import StreamCatalog.Proofs.Footprint.Coverage
import StreamCatalog.Proofs.Region.Enclosure
import StreamCatalog.Proofs.Wkt.Grammar

/-!
# Footprints that vanish

A polygon either has area, and then it is merged, or it keeps a box of its own.  Whether it has
area is decided by its exact corners, and whether anything is left of it after merging by the
grid under the union.  Between the two a footprint can get lost: it is reduced to no envelope
at all exactly if all of its polygons have area and their union has no part
(`exists_envelope_iff`).

This happens to every polygon that folds flat on its own grid, and to any number of polygons if
the last one and what was merged before it fold flat on the grid over both.  A strip that is
four thousand million times as long as it is wide is an example (`not_forall_exists_envelope`).
-/

namespace StreamCatalog
namespace Footprint

open Region

/-! ## Boxes of nothing -/

theorem addUncovered_eq_nil_iff {boxes added : List Box} :
    addUncovered boxes added = [] ↔ boxes = [] ∧ added = [] := by
  constructor
  · intro none
    obtain ⟨own, all, -⟩ := exists_addUncovered boxes added
    obtain ⟨rfl, -⟩ := List.append_eq_nil_iff.mp (all.symm.trans none)
    refine ⟨rfl, ?_⟩
    -- The first box that is added to none is not covered.
    match added with
    | [] => rfl
    | b :: added =>
      obtain ⟨own, all, -⟩ := exists_addUncovered [b] added
      exact absurd (all.symm.trans none) (List.cons_ne_nil _ _)
  · rintro ⟨rfl, rfl⟩
    rfl

/-! ## Parts of a merged region -/

variable {ps : List Polygon} {p : Polygon}

theorem merged_concat : merged (ps ++ [p]) = (merged ps).union (.ofPolygon p) := by
  rw [merged, List.foldl_concat]
  rfl

/-- The rings of a merged region have corners. -/
theorem ne_nil_of_mem_merged {ring : List Point} (member : ring ∈ (merged ps).allRings) :
    ring ≠ [] := by
  rcases List.eq_nil_or_concat' ps with rfl | ⟨before, p, rfl⟩
  · exact nomatch member
  · rw [merged_concat] at member
    obtain ⟨traced, -, corners, rfl⟩ := exists_of_mem_union member
    exact fun none => corners (List.map_eq_nil_iff.mp none)

/-- So each part has a box. -/
theorem partBoxes_merged_eq_nil_iff : partBoxes (merged ps) = [] ↔ (merged ps).outer = [] := by
  unfold partBoxes
  rw [List.filterMap_eq_nil_iff, List.eq_nil_iff_forall_not_mem]
  refine forall₂_congr fun ring member => iff_of_false (fun none => ?_) fun absent => absent
  obtain ⟨b, found⟩ := Box.exists_around? (ne_nil_of_mem_merged (List.mem_append_left _ member))
  exact Option.some_ne_none b (found.symm.trans none)

theorem outer_merged_concat_of_flat
    (before : FoldsFlat (.over ((merged ps).allRings.flatten ++
      (ofPolygon p).allRings.flatten)) (merged ps))
    (last : FoldsFlat (.over ((merged ps).allRings.flatten ++
      (ofPolygon p).allRings.flatten)) (.ofPolygon p)) :
    (merged (ps ++ [p])).outer = [] := by
  rw [merged_concat, union_of_flat before last]
  rfl

/-! ## Collections without envelopes -/

theorem flatOf_eq_nil_iff :
    flatOf ps = [] ↔ ∀ p ∈ ps, p.exterior ≠ [] → 0.0 < p.area := by
  rw [List.eq_nil_iff_forall_not_mem]
  refine forall_congr' fun p => ?_
  rw [mem_flatOf, not_and, not_and, not_not]

theorem envelopes_eq_nil_iff : envelopes ps = [] ↔
    (∀ p ∈ ps, p.exterior ≠ [] → 0.0 < p.area) ∧ (merged (arealOf ps)).outer = [] := by
  have boxes : (flatOf ps).filterMap Polygon.box? = [] ↔ flatOf ps = [] := by
    rw [List.filterMap_eq_nil_iff, List.eq_nil_iff_forall_not_mem]
    refine forall₂_congr fun p member => iff_of_false (fun none => ?_) fun absent => absent
    obtain ⟨b, found⟩ := Box.exists_around? (mem_flatOf.mp member).2.1
    exact Option.some_ne_none b (found.symm.trans none)
  rw [envelopes_eq, addUncovered_eq_nil_iff, partBoxes_merged_eq_nil_iff, boxes,
    flatOf_eq_nil_iff, and_comm]

variable {members : List Geometry}

/-- A collection leaves an envelope if its polygons have boxes: no other member is a box. -/
theorem exists_mem_toEnvelopes_iff :
    (∃ reduced b, toEnvelopes (.collection members) = .collection reduced ∧
      Geometry.polygon (Box.polygon b) ∈ reduced) ↔ envelopes (polygonsOf members) ≠ [] := by
  rw [toEnvelopes_collection]
  constructor
  · rintro ⟨reduced, b, same, member⟩ none
    cases same
    rw [boxes, none, List.map_nil, List.append_nil] at member
    exact Bool.false_ne_true (List.mem_filter.mp member).2
  · intro some
    obtain ⟨b, member⟩ := List.exists_mem_of_ne_nil _ some
    exact ⟨_, b, rfl, List.mem_append_right _ (List.mem_map_of_mem member)⟩

/-- **When a footprint leaves an envelope.**  It does if a polygon with corners has no area, or
if the union of the others has a part; and it has none if the last polygon and the union of
those before it fold flat on the grid over both. -/
theorem exists_envelope_iff (members : List Geometry) :
    ((∃ reduced b, toEnvelopes (.collection members) = .collection reduced ∧
        Geometry.polygon (Box.polygon b) ∈ reduced) ↔
      (∃ p ∈ polygonsOf members, p.exterior ≠ [] ∧ ¬ 0.0 < p.area) ∨
        (merged (arealOf (polygonsOf members))).outer ≠ []) ∧
      ∀ ps p, arealOf (polygonsOf members) = ps ++ [p] →
        FoldsFlat (.over ((merged ps).allRings.flatten ++ (ofPolygon p).allRings.flatten))
          (merged ps) →
        FoldsFlat (.over ((merged ps).allRings.flatten ++ (ofPolygon p).allRings.flatten))
          (.ofPolygon p) →
        (merged (arealOf (polygonsOf members))).outer = [] := by
  refine ⟨?_, fun ps p split before last => split ▸ outer_merged_concat_of_flat before last⟩
  rw [exists_mem_toEnvelopes_iff, Ne, envelopes_eq_nil_iff, not_and_or]
  push Not
  rfl

/-- A strip so long and so thin that it folds flat. -/
def strip : Polygon := ⟨[⟨0, 0⟩, ⟨4e9, 0⟩, ⟨4e9, 1⟩, ⟨0, 1⟩, ⟨0, 0⟩], []⟩

theorem not_forall_exists_envelope :
    ¬ ∀ members : List Geometry,
      (∀ q ∈ (Geometry.collection members).points, q.x.isFinite = true ∧ q.y.isFinite = true) →
      (∃ g ∈ members, ∃ p ∈ g.polygons?.getD [], p.exterior ≠ []) →
      ∃ reduced b, toEnvelopes (.collection members) = .collection reduced ∧
        Geometry.polygon (Box.polygon b) ∈ reduced := by
  intro all
  have area : ∀ p ∈ [strip], p.exterior ≠ [] → 0.0 < p.area := by decide +kernel
  have flat : ∀ ring ∈ (ofPolygon strip).allRings,
      straighten (ring.map (Grid.over (ofPolygon strip).allRings.flatten).node) = [] := by
    decide +kernel
  have areal : arealOf [strip] = [] ++ [strip] := by decide +kernel
  have none : envelopes [strip] = [] :=
    envelopes_eq_nil_iff.mpr ⟨area, areal ▸ outer_merged_concat_of_flat nofun flat⟩
  have some := all [.polygon strip] (by decide)
    ⟨_, List.mem_singleton_self _, strip, List.mem_singleton_self _, by decide⟩
  exact exists_mem_toEnvelopes_iff.mp some none

end Footprint
end StreamCatalog
