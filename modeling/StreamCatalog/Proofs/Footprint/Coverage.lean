import StreamCatalog.Footprint.Envelopes
import StreamCatalog.Proofs.Geometry.Parts
import StreamCatalog.Proofs.Region.Numbers

/-!
# What the envelopes of a collection cover

The envelopes of a collection are the boxes of its merged polygons, followed by the boxes of
those polygons without area that no box before them covers.  How the polygons are merged does
not matter for what is said about them here: whatever region is merged, every polygon without
area is inside of some envelope, and none of the added envelopes is inside of one before it
(`toEnvelopes_spec`).

The polygons of a collection are those among its members, those of its multipolygons, and the
outlines of its boxes and triangles (`mem_polygonsOf_iff`); so what is said of all of them can be
read as four statements about the members (`forall_mem_polygonsOf_iff`).

The boxes are those around points whose coordinates are numbers, since the corners of a merged
region have numbers for coordinates if those of the polygons have (`isNumeric_merged`).
-/

namespace StreamCatalog

/-- Are all coordinates of a polygon's corners numbers? -/
def Polygon.IsNumeric (p : Polygon) : Prop := ∀ ring ∈ p.rings, ∀ q ∈ ring, q.IsNumeric

/-- Is a geometry the polygon of a box: no holes, five corners along the sides of the box, and
the last where the first is? -/
def Geometry.IsRectangle (g : Geometry) : Prop :=
  ∃ b : Box, b.Orderly ∧ g = .polygon ⟨[⟨b.maxX, b.minY⟩, ⟨b.maxX, b.maxY⟩, ⟨b.minX, b.maxY⟩,
    ⟨b.minX, b.minY⟩, ⟨b.maxX, b.minY⟩], []⟩ ∧ isClosed b.ring = true

namespace Footprint

open Region

/-! ## The polygons of a collection -/

section Members

variable {members : List Geometry} {p : Polygon}

/-- The polygons of a collection, by the kind of the member that each comes from. -/
theorem mem_polygonsOf_iff : p ∈ polygonsOf members ↔
    .polygon p ∈ members ∨ (∃ ps, .multiPolygon ps ∈ members ∧ p ∈ ps) ∨
      (∃ b, .rect b ∈ members ∧ b.polygon = p) ∨ ∃ t, .triangle t ∈ members ∧ t.polygon = p := by
  rw [polygonsOf, List.mem_flatMap]
  constructor
  · rintro ⟨g, member, inside⟩
    cases g with
    | polygon q =>
      rw [List.mem_singleton.mp inside]
      exact .inl member
    | multiPolygon ps => exact .inr (.inl ⟨ps, member, inside⟩)
    | rect b => exact .inr (.inr (.inl ⟨b, member, (List.mem_singleton.mp inside).symm⟩))
    | triangle t => exact .inr (.inr (.inr ⟨t, member, (List.mem_singleton.mp inside).symm⟩))
    | point | line | lineString | multiPoint | multiLineString | collection =>
      exact nomatch inside
  · rintro (member | ⟨ps, member, inside⟩ | ⟨b, member, rfl⟩ | ⟨t, member, rfl⟩)
    · exact ⟨.polygon p, member, List.mem_singleton_self p⟩
    · exact ⟨.multiPolygon ps, member, inside⟩
    · exact ⟨.rect b, member, List.mem_singleton_self b.polygon⟩
    · exact ⟨.triangle t, member, List.mem_singleton_self t.polygon⟩

/-- What holds of all polygons of a collection, said of its members. -/
theorem forall_mem_polygonsOf_iff {P : Polygon → Prop} : (∀ p ∈ polygonsOf members, P p) ↔
    (∀ p, .polygon p ∈ members → P p) ∧ (∀ ps, .multiPolygon ps ∈ members → ∀ p ∈ ps, P p) ∧
      (∀ b, .rect b ∈ members → P b.polygon) ∧ ∀ t, .triangle t ∈ members → P t.polygon := by
  simp only [mem_polygonsOf_iff]
  constructor
  · intro all
    exact ⟨fun p member => all p (.inl member),
      fun ps member p inside => all p (.inr (.inl ⟨ps, member, inside⟩)),
      fun b member => all b.polygon (.inr (.inr (.inl ⟨b, member, rfl⟩))),
      fun t member => all t.polygon (.inr (.inr (.inr ⟨t, member, rfl⟩)))⟩
  · rintro ⟨single, several, box, triangle⟩ p
      (member | ⟨ps, member, inside⟩ | ⟨b, member, rfl⟩ | ⟨t, member, rfl⟩)
    · exact single p member
    · exact several ps member p inside
    · exact box b member
    · exact triangle t member

end Members

/-! ## Adding boxes -/

/-- What adding boxes gives: every box that is added is covered in the end, and one that is
there because it was added is covered by none before it. -/
structure Added (boxes added own : List Box) : Prop where
  covered : ∀ b ∈ added, b.Orderly → ∃ c ∈ boxes ++ own, c.covers b = true
  fresh : ∀ before b after, own = before ++ b :: after →
    b ∈ added ∧ ∀ c ∈ boxes ++ before, c.covers b = false

theorem exists_addUncovered (boxes added : List Box) :
    ∃ own, addUncovered boxes added = boxes ++ own ∧ Added boxes added own := by
  induction added generalizing boxes with
  | nil =>
    refine ⟨[], (List.append_nil boxes).symm, nofun, fun before b after split => ?_⟩
    exact absurd split (List.append_ne_nil_of_right_ne_nil _ (List.cons_ne_nil _ _)).symm
  | cons b added ih =>
    by_cases covered : boxes.any (·.covers b) = true
    · obtain ⟨own, all, cover, fresh⟩ := ih boxes
      obtain ⟨c, member, covers⟩ := List.any_eq_true.mp covered
      refine ⟨own, ?_, List.forall_mem_cons.mpr ⟨fun _ => ?_, cover⟩,
        fun before x after split => ?_⟩
      · rw [addUncovered, List.foldl_cons, if_pos covered]
        exact all
      · exact ⟨c, List.mem_append_left _ member, covers⟩
      · obtain ⟨member, none⟩ := fresh before x after split
        exact ⟨List.mem_cons_of_mem b member, none⟩
    · obtain ⟨own, all, cover, fresh⟩ := ih (boxes ++ [b])
      refine ⟨b :: own, ?_, ?_, fun before x after split => ?_⟩
      · rw [addUncovered, List.foldl_cons, if_neg covered]
        exact all.trans (List.append_assoc ..)
      · rw [List.append_assoc, List.singleton_append] at cover
        refine List.forall_mem_cons.mpr ⟨fun orderly => ⟨b, ?_, orderly.covers_self⟩, cover⟩
        exact List.mem_append_right _ (List.mem_cons_self ..)
      · match before, split with
        | [], split =>
          obtain ⟨rfl, -⟩ := List.cons.inj split
          refine ⟨List.mem_cons_self .., fun c member => ?_⟩
          rw [List.append_nil] at member
          exact Bool.eq_false_iff.mpr fun covers =>
            covered (List.any_eq_true.mpr ⟨c, member, covers⟩)
        | y :: before, split =>
          obtain ⟨rfl, rest⟩ := List.cons.inj split
          obtain ⟨member, none⟩ := fresh before x after rest
          rw [List.append_assoc, List.singleton_append] at none
          exact ⟨List.mem_cons_of_mem _ member, none⟩

/-! ## Polygons with and without area -/

/-- The polygons that are merged. -/
def arealOf (ps : List Polygon) : List Polygon :=
  (ps.filter fun p => !p.exterior.isEmpty).filter fun p => 0.0 < p.area

/-- The polygons that keep a box of their own. -/
def flatOf (ps : List Polygon) : List Polygon :=
  (ps.filter fun p => !p.exterior.isEmpty).filter fun p => !decide (0.0 < p.area)

variable {p : Polygon} {ps : List Polygon}

theorem mem_flatOf : p ∈ flatOf ps ↔ p ∈ ps ∧ p.exterior ≠ [] ∧ ¬ 0.0 < p.area := by
  simp [flatOf, List.mem_filter, and_comm]

theorem mem_arealOf : p ∈ arealOf ps ↔ p ∈ ps ∧ p.exterior ≠ [] ∧ 0.0 < p.area := by
  simp [arealOf, List.mem_filter, and_comm]

theorem envelopes_eq (ps : List Polygon) :
    envelopes ps = addUncovered (partBoxes (merged (arealOf ps)))
      ((flatOf ps).filterMap Polygon.box?) := by
  rw [envelopes]
  simp only [List.partition_eq_filter_filter]
  rfl

/-! ## Merged polygons -/

theorem isNumeric_ofPolygon (numbers : p.IsNumeric) : (Region.ofPolygon p).IsNumeric := by
  intro ring member q corner
  rcases List.mem_append.mp member with outer | hole
  · rw [List.mem_singleton.mp outer] at corner
    exact numbers p.exterior (List.mem_cons_self ..) q (List.mem_of_mem_dropLast corner)
  · obtain ⟨whole, inside, rfl⟩ := List.mem_map.mp hole
    exact numbers whole (List.mem_cons_of_mem _ inside) q (List.mem_of_mem_dropLast corner)

/-- The corners of merged polygons have numbers for coordinates if those of the polygons have. -/
theorem isNumeric_merged (numbers : ∀ p ∈ ps, p.IsNumeric) : (merged ps).IsNumeric := by
  have step (r : Region) (hr : r.IsNumeric) :
      (ps.foldl (fun region p => region.union (.ofPolygon p)) r).IsNumeric := by
    induction ps generalizing r with
    | nil => exact hr
    | cons p ps ih =>
      obtain ⟨here, rest⟩ := List.forall_mem_cons.mp numbers
      exact ih rest _ (hr.union (isNumeric_ofPolygon here))
  exact step .empty isNumeric_empty

/-! ## Collections -/

/-- The boxes that the areas among some geometries are reduced to. -/
def boxes (members : List Geometry) : List Geometry :=
  (envelopes (polygonsOf members)).map fun b => .polygon b.polygon

/-- Those that are no areas are kept, and the boxes come behind them. -/
theorem toEnvelopes_collection (members : List Geometry) :
    toEnvelopes (.collection members) =
      .collection (members.filter (!·.isPolygonal) ++ boxes members) := by
  rw [toEnvelopes]
  split
  · rfl
  · rename_i none
    have others : ∀ g ∈ members, (!g.isPolygonal) = true := by simpa using none
    have polygons : polygonsOf members = [] := by
      refine List.flatMap_eq_nil_iff.mpr fun g member => ?_
      have other := others g member
      rw [Geometry.isPolygonal, Bool.not_eq_true', Option.isSome_eq_false_iff,
        Option.isNone_iff_eq_none] at other
      rw [other]
      rfl
    have empty : boxes members = [] := by
      rw [boxes, polygons]
      rfl
    rw [empty, List.append_nil, List.filter_eq_self.mpr others]

/-- A collection whose polygons are replaced by the boxes of a region, and by their own boxes
where they have no area and are not covered. -/
def assembled (r : Region) (members : List Geometry) : Geometry :=
  .collection (members.filter (!·.isPolygonal) ++
    (addUncovered (partBoxes r) ((flatOf (polygonsOf members)).filterMap Polygon.box?)).map
      fun b => .polygon b.polygon)

theorem toEnvelopes_eq_assembled (members : List Geometry) :
    toEnvelopes (.collection members) =
      assembled (merged (arealOf (polygonsOf members))) members := by
  rw [toEnvelopes_collection, boxes, envelopes_eq]
  rfl

theorem isRectangle_of_orderly {b : Box} (orderly : b.Orderly) :
    (Geometry.polygon b.polygon).IsRectangle :=
  ⟨b, orderly, congrArg Geometry.polygon orderly.polygon_eq, orderly.isClosed_ring⟩

theorem orderly_of_mem_partBoxes {r : Region} (numbers : r.IsNumeric) {b : Box}
    (member : b ∈ partBoxes r) : b.Orderly := by
  obtain ⟨ring, outer, found⟩ := List.mem_filterMap.mp member
  exact (Box.around?_spec (numbers ring (List.mem_append_left _ outer)) found).1

theorem box?_spec (numbers : p.IsNumeric) {b : Box} (found : p.box? = some b) :
    b.Orderly ∧ ∀ q ∈ p.exterior, b.Holds q :=
  Box.around?_spec (numbers p.exterior (List.mem_cons_self ..)) found

/-- What a collection is after its polygons were replaced by the boxes of a region and some boxes
of their own: the other members as they were, then rectangles.  Every polygon without area,
whichever member it comes from (`mem_polygonsOf_iff`), is inside of a rectangle, and a box of its
own is inside of none before it. -/
structure Reduced (r : Region) (members : List Geometry) (own : List Box) : Prop where
  assembled_eq : assembled r members = .collection (members.filter (!·.isPolygonal) ++
    (partBoxes r ++ own).map fun b => .polygon b.polygon)
  rectangles : ∀ b ∈ partBoxes r ++ own, (Geometry.polygon b.polygon).IsRectangle
  covered : ∀ p ∈ polygonsOf members, p.exterior ≠ [] → ¬ 0.0 < p.area →
    ∃ b ∈ partBoxes r ++ own, (∃ c, p.box? = some c ∧ b.covers c = true) ∧
      ∀ q ∈ p.exterior, b.Holds q
  fresh : ∀ before b after, own = before ++ b :: after →
    (∃ p ∈ polygonsOf members, p.exterior ≠ [] ∧ ¬ 0.0 < p.area ∧ p.box? = some b) ∧
      ∀ c ∈ partBoxes r ++ before, c.covers b = false

theorem exists_reduced {r : Region} {members : List Geometry} (hr : r.IsNumeric)
    (numbers : ∀ p ∈ polygonsOf members, p.IsNumeric) : ∃ own, Reduced r members own := by
  obtain ⟨own, all, added⟩ := exists_addUncovered (partBoxes r)
    ((flatOf (polygonsOf members)).filterMap Polygon.box?)
  have origin (b : Box) (member : b ∈ (flatOf (polygonsOf members)).filterMap Polygon.box?) :
      ∃ p ∈ polygonsOf members, p.exterior ≠ [] ∧ ¬ 0.0 < p.area ∧ p.box? = some b := by
    obtain ⟨p, flat, found⟩ := List.mem_filterMap.mp member
    obtain ⟨inside, corners, area⟩ := mem_flatOf.mp flat
    exact ⟨p, inside, corners, area, found⟩
  refine ⟨own, ?_, fun b member => ?_, fun p member corners area => ?_,
    fun before b after split => ?_⟩
  · rw [assembled, all]
  · rcases List.mem_append.mp member with part | member
    · exact isRectangle_of_orderly (orderly_of_mem_partBoxes hr part)
    · obtain ⟨before, after, split⟩ := List.append_of_mem member
      obtain ⟨p, inside, -, -, found⟩ := origin b (added.fresh before b after split).1
      exact isRectangle_of_orderly (box?_spec (numbers p inside) found).1
  · obtain ⟨c, found⟩ : ∃ c, p.box? = some c := Box.exists_around? corners
    obtain ⟨orderly, holds⟩ := box?_spec (numbers p member) found
    have flat : c ∈ (flatOf (polygonsOf members)).filterMap Polygon.box? :=
      List.mem_filterMap.mpr ⟨p, mem_flatOf.mpr ⟨member, corners, area⟩, found⟩
    obtain ⟨b, inside, covers⟩ := added.covered c flat orderly
    exact ⟨b, inside, ⟨c, found, covers⟩, fun q corner => (holds q corner).of_covers covers⟩
  · obtain ⟨member, none⟩ := added.fresh before b after split
    exact ⟨origin b member, none⟩

/-- **The envelopes of a collection.**  Whatever region the polygons with area are merged to, the
other members stay as they were and are followed by rectangles; every polygon without area is
inside of one of these, and no rectangle that was added for one is inside of a rectangle before
it.  What the polygons are merged to is one of these regions. -/
theorem toEnvelopes_spec (members : List Geometry)
    (numbers : ∀ p ∈ polygonsOf members, p.IsNumeric) :
    toEnvelopes (.collection members) =
        assembled (merged (arealOf (polygonsOf members))) members ∧
      (merged (arealOf (polygonsOf members))).IsNumeric ∧
      ∀ r : Region, r.IsNumeric → ∃ own, Reduced r members own := by
  refine ⟨toEnvelopes_eq_assembled members, isNumeric_merged fun p member => ?_,
    fun r hr => exists_reduced hr numbers⟩
  exact numbers p (mem_arealOf.mp member).1

/-- A buoy, a basin, a pier that runs out of the basin, and one inside of it. -/
def marina : List Geometry :=
  [.polygon ⟨[⟨0, 0⟩, ⟨4, 0⟩, ⟨4, 4⟩, ⟨0, 4⟩, ⟨0, 0⟩], []⟩, .point ⟨7, 7⟩,
    .multiPolygon [⟨[⟨2, 2⟩, ⟨6, 6⟩, ⟨2, 2⟩], []⟩, ⟨[⟨1, 1⟩, ⟨3, 3⟩, ⟨1, 1⟩], []⟩]]

theorem toEnvelopes_spec_marina :
    (∀ p ∈ polygonsOf marina, p.IsNumeric) ∧
      toEnvelopes (.collection marina) =
        assembled (merged (arealOf (polygonsOf marina))) marina ∧
      (merged (arealOf (polygonsOf marina))).IsNumeric ∧
      ∀ r : Region, r.IsNumeric → ∃ own, Reduced r marina own := by
  have numbers : ∀ p ∈ polygonsOf marina, p.IsNumeric := by
    have all : ∀ p ∈ polygonsOf marina, ∀ ring ∈ p.rings, ∀ q ∈ ring,
        q.x.isNaN = false ∧ q.y.isNaN = false := by decide
    intro p member ring inside q corner
    obtain ⟨x, y⟩ := all p member ring inside q corner
    exact ⟨x, y⟩
  exact ⟨numbers, toEnvelopes_spec marina numbers⟩

end Footprint
end StreamCatalog
