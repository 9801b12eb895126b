import StreamCatalog.Proofs.Catalog.Footprints
import StreamCatalog.Proofs.Engine.Course
import StreamCatalog.Proofs.Footprint.Areas

/-!
# Frames that are put together

A source of footprints may report every frame by itself, or it may put frames that follow each
other into a collection, and such collections into another one (`Grouping`).  The places are the
same, and taken apart into leaves they cannot be told apart (`Grouping.leavesOf_eq`).

The record of a stream is made from leaves.  The record of a segment is made from the frames as
they are reported, and the areas among them are reduced to boxes only if they stand by themselves:
a collection is no area.  So an area that is put into a collection keeps its outline, and it is
not merged with those that it touches.  The location is the same as without the collections if no
area is in one of them (`Setup.location?_of_grouping`), and need not be the same otherwise
(`Setup.not_forall_location?_of_grouping`).
-/

namespace StreamCatalog

namespace Geometry

/-- The second list is the first one after neighbors have been put together in collections, to
any depth. -/
inductive Grouping : List Geometry → List Geometry → Prop
  /-- There is nothing to put together. -/
  | nil : Grouping [] []
  /-- A geometry stays by itself. -/
  | alone (g : Geometry) {frames grouped : List Geometry} (rest : Grouping frames grouped) :
    Grouping (g :: frames) (g :: grouped)
  /-- Several geometries, put together themselves, are put into one. -/
  | together {inner members frames grouped : List Geometry} (inside : Grouping inner members)
    (rest : Grouping frames grouped) : Grouping (inner ++ frames) (.collection members :: grouped)

namespace Grouping

variable {frames grouped : List Geometry}

/-- The leaves are the same, in the same order. -/
theorem leavesOf_eq (h : Grouping frames grouped) : leavesOf grouped = leavesOf frames := by
  induction h with
  | nil => rfl
  | alone g rest ih => rw [leavesOf, leavesOf, ih]
  | together inside rest ihInside ihRest =>
    rw [leavesOf, leaves, ihInside, ihRest, leavesOf_append]

/-- The areas that still stand by themselves are some of those that did. -/
theorem areas_sublist (h : Grouping frames grouped) :
    (grouped.filter (·.isArea)).Sublist (frames.filter (·.isArea)) := by
  induction h with
  | nil => exact .slnil
  | alone g rest ih =>
    rw [List.filter_cons, List.filter_cons]
    split
    · exact ih.cons_cons g
    · exact ih
  | together inside rest _ ih =>
    rw [List.filter_append]
    exact ih.trans (List.sublist_append_right ..)

/-- If no area is put into a collection, the leaves of all else are the same. -/
theorem leavesOf_filter_eq (h : Grouping frames grouped)
    (areas : grouped.filter (·.isArea) = frames.filter (·.isArea)) :
    leavesOf (grouped.filter (!·.isArea)) = leavesOf (frames.filter (!·.isArea)) := by
  induction h with
  | nil => rfl
  | alone g rest ih =>
    cases area : g.isArea with
    | true =>
      simp only [List.filter_cons, area, if_pos, List.cons.injEq, true_and] at areas
      simp only [List.filter_cons, area, Bool.not_true, Bool.false_eq_true, if_false]
      exact ih areas
    | false =>
      simp only [List.filter_cons, area, Bool.false_eq_true, if_false] at areas
      simp only [List.filter_cons, area, Bool.not_false, if_true, leavesOf]
      rw [ih areas]
  | @together inner members frames grouped inside rest _ ih =>
    -- the areas of the rest are all that is left, so there is none inside
    have all : grouped.filter (·.isArea) = inner.filter (·.isArea) ++ frames.filter (·.isArea) :=
      areas.trans (List.filter_append ..)
    have none : inner.filter (·.isArea) = [] := by
      have fewer := rest.areas_sublist.length_le
      rw [all, List.length_append] at fewer
      exact List.length_eq_zero_iff.mp (by omega)
    rw [none, List.nil_append] at all
    rw [List.filter_append, leavesOf_append, leavesOf_filter_of_no_area none,
      ← inside.leavesOf_eq, ← ih all]
    rfl

end Grouping

end Geometry

/-! ## The location of a segment -/

namespace Engine

open Footprint (Source boxes)
open Segment (Snapshot)

/-- The location that shows some leaves, if there are any. -/
def shown? (leaves : List Geometry) : Option String :=
  if leaves.isEmpty then none
  else some (Wkt.Builder.addGeometry {} (.collection leaves)).render

/-- Every frame that is no area is shown by its leaves, behind them the boxes of the areas. -/
theorem locationText?_eq_shown (members : List Geometry) :
    Catalog.locationText? (.footprint none) members =
      .ok (shown? (Geometry.leavesOf (members.filter (!·.isArea)) ++ boxes members)) := by
  have leaves : (Geometry.collection (Geometry.leavesOf (members.filter (!·.isArea)) ++
      boxes members)).leaves = (Footprint.toEnvelopes (.collection members)).leaves := by
    rw [Footprint.leaves_toEnvelopes_collection, Geometry.leaves]
    refine Geometry.leavesOf_of_leaves fun g member => ?_
    rw [← Footprint.leaves_toEnvelopes_collection] at member
    exact Geometry.leaves_of_mem_leaves member
  rw [Catalog.locationText?_footprint, shown?, Catalog.addGeometry_eq_of_leaves leaves,
    Footprint.leaves_toEnvelopes_collection]

namespace Setup

variable {e : Setup} {frames grouped : Source} {segment : Snapshot}

/-- The same engine, with footprints from another source. -/
def reporting (e : Setup) (source : Source) : Setup := { e with source := some source }

/-- The location that an engine makes of some frames, also if there are none. -/
theorem location?_reporting (operator : e.operator = .footprint none) (source : Source)
    (segment : Snapshot) :
    (e.reporting source).location? segment =
      .ok (shown? (Geometry.leavesOf ((source segment).filter (!·.isArea)) ++
        boxes (source segment))) := by
  rw [location?, reporting]
  simp only [operator]
  split
  · next empty =>
    rw [empty]
    rfl
  · rw [locationText?_eq_shown]

/-- **The location of a segment whose frames are put together.**  The areas that still stand by
themselves are reduced to boxes and all other leaves are shown as they are, among them the areas
that are in collections.  If there are none of these, the location is that of the frames; and it
always is if the frames are taken apart into their leaves first. -/
theorem location?_of_grouping (operator : e.operator = .footprint none)
    (together : Geometry.Grouping (frames segment) (grouped segment)) :
    ((grouped segment).filter (·.isArea)).Sublist ((frames segment).filter (·.isArea)) ∧
    ((grouped segment).filter (·.isArea) ++
      Geometry.leavesOf ((grouped segment).filter (!·.isArea))).Perm
        (Geometry.leavesOf (frames segment)) ∧
    (e.reporting grouped).location? segment =
      .ok (shown? (Geometry.leavesOf ((grouped segment).filter (!·.isArea)) ++
        boxes ((grouped segment).filter (·.isArea)))) ∧
    ((grouped segment).filter (·.isArea) = (frames segment).filter (·.isArea) →
      (e.reporting grouped).location? segment = (e.reporting frames).location? segment) ∧
    (e.reporting fun s => Geometry.leavesOf (grouped s)).location? segment =
      (e.reporting fun s => Geometry.leavesOf (frames s)).location? segment := by
  refine ⟨together.areas_sublist, ?_, ?_, fun areas => ?_, ?_⟩
  · rw [← together.leavesOf_eq]
    exact Geometry.perm_leavesOf (grouped segment)
  · rw [location?_reporting operator, Footprint.boxes_filter_isArea]
  · rw [location?_reporting operator, location?_reporting operator,
      together.leavesOf_filter_eq areas, Footprint.boxes_eq_of_areas areas]
  · rw [location?_reporting operator, location?_reporting operator, together.leavesOf_eq]

end Setup

/-- A basin that is not a box. -/
def basin : Geometry := .polygon ⟨[⟨0, 0⟩, ⟨4, 0⟩, ⟨4, 4⟩, ⟨0, 0⟩], []⟩

/-- A buoy and a fairway. -/
def marks : List Geometry := [.point ⟨7, 7⟩, .lineString [⟨7, 7⟩, ⟨4, 4⟩]]

/-- All of them, each in a frame of its own. -/
def survey : Source := .fixed (marks ++ [basin])

/-- All of them, the marks in one frame and the fairway in a collection there. -/
def chart : Source :=
  .fixed [.collection [.point ⟨7, 7⟩, .collection [.lineString [⟨7, 7⟩, ⟨4, 4⟩]]], basin]

/-- A segment; it does not matter which one. -/
def watch : Snapshot := ⟨[0], 1, 0, .epoch, .epoch⟩

theorem Setup.location?_of_grouping_chart :
    harbor.operator = .footprint none ∧ Geometry.Grouping (survey watch) (chart watch) ∧
      (chart watch).filter (·.isArea) = (survey watch).filter (·.isArea) ∧
      (harbor.reporting chart).location? watch =
        .ok (shown? (Geometry.leavesOf ((chart watch).filter (!·.isArea)) ++
          boxes ((chart watch).filter (·.isArea)))) ∧
      (harbor.reporting chart).location? watch = (harbor.reporting survey).location? watch := by
  have inside : Geometry.Grouping marks
      [.point ⟨7, 7⟩, .collection [.lineString [⟨7, 7⟩, ⟨4, 4⟩]]] :=
    .alone _ (.together (.alone _ .nil) .nil)
  have together : Geometry.Grouping (survey watch) (chart watch) :=
    .together inside (.alone basin .nil)
  obtain ⟨-, -, shown, same, -⟩ := location?_of_grouping (e := harbor) rfl together
  exact ⟨rfl, together, rfl, shown, same rfl⟩

/-- **How frames are put together decides what the location is.**  The basin becomes a box if it
is reported by itself, and keeps its outline in a collection. -/
theorem Setup.not_forall_location?_of_grouping :
    ¬ ∀ (e : Setup) (frames grouped : Source) (segment : Snapshot),
      e.operator = .footprint none → Geometry.Grouping (frames segment) (grouped segment) →
      (e.reporting grouped).location? segment = (e.reporting frames).location? segment := by
  intro all
  have together : Geometry.Grouping [basin] [.collection [basin]] :=
    .together (.alone basin .nil) .nil
  have same := all harbor (.fixed [basin]) (.fixed [.collection [basin]]) watch rfl together
  have alone : ((harbor.reporting (.fixed [basin])).location? watch).toOption =
      some (some "GEOMETRYCOLLECTION (POLYGON((4 0,4 4,0 4,0 0,4 0)))") := by decide +kernel
  have inside : ((harbor.reporting (.fixed [.collection [basin]])).location? watch).toOption =
      some (some "GEOMETRYCOLLECTION (POLYGON((0 0,4 0,4 4,0 0)))") := by decide +kernel
  rw [same, alone] at inside
  exact absurd inside (by decide)

end Engine
end StreamCatalog
