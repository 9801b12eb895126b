import Mathlib.Logic.Function.Iterate
import StreamCatalog.Proofs.Catalog.Contents
import StreamCatalog.Proofs.Catalog.Footprints
import StreamCatalog.Proofs.Footprint.Areas

/-!
# Segments without a place

What cannot be used in a segment's record is to be passed over.  A segment without a location is:
the stream's record stays as it is.  A segment whose location cannot be read is not.  Nothing of
it enters the footprint, but the update goes on with the footprint that the stream has, and that
is reduced and written once more (`Record.redrawn`).

## Writing a footprint again

The outcome does not depend on the segment, and only the location can change.  It stays if there
is nothing to write or if it is what would be written (`Record.IsSettled`).  So it changes if it
was written by hand, with other spaces or as a single geometry.  It stays if an update has written
it, provided that its boxes are not merged any further (`Record.isSettled_set`).  But the boxes of
two places may overlap although the places do not, and then the segment without a place makes one
box of them, which covers more than both (`not_forall_addLocation_of_isUnplaced`).
-/

namespace StreamCatalog
namespace Catalog

open Footprint (boxes toEnvelopes)

variable {r parent child : Record}

namespace Record

/-- Is there no location, or none that can be read? -/
def IsUnplaced (r : Record) : Prop :=
  ∀ text, r.text? Name.location = some text → ∀ g, Wkt.parse text ≠ .ok g

/-- A record's footprint, the areas in it reduced to boxes. -/
def reduced (r : Record) : Geometry := toEnvelopes (.collection r.footprint)

/-- A record after its footprint has been read and written again, if there is anything to
write. -/
def redrawn (r : Record) : Record :=
  if r.reduced.leaves.isEmpty then r
  else r.set Name.location (.text (Wkt.Builder.addGeometry {} r.reduced).render)

/-- Is there nothing to write, or is the location what would be written? -/
def IsSettled (r : Record) : Prop :=
  r.reduced.leaves = [] ∨
    r.values? Name.location = some [.text (Wkt.Builder.addGeometry {} r.reduced).render]

/-! ## What is written again -/

/-- The points and lines are kept and the areas are reduced. -/
theorem leaves_reduced (r : Record) : r.reduced.leaves = r.marks ++ boxes r.footprint :=
  Footprint.leaves_toEnvelopes fun _ member => (leaves_of_mem_leavesAt member).1

@[simp] theorem id_redrawn (r : Record) : r.redrawn.id = r.id := by
  rw [redrawn]
  split
  · rfl
  · exact id_set ..

theorem values?_redrawn {name : String} (other : name ≠ Name.location) :
    r.redrawn.values? name = r.values? name := by
  rw [redrawn]
  split
  · rfl
  · rw [values?_set, if_neg other]

theorem redrawn_eq_self_iff : r.redrawn = r ↔ r.IsSettled := by
  rw [redrawn, IsSettled, ← List.isEmpty_iff]
  split
  · next nothing => exact iff_of_true rfl (.inl nothing)
  · next something => rw [set_eq_self_iff, or_iff_right something]

/-- **What an update has written stays**, as long as its boxes are not merged any further. -/
theorem isSettled_set (written : (parent.joined child).leaves ≠ [])
    (restorable : ∀ g ∈ (parent.joined child).leaves, g.Restorable)
    (apart : boxes (boxes (parent.footprint ++ child.footprint)) =
      boxes (parent.footprint ++ child.footprint)) :
    (parent.set Name.location (.text (Wkt.Builder.addGeometry {}
      (parent.joined child)).render)).IsSettled := by
  have footprint := footprint_set_joined written restorable
  have marks : ∀ g ∈ parent.marks ++ child.marks, g.isArea = false := by
    intro g member
    rw [← marks_joined, List.mem_filter, Bool.not_eq_true'] at member
    exact Geometry.isArea_of_not_isPolygonal member.2
  have areas : (parent.joined child).leaves.filter (·.isArea) =
      (boxes (parent.footprint ++ child.footprint)).filter (·.isArea) := by
    rw [leaves_joined, List.filter_append, List.filter_eq_nil_iff.mpr fun g member =>
      Bool.eq_false_iff.mp (marks g member), List.nil_append]
  -- the points and lines come back as they were, and of the boxes nothing new is made
  have same : (parent.set Name.location (.text (Wkt.Builder.addGeometry {}
      (parent.joined child)).render)).reduced.leaves = (parent.joined child).leaves := by
    rw [leaves_reduced, Record.marks, footprint, marks_joined, Footprint.boxes_eq_of_areas areas,
      apart, leaves_joined]
  refine .inr ?_
  rw [values?_set, if_pos rfl, addGeometry_eq_of_leaves same]

/-- Nothing of a segment without a place is written. -/
theorem joined_of_isUnplaced (unplaced : child.IsUnplaced) :
    parent.joined child = parent.reduced := by
  have nothing : child.footprint = [] := by
    rw [footprint]
    cases location : child.text? Name.location with
    | none => rfl
    | some text =>
      cases read : Wkt.parse text with
      | ok g => exact absurd read (unplaced text location g)
      | error e =>
        rw [leavesAt]
        simp only [read]
  rw [joined, nothing, List.append_nil, reduced]

instance : DecidablePred IsUnplaced := fun r =>
  decidable_of_iff (∀ text ∈ r.text? Name.location, (Wkt.parse text).toOption.isNone = true) <| by
    refine forall₂_congr fun text _ => ?_
    cases Wkt.parse text with
    | ok g => exact iff_of_false Bool.false_ne_true fun none => none g rfl
    | error e => exact iff_of_true rfl nofun

end Record

/-! ## Updates -/

theorem addLocation_eq_redrawn (unplaced : child.IsUnplaced) :
    Updater.addLocation (.footprint none) parent child =
      .ok (if child.text? Name.location = none then parent else parent.redrawn) := by
  cases location : child.text? Name.location with
  | none =>
    rw [Updater.addLocation, location]
    rfl
  | some text =>
    rw [addLocation_of_location location, Record.joined_of_isUnplaced unplaced]
    rfl

/-- **An update with a segment that has no place** touches only the location of a stream's
record.  It leaves the record as it was if there is no location in the segment's, and else if and
only if the footprint is written already as it is written again. -/
theorem addLocation_of_isUnplaced (unplaced : child.IsUnplaced) :
    ∃ next, Updater.addLocation (.footprint none) parent child = .ok next ∧
      next = (if child.text? Name.location = none then parent else parent.redrawn) ∧
      next.id = parent.id ∧
      (∀ name, name ≠ Name.location → next.values? name = parent.values? name) ∧
      (next = parent ↔ child.text? Name.location = none ∨ parent.IsSettled) := by
  refine ⟨_, addLocation_eq_redrawn unplaced, rfl, ?_⟩
  split
  · next absent => exact ⟨rfl, fun _ _ => rfl, iff_of_true rfl (.inl absent)⟩
  · next located =>
    refine ⟨parent.id_redrawn, fun name other => Record.values?_redrawn other, ?_⟩
    rw [Record.redrawn_eq_self_iff, or_iff_right located]

/-- Two quays, as an update has written them: the places do not touch each other, but the boxes
around them do. -/
def quays : Record :=
  located "GEOMETRYCOLLECTION (POLYGON((4 0,4 4,0 4,0 0,4 0)), POLYGON((6 3,6 6,3 6,3 3,6 3)))"

example : (takeIn unlocated [located "POLYGON((0 0,4 0,0 4,0 0))",
    located "POLYGON((6 3,6 6,3 6,6 3))"]).toOption = some quays := by decide +kernel

/-- A segment with a location that nobody can read. -/
def garbled : Record := located "NOT WKT"

theorem addLocation_of_isUnplaced_quays :
    garbled.IsUnplaced ∧
      ∃ next, Updater.addLocation (.footprint none) quays garbled = .ok next ∧
        next = (if garbled.text? Name.location = none then quays else quays.redrawn) ∧
        next.id = quays.id ∧
        (∀ name, name ≠ Name.location → next.values? name = quays.values? name) ∧
        (next = quays ↔ garbled.text? Name.location = none ∨ quays.IsSettled) := by
  have unplaced : garbled.IsUnplaced := by decide +kernel
  exact ⟨unplaced, addLocation_of_isUnplaced unplaced⟩

/-- A record is redrawn once for each location that cannot be read. -/
theorem takeIn_of_isUnplaced {segments : List Record} (unplaced : ∀ r ∈ segments, r.IsUnplaced) :
    takeIn parent segments =
      .ok (Record.redrawn^[segments.countP fun r => (r.text? Name.location).isSome] parent) := by
  induction segments generalizing parent with
  | nil => rfl
  | cons child later ih =>
    obtain ⟨here, rest⟩ := List.forall_mem_cons.mp unplaced
    rw [takeIn, List.foldlM_cons, addLocation_eq_redrawn here]
    cases location : child.text? Name.location with
    | none =>
      rw [List.countP_cons_of_neg (by rw [location]; exact Bool.false_ne_true)]
      exact ih rest
    | some text =>
      rw [List.countP_cons_of_pos (by rw [location]; rfl), Function.iterate_succ_apply]
      exact ih rest

/-- So a record that is settled stays as it is, whatever cannot be read. -/
theorem takeIn_of_isSettled {segments : List Record} (settled : parent.IsSettled)
    (unplaced : ∀ r ∈ segments, r.IsUnplaced) : takeIn parent segments = .ok parent := by
  rw [takeIn_of_isUnplaced unplaced, Function.iterate_fixed (Record.redrawn_eq_self_iff.mpr settled)]

/-- **A segment without a place does not leave every record alone.**  It makes one box of the
boxes around the quays, which reaches where there is no quay. -/
theorem not_forall_addLocation_of_isUnplaced :
    ¬ ∀ parent child : Record, child.IsUnplaced →
      Updater.addLocation (.footprint none) parent child = .ok parent := by
  intro all
  have merged : ((Updater.addLocation (.footprint none) quays garbled).toOption.map fun next =>
      next.text? Name.location) =
        some (some "GEOMETRYCOLLECTION (POLYGON((6 0,6 6,0 6,0 0,6 0)))") := by decide +kernel
  rw [all quays garbled (by decide +kernel)] at merged
  exact absurd merged (by decide +kernel)

end Catalog
end StreamCatalog
