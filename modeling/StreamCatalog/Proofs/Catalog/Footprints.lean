import StreamCatalog.Catalog.Updater
import StreamCatalog.Proofs.Footprint.Coverage
import StreamCatalog.Proofs.Wkt.Collections

/-!
# What becomes of the footprints of segments

A stream's record takes in the footprints of its segments one after the other.  Areas are merged
into boxes as they come, but points and lines are to be kept, each of them and in the order in
which they came.  `Record.Covers` says so of a record, together with the condition that its
location can be read again.

The record does not always do this.  The location is a text, the next update begins by reading
it, and a location that cannot be read counts as none.  Not everything that can be read can be
written so that it is read again, so one line without points in a segment's footprint is enough
for all footprints before the next one to be dropped (`not_forall_covers`).

## When nothing is dropped

As long as every point and line of the segments can be restored from its text, and every box
that is made of their areas has corners that can be shown, the record covers the segments after
every update (`covers_of_restorable`).  Nothing has to be assumed of the points and lines that
the record already holds: covering the segments before, it holds theirs and no others.  The
boxes are another matter.  They are computed in floating-point numbers, and a box around finite
corners may have infinite ones.
-/

namespace StreamCatalog

/-! ## Reducing leaves -/

namespace Footprint

variable {members : List Geometry}

theorem leaves_toEnvelopes (leaves : ∀ g ∈ members, g.leaves = [g]) :
    (toEnvelopes (.collection members)).leaves =
      members.filter (!·.isPolygonal) ++ boxes members := by
  rw [toEnvelopes_collection, Geometry.leaves]
  refine Geometry.leavesOf_of_leaves fun g member => ?_
  rcases List.mem_append.mp member with kept | box
  · exact leaves g (List.mem_of_mem_filter kept)
  · obtain ⟨b, -, rfl⟩ := List.mem_map.mp box
    exact Geometry.leaves_box b

/-- A box is an area ... -/
theorem filter_boxes (members : List Geometry) : (boxes members).filter (!·.isPolygonal) = [] := by
  refine List.filter_eq_nil_iff.mpr fun g member => ?_
  obtain ⟨b, -, rfl⟩ := List.mem_map.mp member
  exact Bool.false_ne_true

/-- ... and is written as what it is. -/
theorem plainForm_of_mem_boxes {g : Geometry} (member : g ∈ boxes members) : g.plainForm = g := by
  obtain ⟨b, -, rfl⟩ := List.mem_map.mp member
  rfl

/-- A box can be restored if its corners can be shown. -/
theorem restorable_of_mem_boxes {g : Geometry} (member : g ∈ boxes members)
    (showable : ∀ p ∈ g.points, p.Showable) : g.Restorable := by
  obtain ⟨b, -, rfl⟩ := List.mem_map.mp member
  exact ⟨Box.regular_polygon fun p corner => (showable p corner).meets, showable⟩

end Footprint

namespace Catalog

open Footprint (boxes toEnvelopes)

/-! ## Reading and writing a location -/

theorem leaves_of_mem_leavesAt {location : Option String} {g : Geometry}
    (member : g ∈ leavesAt location) : g.leaves = [g] ∧ g.plainForm = g := by
  unfold leavesAt at member
  split at member
  · cases member
  · split at member
    · rename_i read
      exact ⟨Geometry.leaves_of_mem_leaves member,
        Geometry.plainForm_of_mem_leaves (Wkt.plainForm_of_parse read) member⟩
    · cases member

/-- A builder writes the empty text only if there is nothing to write. -/
theorem isEmpty_render_addGeometry (g : Geometry) :
    (Wkt.Builder.addGeometry {} g).render.isEmpty = g.leaves.isEmpty := by
  rw [Bool.eq_iff_iff, String.isEmpty_iff, Wkt.Builder.render_eq_empty, List.isEmpty_iff,
    Wkt.Builder.addGeometry]
  exact List.map_eq_nil_iff

/-- Of a geometry only the leaves are written. -/
theorem addGeometry_eq_of_leaves {g h : Geometry} (same : g.leaves = h.leaves) :
    Wkt.Builder.addGeometry {} g = Wkt.Builder.addGeometry {} h := by
  rw [Wkt.Builder.addGeometry, same, Wkt.Builder.addGeometry]

/-- What the location becomes if no tolerance is given. -/
theorem locationText?_footprint (members : List Geometry) :
    locationText? (.footprint none) members =
      .ok (if (toEnvelopes (.collection members)).leaves.isEmpty then none
        else some (Wkt.Builder.addGeometry {} (toEnvelopes (.collection members))).render) := by
  have applied : (Footprint.Operator.footprint none).apply (.collection members) =
      .ok (toEnvelopes (.collection members)) := by
    rw [Footprint.Operator.footprint, Footprint.Operator.apply]
    rfl
  rw [← isEmpty_render_addGeometry, locationText?, applied]
  rfl

/-! ## The footprint of a record -/

namespace Record

/-- The leaves of a record's location. -/
def footprint (r : Record) : List Geometry := leavesAt (r.text? Name.location)

/-- The points and lines of a record's location, in order. -/
def marks (r : Record) : List Geometry := r.footprint.filter (!·.isPolygonal)

/-- The footprints of two records in one, the areas among them reduced to boxes. -/
def joined (parent child : Record) : Geometry :=
  toEnvelopes (.collection (parent.footprint ++ child.footprint))

/-- Is a record without a location, or can the location be read? -/
def IsReadable (r : Record) : Prop :=
  ∀ text, r.text? Name.location = some text → ∃ g, Wkt.parse text = .ok g

/-- Can the location be read, and are its points and lines those of the segments? -/
structure Covers (r : Record) (segments : List Record) : Prop where
  readable : r.IsReadable
  marks : r.marks = segments.flatMap Record.marks

theorem text?_set (r : Record) (name text : String) :
    (r.set name (.text text)).text? name = some text := by
  rw [text?, values?_set, if_pos rfl]
  rfl

end Record

/-! ## One update -/

section

variable {parent child : Record} {segments : List Record}

/-- A segment without points and lines is covered as it is. -/
theorem Record.Covers.unchanged (covers : parent.Covers segments) (none : child.marks = []) :
    parent.Covers (segments ++ [child]) := by
  refine ⟨covers.readable, ?_⟩
  rw [List.flatMap_append, List.flatMap_singleton, none, List.append_nil, covers.marks]

/-- The leaves of what is written: the points and lines of both records, then the boxes. -/
theorem leaves_joined (parent child : Record) :
    (parent.joined child).leaves =
      (parent.marks ++ child.marks) ++ boxes (parent.footprint ++ child.footprint) := by
  have leaves : ∀ g ∈ parent.footprint ++ child.footprint, g.leaves = [g] := by
    intro g member
    rcases List.mem_append.mp member with here | there
    · exact (leaves_of_mem_leavesAt here).1
    · exact (leaves_of_mem_leavesAt there).1
  rw [Record.joined, Footprint.leaves_toEnvelopes leaves, List.filter_append]
  rfl

/-- All of them are written as what they are. -/
theorem plainForms_joined (parent child : Record) :
    (parent.joined child).leaves.map Geometry.plainForm = (parent.joined child).leaves := by
  refine Wkt.map_eq_self fun g member => ?_
  rw [leaves_joined] at member
  rcases List.mem_append.mp member with mark | box
  · rcases List.mem_append.mp mark with here | there
    · exact (leaves_of_mem_leavesAt (List.mem_of_mem_filter here)).2
    · exact (leaves_of_mem_leavesAt (List.mem_of_mem_filter there)).2
  · exact Footprint.plainForm_of_mem_boxes box

/-- The points and lines in what is written are those of both records. -/
theorem marks_joined (parent child : Record) :
    (parent.joined child).leaves.filter (!·.isPolygonal) = parent.marks ++ child.marks := by
  have twice (r : Record) : r.marks.filter (!·.isPolygonal) = r.marks := by
    rw [Record.marks, List.filter_filter]
    simp only [Bool.and_self]
  rw [leaves_joined, List.filter_append, List.filter_append, twice, twice, Footprint.filter_boxes,
    List.append_nil]

theorem parse_joined (written : (parent.joined child).leaves ≠ [])
    (restorable : ∀ g ∈ (parent.joined child).leaves, g.Restorable) :
    Wkt.parse (Wkt.Builder.addGeometry {} (parent.joined child)).render =
      .ok (.collection (parent.joined child).leaves) := by
  have read := Wkt.parse_render_addGeometry written restorable
  rwa [plainForms_joined] at read

/-- What is written is read back. -/
theorem footprint_set_joined (written : (parent.joined child).leaves ≠ [])
    (restorable : ∀ g ∈ (parent.joined child).leaves, g.Restorable) :
    (parent.set Name.location (.text (Wkt.Builder.addGeometry {}
      (parent.joined child)).render)).footprint = (parent.joined child).leaves := by
  rw [Record.footprint, Record.text?_set, leavesAt]
  simp only [parse_joined written restorable]
  rw [Geometry.leaves]
  exact Geometry.leavesOf_of_leaves fun g member => Geometry.leaves_of_mem_leaves member

/-- What is written can be read, and its points and lines are those of both records. -/
theorem Record.Covers.set (covers : parent.Covers segments)
    (written : (parent.joined child).leaves ≠ [])
    (marks : ∀ g ∈ parent.marks ++ child.marks, g.Restorable)
    (areas : ∀ g ∈ boxes (parent.footprint ++ child.footprint), ∀ p ∈ g.points, p.Showable) :
    (parent.set Name.location (.text (Wkt.Builder.addGeometry {}
      (parent.joined child)).render)).Covers (segments ++ [child]) := by
  have restorable : ∀ g ∈ (parent.joined child).leaves, g.Restorable := by
    rw [leaves_joined]
    exact List.forall_mem_append.mpr ⟨marks, fun g member =>
      Footprint.restorable_of_mem_boxes member (areas g member)⟩
  constructor
  · intro text found
    rw [Record.text?_set, Option.some.injEq] at found
    exact ⟨_, found ▸ parse_joined written restorable⟩
  · rw [Record.marks, footprint_set_joined written restorable, marks_joined, covers.marks,
      List.flatMap_append, List.flatMap_singleton]

/-- What an update does if the segment has a location: nothing, if nothing is to be written. -/
theorem addLocation_of_location {text : String} (location : child.text? Name.location = some text) :
    Updater.addLocation (.footprint none) parent child =
      .ok (if (parent.joined child).leaves.isEmpty then parent
        else parent.set Name.location
          (.text (Wkt.Builder.addGeometry {} (parent.joined child)).render)) := by
  have members : leavesAt (parent.text? Name.location) ++ leavesAt (some text) =
      parent.footprint ++ child.footprint := by
    rw [Record.footprint, Record.footprint, location]
  rw [Updater.addLocation, location, Record.joined]
  simp only [members]
  split
  · rename_i none
    rw [none]
    rfl
  · rw [locationText?_footprint]
    split <;> rfl

/-- **An update keeps the footprint.**  If a record covers some segments, it covers one more
after the update with that one's record, provided that all points and lines can be restored and
the corners of the boxes can be shown. -/
theorem Record.Covers.addLocation (covers : parent.Covers segments)
    (marks : ∀ g ∈ parent.marks ++ child.marks, g.Restorable)
    (areas : ∀ g ∈ boxes (parent.footprint ++ child.footprint), ∀ p ∈ g.points, p.Showable) :
    ∃ next, Updater.addLocation (.footprint none) parent child = .ok next ∧
      next.Covers (segments ++ [child]) := by
  cases location : child.text? Name.location with
  | none =>
    have unlocated : child.marks = [] := by
      rw [Record.marks, Record.footprint, location]
      rfl
    refine ⟨parent, ?_, covers.unchanged unlocated⟩
    rw [Updater.addLocation, location]
    rfl
  | some text =>
    refine ⟨_, addLocation_of_location location, ?_⟩
    split
    · rename_i nothing
      rw [List.isEmpty_iff, leaves_joined, List.append_eq_nil_iff,
        List.append_eq_nil_iff] at nothing
      exact covers.unchanged nothing.1.2
    · rename_i something
      exact covers.set (fun nothing => something (List.isEmpty_iff.mpr nothing)) marks areas

end

/-! ## All updates -/

/-- A stream's record after it has taken in the footprints of some segments. -/
def takeIn (parent : Record) (segments : List Record) : Except Breakdown Record :=
  segments.foldlM (Updater.addLocation (.footprint none)) parent

/-- Can the corners of all boxes be shown that are written while a record takes in some
segments? -/
def BoxesShowable (parent : Record) : List Record → Prop
  | [] => True
  | child :: later =>
    (∀ g ∈ boxes (parent.footprint ++ child.footprint), ∀ p ∈ g.points, p.Showable) ∧
      ∀ next, Updater.addLocation (.footprint none) parent child = .ok next →
        BoxesShowable next later

/-- It is found out by taking them in. -/
def decideBoxesShowable (parent : Record) :
    (segments : List Record) → Decidable (BoxesShowable parent segments)
  | [] => .isTrue trivial
  | child :: later =>
    match step : Updater.addLocation (.footprint none) parent child with
    | .ok next =>
      have := decideBoxesShowable next later
      decidable_of_iff ((∀ g ∈ boxes (parent.footprint ++ child.footprint),
          ∀ p ∈ g.points, p.Showable) ∧ BoxesShowable next later)
        ⟨fun h => ⟨h.1, fun _ same => Except.ok.inj (step.symm.trans same) ▸ h.2⟩,
          fun h => ⟨h.1, h.2 next step⟩⟩
    | .error _ =>
      decidable_of_iff (∀ g ∈ boxes (parent.footprint ++ child.footprint),
          ∀ p ∈ g.points, p.Showable)
        ⟨fun h => ⟨h, fun _ same => nomatch step.symm.trans same⟩, fun h => h.1⟩

instance (parent : Record) (segments : List Record) : Decidable (BoxesShowable parent segments) :=
  decideBoxesShowable parent segments

/-- A record that covers some segments goes on to cover those that it takes in. -/
theorem Record.Covers.takeIn {parent : Record} {segments later : List Record}
    (covers : parent.Covers segments) (marks : ∀ r ∈ segments ++ later, ∀ g ∈ r.marks, g.Restorable)
    (areas : BoxesShowable parent later) :
    ∃ last, Catalog.takeIn parent later = .ok last ∧ last.Covers (segments ++ later) := by
  induction later generalizing parent segments with
  | nil => exact ⟨parent, rfl, by rwa [List.append_nil]⟩
  | cons child later ih =>
    have both : ∀ g ∈ parent.marks ++ child.marks, g.Restorable := by
      rw [covers.marks]
      refine List.forall_mem_append.mpr ⟨fun g member => ?_, marks child (by simp)⟩
      obtain ⟨r, before, here⟩ := List.mem_flatMap.mp member
      exact marks r (List.mem_append_left _ before) g here
    obtain ⟨next, step, onward⟩ := covers.addLocation both areas.1
    rw [List.append_cons] at marks
    obtain ⟨last, run, all⟩ := ih onward marks (areas.2 next step)
    refine ⟨last, ?_, ?_⟩
    · rw [Catalog.takeIn, List.foldlM_cons, step]
      exact run
    · rwa [List.append_cons]

theorem BoxesShowable.of_prefix {parent : Record} {earlier segments : List Record}
    (areas : BoxesShowable parent segments) (before : earlier <+: segments) :
    BoxesShowable parent earlier := by
  induction earlier generalizing parent segments with
  | nil => trivial
  | cons child earlier ih =>
    obtain ⟨later, rfl⟩ := before
    exact ⟨areas.1, fun next step => ih (areas.2 next step) (List.prefix_append earlier later)⟩

/-- **No footprint is dropped.**  If all points and lines of the segments can be restored from
their texts, and the corners of all boxes that are made on the way can be shown, a record that
starts without a location covers the segments that it has taken in, after every update. -/
theorem covers_of_restorable {parent : Record} {segments : List Record}
    (unlocated : parent.text? Name.location = none)
    (marks : ∀ r ∈ segments, ∀ g ∈ r.marks, g.Restorable)
    (areas : BoxesShowable parent segments) :
    ∀ earlier, earlier <+: segments →
      ∃ last, takeIn parent earlier = .ok last ∧ last.Covers earlier := by
  intro earlier before
  have start : parent.Covers [] := by
    constructor
    · intro text found
      rw [unlocated] at found
      exact nomatch found
    · rw [Record.marks, Record.footprint, unlocated]
      rfl
  exact start.takeIn (fun r member => marks r (before.subset member)) (areas.of_prefix before)

/-- The record of a segment with a location. -/
def located (location : String) : Record :=
  (Record.blank ⟨0, by decide⟩).set Name.location (.text location)

/-- A record without a location. -/
def unlocated : Record := .blank ⟨0, by decide⟩

/-- Segments with areas, with nested footprints, with a coordinate that is not finite, and
without a location. -/
def voyage : List Record :=
  [located "GEOMETRYCOLLECTION(POINT(1 2),POLYGON((0 0,4 0,4 4,0 0)))", unlocated,
    located "GEOMETRYCOLLECTION(GEOMETRYCOLLECTION(LINESTRING(0 0,1 1)),POINT(-1e400 0))"]

theorem covers_of_restorable_voyage :
    unlocated.text? Name.location = none ∧ (∀ r ∈ voyage, ∀ g ∈ r.marks, g.Restorable) ∧
      BoxesShowable unlocated voyage ∧
      ∀ earlier, earlier <+: voyage →
        ∃ last, takeIn unlocated earlier = .ok last ∧ last.Covers earlier := by
  have none : unlocated.text? Name.location = none := rfl
  have marks : ∀ r ∈ voyage, ∀ g ∈ r.marks, g.Restorable := by decide +kernel
  have areas : BoxesShowable unlocated voyage := by decide +kernel
  exact ⟨none, marks, areas, covers_of_restorable none marks areas⟩

/-! ## What is dropped -/

/-- Segments with a line without points among several, and with a point. -/
def wreck : List Record := [located "MULTILINESTRING((0 0,1 1),EMPTY)", located "POINT(3 4)"]

/-- Both locations can be read. -/
theorem exists_geometry_of_mem_wreck : ∀ r ∈ wreck, ∃ text g,
    r.text? Name.location = some text ∧ Wkt.parse text = .ok g := by
  have read : ∀ r ∈ wreck, ∀ text ∈ r.text? Name.location,
      (Wkt.parse text).toOption.isSome = true := by decide +kernel
  intro r member
  have location : ∃ text, r.text? Name.location = some text := by
    rcases List.mem_cons.mp member with rfl | member
    · exact ⟨_, rfl⟩
    · rw [List.mem_singleton.mp member]
      exact ⟨_, rfl⟩
  obtain ⟨text, located⟩ := location
  have read := read r member text located
  cases parsed : Wkt.parse text with
  | ok g => exact ⟨text, g, located, parsed⟩
  | error e =>
    rw [parsed] at read
    exact nomatch read

/-- **It is not enough that all locations can be read.**  The record that has taken in `wreck`
holds the point only: the text for the lines could not be read again. -/
theorem not_forall_covers :
    ¬ ∀ (parent : Record) (segments : List Record), parent.text? Name.location = none →
      (∀ r ∈ segments, ∃ text g, r.text? Name.location = some text ∧ Wkt.parse text = .ok g) →
      ∀ earlier, earlier <+: segments →
        ∃ last, takeIn parent earlier = .ok last ∧ last.Covers earlier := by
  intro all
  obtain ⟨last, run, covers⟩ := all unlocated wreck rfl exists_geometry_of_mem_wreck wreck
    List.prefix_rfl
  have left : ((takeIn unlocated wreck).toOption.all fun last => last.marks.length = 1) = true := by
    decide +kernel
  rw [run] at left
  have one : last.marks.length = 1 := of_decide_eq_true left
  have two : (wreck.flatMap Record.marks).length = 2 := by decide +kernel
  rw [covers.marks, two] at one
  exact absurd one (by decide)

end Catalog
end StreamCatalog
