import StreamCatalog.Proofs.Decimal.Marked
import StreamCatalog.Proofs.Wkt.Collections

/-!
# What a builder puts together

A builder is given polygons by their coordinates and geometries, in any order, and its text is
read by a grammar that knows neither call.  The two kinds of parts are even written differently:
the points of a polygon in the marked layout and with a space behind every comma, the leaves of a
geometry in the plain layout and without.

`Assembled` says what comes of a sequence of calls.  Coordinates are rejected for three reasons
(`Unfit`) and otherwise taken; a call that is rejected leaves the builder as it was; and the text
is empty if nothing was added, and otherwise read as the collection of what each call has added,
call by call.  The main statement is `assembled_of_calls`.

The invariant behind it is that the parts are read, one by one, as the geometries that have been
added so far.  It is kept by every call (`forall₂_reads_serve`), and so by all of them.
-/

namespace StreamCatalog
namespace Wkt

/-! ## Coordinates -/

/-- The coordinates of points, one after the other. -/
def coordinatesOf (ps : List Point) : List Float := ps.flatMap fun p => [p.x, p.y]

/-- No coordinate is lost or moved if they are taken in pairs. -/
theorem coordinatesOf_pairs : {coordinates : List Float} → coordinates.length % 2 = 0 →
    coordinatesOf (Builder.pairs coordinates) = coordinates
  | [], _ => rfl
  | [_], even => absurd even Nat.one_ne_zero
  | x :: y :: rest, even => by
    have even : rest.length % 2 = 0 := by
      rw [List.length_cons, List.length_cons] at even
      omega
    rw [Builder.pairs, coordinatesOf, List.flatMap_cons]
    show x :: y :: coordinatesOf (Builder.pairs rest) = _
    rw [coordinatesOf_pairs even]

/-- Do coordinates make no polygon?  One may be missing at the end, there may be fewer than three
pairs, or one of them is not finite. -/
def Unfit (coordinates : List Float) : Prop :=
  coordinates.length % 2 = 1 ∨ coordinates.length < 6 ∨ ∃ x ∈ coordinates, x.isFinite = false

instance (coordinates : List Float) : Decidable (Unfit coordinates) :=
  inferInstanceAs (Decidable (_ ∨ _ ∨ _))

/-- Unfit coordinates are rejected, and all others make a part. -/
theorem cases_of_addPolygon (b : Builder) (coordinates : List Float) :
    Unfit coordinates ∧ (∃ e, b.addPolygon coordinates = .error e) ∨
      ¬ Unfit coordinates ∧
        b.addPolygon coordinates = .ok ⟨b.parts ++ [.ring (Builder.pairs coordinates)]⟩ := by
  unfold Builder.addPolygon
  by_cases odd : coordinates.length % 2 ≠ 0
  · rw [if_pos odd]
    exact Or.inl ⟨Or.inl (by omega), _, rfl⟩
  rw [if_neg odd]
  by_cases few : coordinates.length < 6
  · rw [if_pos few]
    exact Or.inl ⟨Or.inr (Or.inl few), _, rfl⟩
  rw [if_neg few]
  cases found : coordinates.find? (!·.isFinite) with
  | some x =>
    have infinite : x.isFinite = false := by
      have here := List.find?_some found
      rwa [Bool.not_eq_true'] at here
    exact Or.inl ⟨Or.inr (Or.inr ⟨x, List.mem_of_find?_eq_some found, infinite⟩), _, rfl⟩
  | none =>
    refine Or.inr ⟨?_, rfl⟩
    rintro (wrong | wrong | ⟨x, member, infinite⟩)
    · omega
    · exact few wrong
    · have here := List.find?_eq_none.mp found x member
      rw [infinite] at here
      exact here rfl

/-- The points of coordinates that make a polygon are finite, and there are some. -/
theorem pairs_of_fit {coordinates : List Float} (fit : ¬ Unfit coordinates) :
    coordinatesOf (Builder.pairs coordinates) = coordinates ∧ Builder.pairs coordinates ≠ [] ∧
      ∀ p ∈ Builder.pairs coordinates, p.x.isFinite = true ∧ p.y.isFinite = true := by
  have even : coordinates.length % 2 = 0 := by
    by_contra odd
    exact fit (Or.inl (by omega))
  have whole := coordinatesOf_pairs even
  have finite (x : Float) (member : x ∈ coordinates) : x.isFinite = true := by
    by_contra infinite
    exact fit (Or.inr (Or.inr ⟨x, member, Bool.eq_false_iff.mpr infinite⟩))
  refine ⟨whole, fun none => ?_, fun p member => ?_⟩
  · rw [none] at whole
    exact fit (Or.inr (Or.inl (by rw [← whole]; decide)))
  · have both : ∀ x ∈ [p.x, p.y], x ∈ coordinates := by
      intro x here
      rw [← whole]
      exact List.mem_flatMap.mpr ⟨p, member, here⟩
    exact ⟨finite _ (both _ List.mem_cons_self),
      finite _ (both _ (List.mem_cons_of_mem _ List.mem_cons_self))⟩

/-! ## Polygons from coordinates -/

/-- The two coordinates of a point, in the marked layout. -/
def writeMarked (p : Point) : List Char :=
  Decimal.Layout.marked.write p.x ++ ' ' :: Decimal.Layout.marked.write p.y

theorem write_ring (ps : List Point) : (Part.ring ps).write = Shape.polygon.keyword ++
    ' ' :: inParens (inParens ([',', ' '].intercalate (ps.map writeMarked))) := by
  have opened : "POLYGON ((".toList = Shape.polygon.keyword ++ [' ', '(', '('] := by decide
  have closed : "))".toList = [')', ')'] := by decide
  show "POLYGON ((".toList ++ [',', ' '].intercalate (ps.map writeMarked) ++ "))".toList = _
  rw [opened, closed, inParens, inParens]
  simp only [List.append_assoc, List.cons_append, List.nil_append]

theorem scans_writeMarked {p : Point} (finite : p.x.isFinite = true ∧ p.y.isFinite = true) :
    Scans (writeMarked p) (pointTokens p) :=
  (scans_of_legible Decimal.legible_marked finite.1).append
    (scans_of_legible Decimal.legible_marked finite.2).behindSpace
    fun _ _ => delimited_cons (by decide) _

/-- The text of a ring of finite points is scanned as the tokens of a polygon. -/
theorem scans_ring {ps : List Point}
    (finite : ∀ p ∈ ps, p.x.isFinite = true ∧ p.y.isFinite = true) :
    Scans (Part.ring ps).write (headed .polygon ([ps].map pointsTokens)) := by
  have points := scans_intercalate fun p member => scans_writeMarked (finite p member)
  rw [write_ring]
  exact (scans_keyword .polygon).append points.inParens.inParens.behindSpace
    fun _ _ => delimited_cons (by decide) _

/-- The text of a ring of finite points is read as the polygon that the ring bounds. -/
theorem reads_ring {ps : List Point} (filled : ps ≠ [])
    (finite : ∀ p ∈ ps, p.x.isFinite = true ∧ p.y.isFinite = true) :
    (Part.ring ps).Reads (.polygon (.closing ps [])) :=
  reads_of_scans (scans_ring finite) fun rest =>
    member_yields_headed (body_polygon_of_rings (List.forall_mem_singleton.mpr filled) rest)

/-! ## Calls -/

/-- What a builder is asked to add. -/
inductive Call where
  /-- The polygon with these coordinates. -/
  | polygon (coordinates : List Float)
  /-- All leaves of a geometry. -/
  | geometry (g : Geometry)

namespace Call

/-- Is a call to be rejected? -/
def Rejected : Call → Prop
  | .polygon coordinates => Unfit coordinates
  | .geometry _ => False

instance : (call : Call) → Decidable call.Rejected
  | .polygon coordinates => inferInstanceAs (Decidable (Unfit coordinates))
  | .geometry _ => .isFalse not_false

/-- Can what a call adds be shown?  Coordinates are checked when they are given.  Every leaf of a
geometry must have finite coordinates, nothing empty inside it, and closed rings, which polygons
have from the start. -/
def Showable : Call → Prop
  | .polygon _ => True
  | .geometry g => ∀ leaf ∈ g.leaves,
      leaf.Regular ∧ ∀ p ∈ leaf.points, p.x.isFinite = true ∧ p.y.isFinite = true

instance : (call : Call) → Decidable call.Showable
  | .polygon _ => .isTrue trivial
  | .geometry g => inferInstanceAs (Decidable (∀ leaf ∈ g.leaves,
      leaf.Regular ∧ ∀ p ∈ leaf.points, p.x.isFinite = true ∧ p.y.isFinite = true))

/-- What a call adds, as it is read back: the polygon whose outer ring is made of the pairs of
coordinates, closed if it is open, or the leaves of the geometry in their plain forms. -/
def members : Call → List Geometry
  | .polygon coordinates =>
    if Unfit coordinates then [] else [.polygon (.closing (Builder.pairs coordinates) [])]
  | .geometry g => g.leaves.map Geometry.plainForm

end Call

namespace Builder

/-- Make a call: the builder as it is afterwards, and the error if the call is rejected. -/
def serve (b : Builder) : Call → Builder × Option Error
  | .polygon coordinates =>
    match b.addPolygon coordinates with
    | .ok added => (added, none)
    | .error e => (b, some e)
  | .geometry g => (b.addGeometry g, none)

/-- Make several calls, one after the other. -/
def serveAll (b : Builder) : List Call → Builder × List (Option Error)
  | [] => (b, [])
  | call :: calls =>
    let (served, answer) := b.serve call
    let (last, answers) := served.serveAll calls
    (last, answer :: answers)

variable {b : Builder}

theorem serveAll_append (before after : List Call) :
    (b.serveAll (before ++ after)).1 = ((b.serveAll before).1.serveAll after).1 := by
  induction before generalizing b with
  | nil => rfl
  | cons call calls ih => exact ih

/-- How a call with coordinates ends. -/
theorem cases_of_serve_polygon (b : Builder) (coordinates : List Float) :
    Unfit coordinates ∧ (∃ e, b.serve (.polygon coordinates) = (b, some e)) ∨
      ¬ Unfit coordinates ∧ b.serve (.polygon coordinates) =
        (⟨b.parts ++ [.ring (pairs coordinates)]⟩, none) := by
  rcases cases_of_addPolygon b coordinates with ⟨unfit, e, rejected⟩ | ⟨fit, taken⟩
  · exact Or.inl ⟨unfit, e, by rw [serve, rejected]⟩
  · exact Or.inr ⟨fit, by rw [serve, taken]⟩

/-- How a call ends. -/
theorem cases_of_serve (b : Builder) (call : Call) :
    call.Rejected ∧ (∃ e, b.serve call = (b, some e)) ∨
      ¬ call.Rejected ∧ ∃ added, b.serve call = (added, none) := by
  cases call with
  | geometry g => exact Or.inr ⟨not_false, _, rfl⟩
  | polygon coordinates =>
    rcases cases_of_serve_polygon b coordinates with rejected | ⟨fit, taken⟩
    · exact Or.inl rejected
    · exact Or.inr ⟨fit, _, taken⟩

/-- The calls that are rejected are those that are to be. -/
theorem isSome_answers (calls : List Call) :
    (b.serveAll calls).2.map Option.isSome = calls.map fun call => decide call.Rejected := by
  induction calls generalizing b with
  | nil => rfl
  | cons call calls ih =>
    show (b.serve call).2.isSome :: ((b.serve call).1.serveAll calls).2.map Option.isSome = _
    rw [ih, List.map_cons]
    congr 1
    rcases cases_of_serve b call with ⟨rejected, e, eq⟩ | ⟨taken, added, eq⟩
    · rw [eq, decide_eq_true rejected]
      rfl
    · rw [eq, decide_eq_false taken]
      rfl

/-! ## What is added is read -/

/-- What a call adds is read, if it can be shown ... -/
theorem forall₂_reads_serve {gs : List Geometry} {call : Call} (showable : call.Showable)
    (reads : List.Forall₂ Part.Reads b.parts gs) :
    List.Forall₂ Part.Reads (b.serve call).1.parts (gs ++ call.members) := by
  cases call with
  | geometry g =>
    refine List.rel_append reads (reads_leaves fun leaf member => ?_)
    obtain ⟨regular, finite⟩ := showable leaf member
    exact ⟨regular, fun p here => ⟨Or.inl (finite p here).1, Or.inl (finite p here).2⟩⟩
  | polygon coordinates =>
    rw [Call.members]
    rcases cases_of_serve_polygon b coordinates with ⟨unfit, e, rejected⟩ | ⟨fit, taken⟩
    · rw [rejected, if_pos unfit, List.append_nil]
      exact reads
    · obtain ⟨-, filled, finite⟩ := pairs_of_fit fit
      rw [taken, if_neg fit]
      exact List.rel_append reads (.cons (reads_ring filled finite) .nil)

/-- ... and so is what several calls add. -/
theorem forall₂_reads_serveAll {gs : List Geometry} {calls : List Call}
    (showable : ∀ call ∈ calls, call.Showable) (reads : List.Forall₂ Part.Reads b.parts gs) :
    List.Forall₂ Part.Reads (b.serveAll calls).1.parts (gs ++ calls.flatMap Call.members) := by
  induction calls generalizing b gs with
  | nil =>
    rw [List.flatMap_nil, List.append_nil]
    exact reads
  | cons call calls ih =>
    have first := forall₂_reads_serve (showable call List.mem_cons_self) reads
    rw [List.flatMap_cons, ← List.append_assoc]
    exact ih (fun later member => showable later (List.mem_cons_of_mem _ member)) first

end Builder

/-- Nothing is added by coordinates that are rejected and by geometries without leaves. -/
theorem flatMap_members_eq_nil {calls : List Call} : calls.flatMap Call.members = [] ↔
    (∀ coordinates, .polygon coordinates ∈ calls → Unfit coordinates) ∧
      ∀ g, .geometry g ∈ calls → g.leaves = [] := by
  rw [List.flatMap_eq_nil_iff]
  constructor
  · refine fun none => ⟨fun coordinates member => ?_, fun g member => ?_⟩
    · by_contra fit
      have here := none _ member
      rw [Call.members, if_neg fit] at here
      exact List.cons_ne_nil _ _ here
    · exact List.map_eq_nil_iff.mp (none _ member)
  · rintro ⟨polygons, geometries⟩ (coordinates | g) member
    · exact if_pos (polygons coordinates member)
    · exact List.map_eq_nil_iff.mpr (geometries g member)

/-! ## The whole -/

/-- What comes of calls of a builder that had no parts. -/
structure Assembled (calls : List Call) (b : Builder) (answers : List (Option Error)) : Prop where
  /-- Unfit coordinates are rejected, and nothing else is. -/
  answers : answers.map Option.isSome = calls.map fun call => decide call.Rejected
  /-- A call that is rejected leaves the builder as it was. -/
  kept : ∀ before call after, calls = before ++ call :: after → call.Rejected →
    (Builder.serveAll {} (before ++ [call])).1 = (Builder.serveAll {} before).1
  /-- The outer ring of a polygon has the coordinates that were given, in their order. -/
  coordinates : ∀ given, .polygon given ∈ calls → ¬ Unfit given →
    coordinatesOf (Builder.pairs given) = given
  /-- The text is empty if nothing was added, and only then. -/
  empty : b.render = "" ↔ (∀ given, .polygon given ∈ calls → Unfit given) ∧
    ∀ g, .geometry g ∈ calls → g.leaves = []
  /-- Otherwise it is read as the collection of everything that was added. -/
  whole : b.render ≠ "" → parse b.render = .ok (.collection (calls.flatMap Call.members))

/-- **What is put together is read back**, call by call. -/
theorem assembled_of_calls {calls : List Call} (showable : ∀ call ∈ calls, call.Showable) :
    Assembled calls (Builder.serveAll {} calls).1 (Builder.serveAll {} calls).2 := by
  have reads : List.Forall₂ Part.Reads (Builder.serveAll {} calls).1.parts
      (calls.flatMap Call.members) := Builder.forall₂_reads_serveAll showable .nil
  refine {
    answers := Builder.isSome_answers calls
    kept := fun before call after split rejected => ?_
    coordinates := fun given _ fit => (pairs_of_fit fit).1
    empty := ?_
    whole := fun some => ?_ }
  · rw [Builder.serveAll_append]
    rcases Builder.cases_of_serve (Builder.serveAll {} before).1 call with
      ⟨-, e, eq⟩ | ⟨taken, -⟩
    · show (Builder.serve _ call).1 = _
      rw [eq]
    · exact absurd rejected taken
  · rw [Builder.render_eq_empty, ← flatMap_members_eq_nil]
    constructor
    · intro none
      rw [none] at reads
      exact List.forall₂_nil_left_iff.mp reads
    · intro none
      rw [none] at reads
      exact List.forall₂_nil_right_iff.mp reads
  · exact Builder.parse_render_of_reads reads fun none => some (Builder.render_eq_empty.mpr none)

/-- Calls of both kinds: numbers in full and with exponents, an open ring and a closed one,
coordinates that are rejected for each of the three reasons, and geometries that lose their empty
members. -/
def survey : List Call :=
  [.polygon [0, -0.0, 1e16, 2.5, 1.5e-7, -3], .polygon [1, 2, 3, 4, 5, 6, 7],
    .geometry (.collection [.line ⟨0.1, 1e22⟩ ⟨-2.5, 5e-324⟩, .polygon ⟨[], []⟩,
      .collection [.rect ⟨0, 0.001, 1, 2⟩, .lineString []]]),
    .polygon [1, 2, 3, 4], .polygon [0, 0, 1, 0, 1, 1.0 / 0.0],
    .polygon [0, 0, 9, 0, 0, 9, 0, 0], .geometry (.multiLineString [[]]),
    .geometry (.triangle ⟨⟨0, 0⟩, ⟨1, 0⟩, ⟨0, 1⟩⟩)]

theorem assembled_of_calls_survey : (∀ call ∈ survey, call.Showable) ∧
    Assembled survey (Builder.serveAll {} survey).1 (Builder.serveAll {} survey).2 := by
  have showable : ∀ call ∈ survey, call.Showable := by decide +kernel
  exact ⟨showable, assembled_of_calls showable⟩

end Wkt
end StreamCatalog
