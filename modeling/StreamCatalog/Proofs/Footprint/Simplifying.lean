import StreamCatalog.Config.Basic
import StreamCatalog.Footprint.Operator
import StreamCatalog.Proofs.Footprint.Trimming
import StreamCatalog.Proofs.Geometry.Parts
import StreamCatalog.Proofs.Wkt.Coordinates

/-!
# Simplified geometries

To simplify a geometry is to thin its lines and the rings of its polygons, at any depth.  What
holds of one line (`thin_spec`, `exists_thin_iff`) holds of all of them: simplifying gives a
geometry exactly if no area that it has to compare is something other than a number
(`exists_apply_footprint_iff`), and then the geometry is `Thinned`, and simplifying it again
changes nothing (`exists_apply_simplify`).

The rings have to be closed for that.  A ring that begins with a coordinate that is not a number
ends nowhere near its beginning, however often the beginning is repeated, so every
simplification repeats it once more (`not_forall_apply_simplify`).
-/

namespace StreamCatalog

namespace Footprint

variable {tolerance : Float} {ps qs : List Point}

/-- A polygon with every ring trimmed. -/
structure TrimmedPolygon (p p' : Polygon) : Prop where
  exterior : Trimmed p.exterior p'.exterior
  interiors : List.Forall₂ Trimmed p.interiors p'.interiors

/-- A geometry of the same kinds, nested in the same way, with every line and every ring
trimmed and everything else unchanged. -/
inductive Thinned : Geometry → Geometry → Prop
  | point (p : Point) : Thinned (.point p) (.point p)
  | line (a b : Point) : Thinned (.line a b) (.line a b)
  | lineString {ps ps' : List Point} (h : Trimmed ps ps') :
    Thinned (.lineString ps) (.lineString ps')
  | polygon {p p' : Polygon} (h : TrimmedPolygon p p') : Thinned (.polygon p) (.polygon p')
  | multiPoint (ps : List Point) : Thinned (.multiPoint ps) (.multiPoint ps)
  | multiLineString {lines lines' : List (List Point)} (h : List.Forall₂ Trimmed lines lines') :
    Thinned (.multiLineString lines) (.multiLineString lines')
  | multiPolygon {ps ps' : List Polygon} (h : List.Forall₂ TrimmedPolygon ps ps') :
    Thinned (.multiPolygon ps) (.multiPolygon ps')
  | collection {members members' : List Geometry} (h : List.Forall₂ Thinned members members') :
    Thinned (.collection members) (.collection members')
  | rect (b : Box) : Thinned (.rect b) (.rect b)
  | triangle (t : Triangle) : Thinned (.triangle t) (.triangle t)

theorem Trimmed.isClosed_eq (h : Trimmed ps qs) : isClosed qs = isClosed ps := by
  rw [isClosed, isClosed, h.head?_eq, h.getLast?_eq]

/-! ## Several at once -/

section Several

variable {α ε : Type} {f : α → Except ε α} {as bs : List α}

/-- What holds of each outcome, and of its own outcome, holds of several. -/
theorem mapM_spec {R : α → α → Prop} {C : α → Prop}
    (each : ∀ a ∈ as, ∀ b, f a = .ok b → R a b ∧ C b ∧ f b = .ok b) (done : as.mapM f = .ok bs) :
    List.Forall₂ R as bs ∧ (∀ b ∈ bs, C b) ∧ bs.mapM f = .ok bs := by
  rw [mapM_eq_ok_iff] at done ⊢
  induction done with
  | nil => exact ⟨.nil, nofun, .nil⟩
  | @cons a b as bs first _ ih =>
    obtain ⟨related, good, again⟩ := each a (List.mem_cons_self ..) b first
    obtain ⟨others, rest, more⟩ := ih fun a member => each a (List.mem_cons_of_mem _ member)
    exact ⟨.cons related others, List.forall_mem_cons.mpr ⟨good, rest⟩, .cons again more⟩

end Several

/-! ## Thinned polygons -/

variable {p p' : Polygon}

theorem thinPolygon_eq_ok_iff : thinPolygon tolerance p = .ok p' ↔
    ∃ exterior, thin tolerance p.exterior = .ok exterior ∧
      ∃ interiors, p.interiors.mapM (thin tolerance) = .ok interiors ∧
        .closing exterior interiors = p' := by
  rw [thinPolygon, bind_eq_ok_iff]
  refine exists_congr fun exterior => and_congr_right fun _ => ?_
  rw [bind_eq_ok_iff]
  exact exists_congr fun interiors => and_congr_right fun _ => ⟨Except.ok.inj, congrArg _⟩

theorem exists_thinPolygon_iff : (∃ p', thinPolygon tolerance p = .ok p') ↔
    ∀ ring ∈ p.rings, ∃ kept, thin tolerance ring = .ok kept := by
  rw [Polygon.rings, List.forall_mem_cons, ← exists_mapM_iff]
  simp only [thinPolygon_eq_ok_iff]
  constructor
  · rintro ⟨p', exterior, first, interiors, rest, -⟩
    exact ⟨⟨exterior, first⟩, interiors, rest⟩
  · rintro ⟨⟨exterior, first⟩, interiors, rest⟩
    exact ⟨_, exterior, first, interiors, rest, rfl⟩

/-- Thinning a polygon with closed rings trims the rings. -/
theorem thinPolygon_spec (closed : p.RingsClosed) (done : thinPolygon tolerance p = .ok p') :
    TrimmedPolygon p p' ∧ p'.RingsClosed ∧ thinPolygon tolerance p' = .ok p' := by
  obtain ⟨exterior, first, interiors, rest, rfl⟩ := thinPolygon_eq_ok_iff.mp done
  obtain ⟨outer, inner⟩ := List.forall_mem_cons.mp closed
  have each (ring : List Point) (closed : isClosed ring = true) (kept : List Point)
      (done : thin tolerance ring = .ok kept) :
      Trimmed ring kept ∧ isClosed kept = true ∧ thin tolerance kept = .ok kept := by
    obtain ⟨trimmed, firm⟩ := thin_spec done
    exact ⟨trimmed, trimmed.isClosed_eq.trans closed, firm.thin⟩
  obtain ⟨trimmed, closed, again⟩ := each _ outer exterior first
  obtain ⟨trimmed', closed', again'⟩ :=
    mapM_spec (fun ring member => each ring (inner ring member)) rest
  have same : Polygon.closing exterior interiors = ⟨exterior, interiors⟩ := by
    have holes : interiors.map closeRing = interiors :=
      (List.map_congr_left fun ring member => if_pos (closed' ring member)).trans (List.map_id _)
    rw [Polygon.closing, closeRing, if_pos closed, holes]
  rw [same]
  refine ⟨⟨trimmed, trimmed'⟩, List.forall_mem_cons.mpr ⟨closed, closed'⟩, ?_⟩
  exact thinPolygon_eq_ok_iff.mpr ⟨exterior, again, interiors, again', same⟩

/-! ## Thinned geometries -/

theorem thinAll_eq_mapM (gs : List Geometry) :
    thinAll tolerance gs = gs.mapM (thinGeometry tolerance) := by
  induction gs with
  | nil => rfl
  | cons g gs ih => rw [thinAll, List.mapM_cons, ih]

/-- A geometry is thinned if each of its lines and rings is. -/
theorem exists_thinGeometry_iff (g : Geometry) : (∃ h, thinGeometry tolerance g = .ok h) ↔
    ∀ line ∈ g.outlines, ∃ kept, thin tolerance line = .ok kept := by
  induction g using Geometry.induction with
  | collection members ih =>
    rw [thinGeometry, exists_map_eq_ok_iff, thinAll_eq_mapM, exists_mapM_iff,
      Geometry.forall_outlines_collection]
    exact forall₂_congr ih
  | plain g plain =>
    rw [Geometry.outlines_eq (Geometry.parts_eq_singleton plain), List.forall_mem_append,
      List.forall_mem_flatMap]
    cases g with
    | point | line | multiPoint | rect | triangle =>
      exact ⟨fun _ => ⟨nofun, nofun⟩, fun _ => ⟨_, rfl⟩⟩
    | lineString ps =>
      rw [thinGeometry, exists_map_eq_ok_iff]
      simp [Geometry.ownLines, Geometry.ownPolygons]
    | multiLineString lines =>
      rw [thinGeometry, exists_map_eq_ok_iff, exists_mapM_iff]
      simp [Geometry.ownLines, Geometry.ownPolygons]
    | polygon p =>
      rw [thinGeometry, exists_map_eq_ok_iff, exists_thinPolygon_iff]
      simp [Geometry.ownLines, Geometry.ownPolygons]
    | multiPolygon ps =>
      rw [thinGeometry, exists_map_eq_ok_iff, exists_mapM_iff]
      simp only [exists_thinPolygon_iff]
      simp [Geometry.ownLines, Geometry.ownPolygons]
    | collection members => exact absurd rfl (plain members)

/-- What thinning gives, and that thinning it again gives the same. -/
theorem thinGeometry_spec (g h : Geometry) (closed : g.RingsClosed)
    (done : thinGeometry tolerance g = .ok h) :
    Thinned g h ∧ h.RingsClosed ∧ thinGeometry tolerance h = .ok h := by
  induction g using Geometry.induction generalizing h with
  | collection members ih =>
    obtain ⟨members', all, rfl⟩ := map_eq_ok_iff.mp done
    rw [thinAll_eq_mapM] at all
    rw [Geometry.ringsClosed_collection] at closed ⊢
    obtain ⟨thinned, closed, again⟩ := mapM_spec (C := Geometry.RingsClosed)
      (fun g member h => ih g member h (closed g member)) all
    refine ⟨.collection thinned, closed, map_eq_ok_iff.mpr ⟨members', ?_, rfl⟩⟩
    rwa [thinAll_eq_mapM]
  | plain g plain =>
    rw [Geometry.ringsClosed_iff (Geometry.parts_eq_singleton plain)] at closed
    have none {g : Geometry} (single : g.parts = [g]) (none : g.ownPolygons = []) :
        g.RingsClosed := by
      rw [Geometry.ringsClosed_iff single, none]
      exact nofun
    cases g with
    | point p => cases done; exact ⟨.point p, none rfl rfl, rfl⟩
    | line a b => cases done; exact ⟨.line a b, none rfl rfl, rfl⟩
    | multiPoint ps => cases done; exact ⟨.multiPoint ps, none rfl rfl, rfl⟩
    | rect b => cases done; exact ⟨.rect b, none rfl rfl, rfl⟩
    | triangle t => cases done; exact ⟨.triangle t, none rfl rfl, rfl⟩
    | lineString ps =>
      obtain ⟨kept, thinned, rfl⟩ := map_eq_ok_iff.mp done
      obtain ⟨trimmed, firm⟩ := thin_spec thinned
      exact ⟨.lineString trimmed, none rfl rfl, map_eq_ok_iff.mpr ⟨kept, firm.thin, rfl⟩⟩
    | multiLineString lines =>
      obtain ⟨kept, thinned, rfl⟩ := map_eq_ok_iff.mp done
      obtain ⟨trimmed, -, again⟩ := mapM_spec (R := Trimmed) (C := fun _ => True)
        (fun line _ kept thinned =>
          ⟨(thin_spec thinned).1, trivial, (thin_spec thinned).2.thin⟩) thinned
      exact ⟨.multiLineString trimmed, none rfl rfl, map_eq_ok_iff.mpr ⟨kept, again, rfl⟩⟩
    | polygon p =>
      obtain ⟨p', thinned, rfl⟩ := map_eq_ok_iff.mp done
      obtain ⟨trimmed, closed, again⟩ :=
        thinPolygon_spec (closed p (List.mem_singleton_self p)) thinned
      exact ⟨.polygon trimmed, (Geometry.ringsClosed_iff rfl).mpr
        (List.forall_mem_singleton.mpr closed), map_eq_ok_iff.mpr ⟨p', again, rfl⟩⟩
    | multiPolygon ps =>
      obtain ⟨ps', thinned, rfl⟩ := map_eq_ok_iff.mp done
      obtain ⟨trimmed, closed, again⟩ :=
        mapM_spec (fun p member p' => thinPolygon_spec (closed p member)) thinned
      exact ⟨.multiPolygon trimmed, (Geometry.ringsClosed_iff rfl).mpr closed,
        map_eq_ok_iff.mpr ⟨ps', again, rfl⟩⟩
    | collection members => exact absurd rfl (plain members)

/-- **Simplifying a footprint.**  Where all areas that it comes across are numbers and all rings
are closed, simplifying keeps the kinds and the nesting, trims every line and every ring, leaves
everything else as it is, and done again changes nothing. -/
theorem exists_apply_simplify (tolerance : Float) (g : Geometry) (closed : g.RingsClosed)
    (numbers : ∀ line ∈ g.outlines, ∀ a b c, Meets tolerance line a b c →
      (triangleArea a b c).isNaN = false) :
    ∃ h, (Operator.simplify tolerance).apply g = .ok h ∧ Thinned g h ∧ h.RingsClosed ∧
      (Operator.simplify tolerance).apply h = .ok h := by
  have each : ∀ line ∈ g.outlines, ∃ kept, thin tolerance line = .ok kept := fun line member =>
    exists_thin_iff.mpr fun _ => numbers line member
  obtain ⟨h, done⟩ := (exists_thinGeometry_iff g).mpr each
  have simplify (g : Geometry) :
      (Operator.simplify tolerance).apply g = thinGeometry tolerance g := by
    rw [Operator.apply]
  simp only [simplify]
  exact ⟨h, done, thinGeometry_spec g h closed done⟩

/-- A harbour: a quay with a bend that does not matter, deep in the collection, and a basin. -/
def harbour : Geometry :=
  .collection [.point ⟨7, 7⟩,
    .collection [.lineString [⟨0, 0⟩, ⟨1, 0.1⟩, ⟨2, 0⟩, ⟨3, 5⟩, ⟨4, 0⟩]],
    .polygon ⟨[⟨0, 0⟩, ⟨9, 0⟩, ⟨9, 9⟩, ⟨0, 9⟩, ⟨0, 0⟩], []⟩]

theorem exists_apply_simplify_harbour :
    harbour.RingsClosed ∧
      (∀ line ∈ harbour.outlines, ∀ a b c, Meets 1.0 line a b c →
        (triangleArea a b c).isNaN = false) ∧
      ∃ h, (Operator.simplify 1.0).apply harbour = .ok h ∧ Thinned harbour h ∧ h.RingsClosed ∧
        (Operator.simplify 1.0).apply h = .ok h := by
  have closed : harbour.RingsClosed := by
    have all : ∀ part ∈ harbour.parts, ∀ p ∈ part.ownPolygons, ∀ ring ∈ p.rings,
        isClosed ring = true := by decide
    exact all
  have numbers : ∀ line ∈ harbour.outlines, ∀ a b c, Meets 1.0 line a b c →
      (triangleArea a b c).isNaN = false := by
    have done : ∀ line ∈ harbour.outlines,
        line.length ≠ 3 ∧ (thin 1.0 line).toOption.isSome = true := by decide +kernel
    intro line member
    obtain ⟨long, some⟩ := done line member
    cases thinned : thin 1.0 line with
    | error e => exact nomatch thinned ▸ some
    | ok kept => exact exists_thin_iff.mp ⟨kept, thinned⟩ long
  exact ⟨closed, numbers, exists_apply_simplify 1.0 harbour closed numbers⟩

/-- A polygon whose ring begins with a coordinate that is not a number. -/
def adrift : Geometry := .polygon ⟨[⟨Float.nan, 0⟩, ⟨1, 1⟩, ⟨2, 2⟩, ⟨Float.nan, 0⟩], []⟩

/-- With rings that are not closed it is not true that rings are only trimmed. -/
theorem not_forall_apply_simplify :
    ¬ ∀ (tolerance : Float) (g : Geometry),
      (∀ line ∈ g.outlines, ∀ a b c, Meets tolerance line a b c →
        (triangleArea a b c).isNaN = false) →
      ∃ h, (Operator.simplify tolerance).apply g = .ok h ∧ Thinned g h ∧
        (Operator.simplify tolerance).apply h = .ok h := by
  intro all
  have zero : (0.0 : Float) ≤ 0.0 := by decide
  obtain ⟨h, done, thinned, -⟩ := all 0.0 adrift fun line _ a b c meets => by
    cases meets with
    | first positive | later positive => exact absurd zero positive
  have longer : thinGeometry 0.0 adrift = .ok (.polygon
      ⟨[⟨Float.nan, 0⟩, ⟨1, 1⟩, ⟨2, 2⟩, ⟨Float.nan, 0⟩, ⟨Float.nan, 0⟩], []⟩) := by
    rw [adrift, thinGeometry, map_eq_ok_iff]
    exact ⟨_, thinPolygon_eq_ok_iff.mpr ⟨_, if_pos zero, [], rfl, by decide⟩, rfl⟩
  rw [Operator.apply, longer] at done
  cases done
  cases thinned with
  | polygon trimmed => exact absurd trimmed.exterior.sublist.length_le (by decide)

/-- When the operator for footprints gives a geometry, and when it breaks down. -/
theorem exists_apply_footprint_iff (tolerance : Float) (g : Geometry) :
    (∃ h, (Operator.footprint (some tolerance)).apply g = .ok h) ↔
      ∀ line ∈ (toEnvelopes g).outlines, line.length ≠ 3 → ∀ a b c, Meets tolerance line a b c →
        (triangleArea a b c).isNaN = false := by
  have steps : (Operator.footprint (some tolerance)).apply g =
      thinGeometry tolerance (toEnvelopes g) := by
    simp only [Operator.footprint, Option.map_some, Option.toList_some, Operator.apply,
      Operator.applyAll]
    change (thinGeometry tolerance (toEnvelopes g) >>= .ok) = _
    cases thinGeometry tolerance (toEnvelopes g) <;> rfl
  rw [steps, exists_thinGeometry_iff]
  exact forall₂_congr fun line _ => exists_thin_iff

/-- A line with finite coordinates, so long that the areas overflow. -/
def equator : Geometry := .lineString [⟨0, 0⟩, ⟨1e200, 1e200⟩, ⟨2e200, 3e200⟩, ⟨3e200, 1⟩]

/-- It is not true that there is a footprint for every text and every tolerance. -/
theorem not_forall_exists_apply_footprint :
    ¬ ∀ (text : String) (g : Geometry) (tolerance : Float), Wkt.parse text = .ok g →
      Config.isTolerance tolerance = true →
        ∃ h, (Operator.footprint (some tolerance)).apply g = .ok h := by
  intro all
  have finite : ∀ p ∈ equator.points, p.x.isFinite = true ∧ p.y.isFinite = true := by
    decide +kernel
  obtain ⟨h, done⟩ := all (Wkt.render equator) equator 1.0
    (Wkt.parse_render_of_isFinite (g := equator) (by decide) finite) (by decide)
  have first : Meets 1.0 [⟨0, 0⟩, ⟨1e200, 1e200⟩, ⟨2e200, 3e200⟩, ⟨3e200, 1⟩]
      ⟨0, 0⟩ ⟨1e200, 1e200⟩ ⟨2e200, 3e200⟩ :=
    .first (by decide) ⟨[], [⟨3e200, 1⟩], rfl⟩
  have number := (exists_apply_footprint_iff 1.0 equator).mp ⟨h, done⟩ _
    (List.mem_singleton_self _) (by decide) _ _ _ first
  have overflow : (triangleArea ⟨0, 0⟩ ⟨1e200, 1e200⟩ ⟨2e200, 3e200⟩).isNaN = true := by
    decide +kernel
  exact Bool.false_ne_true (number.symm.trans overflow)

end Footprint
end StreamCatalog
