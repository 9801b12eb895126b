import StreamCatalog.Proofs.Decimal.ReadBack
import StreamCatalog.Proofs.Wkt.RoundTrip

/-!
# Which coordinates can be shown

A coordinate is shown by a number token if its text begins like a number, holds no delimiter and
is read as the coordinate.  Every finite number is (`isShown_of_isFinite`).  Of the others only
negative infinity is, because its text begins with a minus sign; the texts of infinity and of
what is not a number are words.
-/

namespace StreamCatalog
namespace Wkt

open Decimal (isDigit)

/-! ## Finite coordinates -/

theorem isDelimiter_of_isDigit {c : Char} (digit : isDigit c = true) : isDelimiter c = false := by
  refine Bool.eq_false_iff.mpr fun delimiter => ?_
  simp only [isDelimiter, isSpace, Bool.or_eq_true, decide_eq_true_eq, or_assoc] at delimiter
  rcases delimiter with rfl | rfl | rfl | rfl | rfl | rfl | rfl | rfl <;>
    exact absurd digit (by decide)

/-- The token of a number whose text is read as it. -/
theorem scans_of_read {x : Float} {c : Char} {run : List Char}
    (inside : ∀ d ∈ c :: run, isDelimiter d = false) (starts : startsNumber c = true)
    (unsigned : c ≠ '+') (read : Decimal.read? (c :: run) = some x) :
    Scans (c :: run) [.number x] := by
  have scanned := scans_run inside
  rwa [Token.ofRun, if_pos starts, if_neg unsigned, read] at scanned

/-- What a legible layout writes for a finite number is scanned as the number. -/
theorem scans_of_legible {l : Decimal.Layout} (legible : l.Legible) {x : Float}
    (finite : x.isFinite = true) : Scans (l.write x) [.number x] := by
  obtain ⟨c, run, text, first, rest⟩ := legible.write_eq_cons finite
  have read := legible.read?_write finite
  rw [text] at read ⊢
  have starts : startsNumber c = true := by
    rcases first with digit | rfl
    · rw [startsNumber, digit]
      rfl
    · decide
  have inside : ∀ d ∈ ['.', 'e', '-'], isDelimiter d = false := inside_of_all (by decide)
  refine scans_of_read ?_ starts ?_ read
  · intro d member
    rcases List.mem_cons.mp member with rfl | later
    · rcases first with digit | rfl
      · exact isDelimiter_of_isDigit digit
      · decide
    · exact (rest d later).elim isDelimiter_of_isDigit (inside d)
  · rintro rfl
    rcases first with digit | minus
    · exact absurd digit (by decide)
    · exact absurd minus (by decide)

theorem isShown_of_isFinite {x : Float} (finite : x.isFinite = true) : IsShown x :=
  scans_of_legible Decimal.legible_plain finite

/-- A finite number equals itself. -/
theorem beq_of_isFinite {x : Float} (finite : x.isFinite = true) : (x == x) = true := by
  rw [Float.beq_self_iff]
  rintro rfl
  exact absurd finite (by decide)

/-! ## Negative infinity -/

theorem isShown_negativeInfinity : IsShown (-(1.0 / 0.0)) := by
  have text : Decimal.Layout.plain.write (-(1.0 / 0.0)) = '-' :: "inf".toList := by decide
  rw [IsShown, text]
  exact scans_of_read (inside_of_all (by decide)) (by decide) (by decide) (by decide)

/-- Can a coordinate be shown?  A finite one can, and negative infinity can. -/
def Showable (x : Float) : Prop := x.isFinite = true ∨ x = -(1.0 / 0.0)

instance (x : Float) : Decidable (Showable x) :=
  inferInstanceAs (Decidable (x.isFinite = true ∨ x = -(1.0 / 0.0)))

theorem Showable.isShown {x : Float} (h : Showable x) : IsShown x := by
  rcases h with finite | rfl
  · exact isShown_of_isFinite finite
  · exact isShown_negativeInfinity

theorem Showable.beq {x : Float} (h : Showable x) : (x == x) = true := by
  rcases h with finite | rfl
  · exact beq_of_isFinite finite
  · decide

end Wkt

/-- Can both coordinates of a point be shown? -/
structure Point.Showable (p : Point) : Prop where
  x : Wkt.Showable p.x
  y : Wkt.Showable p.y

instance (p : Point) : Decidable p.Showable :=
  decidable_of_iff (Wkt.Showable p.x ∧ Wkt.Showable p.y)
    ⟨fun h => ⟨h.1, h.2⟩, fun h => ⟨h.x, h.y⟩⟩

theorem Point.Showable.isShown {p : Point} (h : p.Showable) : Wkt.PointIsShown p :=
  ⟨h.x.isShown, h.y.isShown⟩

theorem Point.Showable.meets {p : Point} (h : p.Showable) : p.meets p = true := by
  rw [Point.meets, h.x.beq, h.y.beq]
  rfl

namespace Wkt

/-! ## The round trip -/

/-- **Geometry text is read back.**  Whatever is written for a regular geometry with finite
coordinates is read as the plain form of the geometry. -/
theorem parse_render_of_isFinite {g : Geometry} (regular : g.Regular)
    (finite : ∀ p ∈ g.points, p.x.isFinite = true ∧ p.y.isFinite = true) :
    parse (render g) = .ok g.plainForm := by
  refine parse_render regular fun p member => ?_
  obtain ⟨x, y⟩ := finite p member
  have showable : p.Showable := ⟨Or.inl x, Or.inl y⟩
  exact ⟨showable.isShown, showable.meets⟩

/-- A geometry of all ten kinds, with numbers large and small and with empty members. -/
def atlas : Geometry :=
  .collection [.point ⟨-0.0, 5e-324⟩, .line ⟨0.1, 1e22⟩ ⟨-2.5, 1.7976931348623157e308⟩,
    .lineString [], .polygon ⟨[⟨0, 0⟩, ⟨9, 0⟩, ⟨0, 9⟩, ⟨0, 0⟩], [[⟨1, 1⟩, ⟨2, 1⟩, ⟨1, 2⟩, ⟨1, 1⟩]]⟩,
    .multiPoint [⟨1, 2⟩], .multiLineString [[⟨1, 2⟩, ⟨3, 4⟩], [⟨5, 6⟩]],
    .multiPolygon [⟨[⟨0, 0⟩, ⟨1, 0⟩, ⟨0, 0⟩], []⟩],
    .collection [.rect ⟨0, 0.001, 1, 2⟩, .collection [], .triangle ⟨⟨0, 0⟩, ⟨1, 0⟩, ⟨0, 1⟩⟩],
    .polygon ⟨[], []⟩]

theorem parse_render_of_isFinite_atlas :
    atlas.Regular ∧ (∀ p ∈ atlas.points, p.x.isFinite = true ∧ p.y.isFinite = true) ∧
      parse (render atlas) = .ok atlas.plainForm := by
  have regular : atlas.Regular := by decide
  have finite : ∀ p ∈ atlas.points, p.x.isFinite = true ∧ p.y.isFinite = true := by
    decide +kernel
  exact ⟨regular, finite, parse_render_of_isFinite regular finite⟩

end Wkt
end StreamCatalog
