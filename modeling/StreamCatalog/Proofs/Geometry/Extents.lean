import StreamCatalog.Geometry.Measure
import StreamCatalog.Proofs.Decimal.Ordering

/-!
# Bounding boxes

The box around points whose coordinates are numbers is `Orderly`: its sides are numbers, the
lower before the upper.  It holds all the points (`around?_spec`), and no smaller box does, for
each of its sides is reached by one of them (`fits_of_around?`).  A box that covers another
one holds whatever that one holds (`Box.Holds.of_covers`), and an orderly box covers itself.

## Boxes that are read back

The box around the outline of a box is that box again (`Proper.box?_polygon`).  This needs no
numbers.  The two ends of a range are taken from the points, and the upper one changes only if
it rises and the lower one only if it sinks; so they are one float, or the lower one is less than
the upper one, and this is enough for the outline to be read as it was written.  Two zeros of
different signs, for which it is not enough, never come up as the ends of one range.
-/

namespace StreamCatalog

open Decimal

/-- Are both coordinates numbers? -/
structure Point.IsNumeric (p : Point) : Prop where
  x : p.x.isNaN = false
  y : p.y.isNaN = false

instance (p : Point) : Decidable p.IsNumeric :=
  decidable_of_iff (p.x.isNaN = false ∧ p.y.isNaN = false)
    ⟨fun h => ⟨h.1, h.2⟩, fun h => ⟨h.x, h.y⟩⟩

/-! ## Ranges -/

/-- Is a range one of numbers, the lower end first? -/
structure IsRange (range : Float × Float) : Prop where
  low : range.1.isNaN = false
  high : range.2.isNaN = false
  le : standing range.1 ≤ standing range.2

variable {range : Float × Float} {v : Float}

/-- A range that is widened by a number holds it, and what it held before. -/
theorem widen_spec (isRange : IsRange range) (number : v.isNaN = false) :
    IsRange (widen range v) ∧
      (standing (widen range v).1 ≤ standing range.1 ∧
        standing range.2 ≤ standing (widen range v).2) ∧
      standing (widen range v).1 ≤ standing v ∧ standing v ≤ standing (widen range v).2 := by
  obtain ⟨low, high, le⟩ := isRange
  unfold widen
  split
  · next above =>
    rw [lt_iff high number] at above
    exact ⟨⟨low, number, by simp only; omega⟩, by simp only; omega, by simp only; omega⟩
  · next notAbove =>
    rw [lt_iff high number] at notAbove
    split
    · next below =>
      rw [lt_iff number low] at below
      exact ⟨⟨number, high, by simp only; omega⟩, by simp only; omega, by simp only; omega⟩
    · next notBelow =>
      rw [lt_iff number low] at notBelow
      exact ⟨⟨low, high, le⟩, by omega, by omega⟩

theorem foldl_widen_spec {f : Point → Float} {qs : List Point} (isRange : IsRange range)
    (numbers : ∀ q ∈ qs, (f q).isNaN = false) :
    let wide := qs.foldl (fun range q => widen range (f q)) range
    IsRange wide ∧ (standing wide.1 ≤ standing range.1 ∧ standing range.2 ≤ standing wide.2) ∧
      ∀ q ∈ qs, standing wide.1 ≤ standing (f q) ∧ standing (f q) ≤ standing wide.2 := by
  induction qs generalizing range with
  | nil => exact ⟨isRange, ⟨le_refl _, le_refl _⟩, nofun⟩
  | cons q qs ih =>
    obtain ⟨here, rest⟩ := List.forall_mem_cons.mp numbers
    obtain ⟨next, ⟨low, high⟩, inside⟩ := widen_spec isRange here
    obtain ⟨wide, ⟨low', high'⟩, all⟩ := ih next rest
    refine ⟨wide, ⟨low'.trans low, high.trans high'⟩, List.forall_mem_cons.mpr ⟨?_, all⟩⟩
    exact ⟨low'.trans inside.1, inside.2.trans high'⟩

/-- The ends of a range are in order already. -/
theorem ordered_spec (isRange : IsRange range) :
    let ends := ordered range.1 range.2
    IsRange ends ∧ standing ends.1 = standing range.1 ∧ standing ends.2 = standing range.2 := by
  obtain ⟨low, high, le⟩ := isRange
  unfold ordered
  split
  · exact ⟨⟨low, high, le⟩, rfl, rfl⟩
  · next notLess =>
    rw [lt_iff low high] at notLess
    have same : standing range.1 = standing range.2 := by omega
    exact ⟨⟨high, low, same.ge⟩, same.symm, same⟩

/-- The range of one coordinate over some points. -/
theorem ends_spec {f : Point → Float} {p : Point} {ps : List Point}
    (numbers : ∀ q ∈ p :: ps, (f q).isNaN = false) :
    let wide := ps.foldl (fun range q => widen range (f q)) (f p, f p)
    let ends := ordered wide.1 wide.2
    ends.1 ≤ ends.2 ∧ ∀ q ∈ p :: ps, ends.1 ≤ f q ∧ f q ≤ ends.2 := by
  intro wide ends
  obtain ⟨here, rest⟩ := List.forall_mem_cons.mp numbers
  have single : IsRange (f p, f p) := ⟨here, here, le_refl _⟩
  obtain ⟨isRange, first, all⟩ := foldl_widen_spec single rest
  obtain ⟨⟨low, high, le⟩, left, right⟩ := ordered_spec isRange
  refine ⟨(le_iff low high).mpr le, fun q member => ?_⟩
  have number := numbers q member
  have inside : standing wide.1 ≤ standing (f q) ∧ standing (f q) ≤ standing wide.2 := by
    rcases List.mem_cons.mp member with rfl | member
    · exact first
    · exact all q member
  exact ⟨(le_iff low number).mpr (left.le.trans inside.1),
    (le_iff number high).mpr (inside.2.trans right.ge)⟩

/-- Whatever holds of both ends of a range and of some values, holds of the ends after it was
widened by these. -/
theorem ends_of_foldl_widen {P : Float → Prop} {f : Point → Float} {qs : List Point}
    (low : P range.1) (high : P range.2) (values : ∀ q ∈ qs, P (f q)) :
    let wide := qs.foldl (fun range q => widen range (f q)) range
    P wide.1 ∧ P wide.2 := by
  induction qs generalizing range with
  | nil => exact ⟨low, high⟩
  | cons q qs ih =>
    obtain ⟨here, rest⟩ := List.forall_mem_cons.mp values
    have next : P (widen range (f q)).1 ∧ P (widen range (f q)).2 := by
      unfold widen
      split
      · exact ⟨low, here⟩
      · split
        · exact ⟨here, high⟩
        · exact ⟨low, high⟩
    exact ih next.1 next.2 rest

/-- Each end of the range of one coordinate is that coordinate of a point. -/
theorem ends_reached (f : Point → Float) (p : Point) (ps : List Point) :
    let wide := ps.foldl (fun range q => widen range (f q)) (f p, f p)
    let ends := ordered wide.1 wide.2
    (∃ q ∈ p :: ps, f q = ends.1) ∧ ∃ q ∈ p :: ps, f q = ends.2 := by
  intro wide ends
  have reached (q : Point) (member : q ∈ p :: ps) : ∃ r ∈ p :: ps, f r = f q := ⟨q, member, rfl⟩
  have first := reached p List.mem_cons_self
  obtain ⟨low, high⟩ : (∃ q ∈ p :: ps, f q = wide.1) ∧ ∃ q ∈ p :: ps, f q = wide.2 :=
    ends_of_foldl_widen (P := fun v => ∃ q ∈ p :: ps, f q = v) first first
      fun q member => reached q (List.mem_cons_of_mem p member)
  unfold ends ordered
  split
  · exact ⟨low, high⟩
  · exact ⟨high, low⟩

/-! ## Ranges that are read back -/

/-- Are two floats the same, or is the first one less? -/
def Sides (low high : Float) : Prop := low = high ∨ low < high

theorem sides_widen (sides : Sides range.1 range.2) :
    Sides (widen range v).1 (widen range v).2 := by
  unfold widen
  split
  · next above =>
    rcases sides with same | less
    · exact .inr (same ▸ above)
    · exact .inr (float_lt_trans less above)
  · split
    · next below =>
      rcases sides with same | less
      · exact .inr (same ▸ below)
      · exact .inr (float_lt_trans below less)
    · exact sides

theorem sides_foldl_widen {f : Point → Float} {qs : List Point} (sides : Sides range.1 range.2) :
    let wide := qs.foldl (fun range q => widen range (f q)) range
    Sides wide.1 wide.2 := by
  induction qs generalizing range with
  | nil => exact sides
  | cons q qs ih => exact ih (sides_widen sides)

namespace Sides

variable {low high : Float}

/-- They are in order already. -/
theorem ordered_eq (sides : Sides low high) : ordered low high = (low, high) := by
  unfold ordered
  split
  · rfl
  · next notLess => rw [sides.resolve_right notLess]

theorem not_lt (sides : Sides low high) : ¬ high < low := by
  rcases sides with rfl | less
  · exact float_lt_irrefl low
  · exact fun more => float_lt_irrefl low (float_lt_trans less more)

/-- The upper end is widened by the lower one to the whole range ... -/
theorem widen_low (sides : Sides low high) : widen (high, high) low = (low, high) := by
  unfold widen
  rw [if_neg sides.not_lt]
  split
  · rfl
  · next notLess => rw [sides.resolve_right notLess]

/-- ... as is the lower end by the upper one, ... -/
theorem widen_high (sides : Sides low high) : widen (low, low) high = (low, high) := by
  unfold widen
  split
  · rfl
  · next notLess =>
    rw [if_neg sides.not_lt, sides.resolve_right notLess]

/-- ... and the whole range is not widened any more. -/
theorem widen_again (sides : Sides low high) :
    widen (low, high) low = (low, high) ∧ widen (low, high) high = (low, high) := by
  unfold widen
  constructor
  · rw [if_neg sides.not_lt, if_neg (float_lt_irrefl low)]
  · rw [if_neg (float_lt_irrefl high), if_neg sides.not_lt]

theorem widen_self (v : Float) : widen (v, v) v = (v, v) :=
  widen_low (.inl rfl)

end Sides

/-! ## Boxes -/

namespace Box

/-- Are the sides numbers, the lower before the upper? -/
structure Orderly (b : Box) : Prop where
  x : b.minX ≤ b.maxX
  y : b.minY ≤ b.maxY

/-- Does a box hold a point, sides included? -/
structure Holds (b : Box) (p : Point) : Prop where
  left : b.minX ≤ p.x
  right : p.x ≤ b.maxX
  low : b.minY ≤ p.y
  high : p.y ≤ b.maxY

variable {b c : Box} {p : Point}

/-- **The box around points** that are numbers is orderly and holds them. -/
theorem around?_spec {ps : List Point} (numbers : ∀ p ∈ ps, p.IsNumeric)
    (found : around? ps = some b) : b.Orderly ∧ ∀ p ∈ ps, b.Holds p := by
  match ps with
  | [] => exact nomatch found
  | p :: ps =>
    obtain ⟨x, inX⟩ := ends_spec (f := Point.x) fun q member => (numbers q member).x
    obtain ⟨y, inY⟩ := ends_spec (f := Point.y) fun q member => (numbers q member).y
    cases found
    exact ⟨⟨x, y⟩, fun q member =>
      ⟨(inX q member).1, (inX q member).2, (inY q member).1, (inY q member).2⟩⟩

/-- Is a box the least one around some points: it holds all of them, and each of its sides is
reached by one? -/
structure Fits (b : Box) (ps : List Point) : Prop where
  holds : ∀ p ∈ ps, b.Holds p
  left : ∃ p ∈ ps, p.x = b.minX
  right : ∃ p ∈ ps, p.x = b.maxX
  low : ∃ p ∈ ps, p.y = b.minY
  high : ∃ p ∈ ps, p.y = b.maxY

theorem fits_of_around? {ps : List Point} (numbers : ∀ p ∈ ps, p.IsNumeric)
    (found : around? ps = some b) : b.Fits ps := by
  have holds := (around?_spec numbers found).2
  match ps with
  | [] => exact nomatch found
  | p :: ps =>
    obtain ⟨left, right⟩ := ends_reached Point.x p ps
    obtain ⟨low, high⟩ := ends_reached Point.y p ps
    cases found
    exact ⟨holds, left, right, low, high⟩

theorem exists_around? {ps : List Point} (points : ps ≠ []) : ∃ b, around? ps = some b := by
  cases ps with
  | nil => exact absurd rfl points
  | cons p ps => exact ⟨_, rfl⟩

theorem covers_iff : b.covers c = true ↔
    b.minX ≤ c.minX ∧ b.minY ≤ c.minY ∧ c.maxX ≤ b.maxX ∧ c.maxY ≤ b.maxY := by
  unfold covers
  rw [Bool.and_eq_true, Bool.and_eq_true, Bool.and_eq_true, decide_eq_true_iff,
    decide_eq_true_iff, decide_eq_true_iff, decide_eq_true_iff, and_assoc, and_assoc]

theorem Orderly.covers_self (orderly : b.Orderly) : b.covers b = true := by
  obtain ⟨minX, maxX⟩ := numbers_of_le orderly.x
  obtain ⟨minY, maxY⟩ := numbers_of_le orderly.y
  exact covers_iff.mpr ⟨float_le_refl minX, float_le_refl minY, float_le_refl maxX,
    float_le_refl maxY⟩

theorem Holds.of_covers (holds : c.Holds p) (covers : b.covers c = true) : b.Holds p := by
  obtain ⟨left, low, right, high⟩ := covers_iff.mp covers
  exact ⟨float_le_trans left holds.left, float_le_trans holds.right right,
    float_le_trans low holds.low, float_le_trans holds.high high⟩

/-- The outline of an orderly box is closed. -/
theorem Orderly.isClosed_ring (orderly : b.Orderly) : isClosed b.ring = true := by
  have maxX : b.maxX ≠ Float.nan := by simpa using (numbers_of_le orderly.x).2
  have minY : b.minY ≠ Float.nan := by simpa using (numbers_of_le orderly.y).1
  show (b.maxX == b.maxX && b.minY == b.minY) = true
  rw [Float.beq_self_iff.mpr maxX, Float.beq_self_iff.mpr minY]
  rfl

/-- So the polygon of an orderly box has five corners. -/
theorem Orderly.polygon_eq (orderly : b.Orderly) : b.polygon = ⟨b.ring, []⟩ := by
  rw [polygon, Polygon.closing, closeRing_of_isClosed orderly.isClosed_ring, List.map_nil]

/-! ### Reading a box back -/

/-- Is a box one that can be around points? -/
structure Proper (b : Box) : Prop where
  x : Sides b.minX b.maxX
  y : Sides b.minY b.maxY

theorem proper_of_around? {ps : List Point} (found : around? ps = some b) : b.Proper := by
  match ps with
  | [] => exact nomatch found
  | p :: ps =>
    have sides (f : Point → Float) :
        let wide := ps.foldl (fun range q => widen range (f q)) (f p, f p)
        let ends := ordered wide.1 wide.2
        Sides ends.1 ends.2 := by
      intro wide ends
      have sides : Sides wide.1 wide.2 := sides_foldl_widen (.inl rfl)
      unfold ends
      rw [sides.ordered_eq]
      exact sides
    cases found
    exact ⟨sides Point.x, sides Point.y⟩

/-- **The box around a box is that box.** -/
theorem Proper.box?_polygon (proper : b.Proper) : b.polygon.box? = some b := by
  obtain ⟨x, y⟩ := proper
  have corners (ps : List Point) (again : ps = [] ∨ ps = [⟨b.maxX, b.minY⟩]) :
      around? (b.ring ++ ps) = some b := by
    rcases again with rfl | rfl <;>
      simp only [ring, around?, List.cons_append, List.nil_append, List.foldl_cons,
        List.foldl_nil, Sides.widen_self, x.widen_low, x.widen_again, y.widen_high,
        y.widen_again, ofCorners, x.ordered_eq, y.ordered_eq]
  show around? (closeRing b.ring) = some b
  unfold closeRing
  split
  · exact List.append_nil b.ring ▸ corners [] (.inl rfl)
  · exact corners _ (.inr rfl)

end Box
end StreamCatalog
