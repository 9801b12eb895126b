import StreamCatalog.Proofs.Decimal.Exceptions
import StreamCatalog.Proofs.Geometry.Extents
import StreamCatalog.Proofs.Region.Enclosure

/-!
# Unions have numbers for coordinates

Laying points on a grid and taking them back is arithmetic that can overflow, and the middle of
a grid over infinite points is no number.  Still the corners of a union have numbers for
coordinates if the corners of both regions have (`IsNumeric.union`).  Where the middle and the
unit of the grid are finite, every grid point inside the box is taken back to a number.  Where
they are not, all points are laid in one column or in one row (`Grid.over_cases`), every ring
folds flat, and the union is empty.
-/

namespace StreamCatalog
namespace Region

open Float.Model (Format UnpackedFloat)
open Float.Model.UnpackedFloat
open Decimal

/-! ## Powers of two -/

/-- Bits without the greatest exponent are those of a finite number. -/
theorem isFinite_ofBits {w : UInt64} (small : w.toNat / 2 ^ 52 % 2 ^ 11 < 2047) :
    (Float.ofBits w).isFinite = true := by
  have exponent : (@unpackExponent Format.binary64 w.toBitVec).toNat =
      w.toNat / 2 ^ 52 % 2 ^ 11 := by
    rw [unpackExponent_def, BitVec.extractLsb'_toNat, Nat.shiftRight_eq_div_pow]
    rfl
  have ones : @unpackExponent Format.binary64 w.toBitVec ≠ -1#11 := by
    intro same
    rw [same] at exponent
    have all : (-1#11 : BitVec 11).toNat = 2047 := by decide
    omega
  have number : @isNaNBits Format.binary64 w.toBitVec = false :=
    decide_eq_false fun h => ones h.1
  show (UnpackedFloat.unpack Format.binary64 (UnpackedFloat.pack Format.binary64
    (UnpackedFloat.unpack Format.binary64 w.toBitVec))).isFinite = true
  rw [pack_unpack, number, if_neg Bool.false_ne_true]
  unfold UnpackedFloat.unpack
  simp only
  rw [if_neg ones]
  split
  · split <;> rfl
  · rfl

theorem isFinite_powerOfTwo {e : Int} (high : e ≤ 1023) : (powerOfTwo e).isFinite = true := by
  unfold powerOfTwo
  split
  · decide
  split
  · have short : (e + 1074).toNat < 52 := by omega
    have power : 2 ^ (e + 1074).toNat < 2 ^ 52 := Nat.pow_lt_pow_right (by decide) short
    have shift : (e + 1074).toNat.toUInt64.toNat = (e + 1074).toNat :=
      Nat.mod_eq_of_lt (by omega)
    refine isFinite_ofBits ?_
    rw [UInt64.toNat_shiftLeft, shift, Nat.mod_eq_of_lt (show (e + 1074).toNat < 64 by omega),
      Nat.shiftLeft_eq]
    show 1 * 2 ^ (e + 1074).toNat % 2 ^ 64 / 2 ^ 52 % 2 ^ 11 < 2047
    omega
  · have field : (e + 1023).toNat.toUInt64.toNat = (e + 1023).toNat :=
      Nat.mod_eq_of_lt (by omega)
    refine isFinite_ofBits ?_
    rw [UInt64.toNat_shiftLeft, field, Nat.shiftLeft_eq]
    show (e + 1023).toNat * 2 ^ 52 % 2 ^ 64 / 2 ^ 52 % 2 ^ 11 < 2047
    omega

theorem roundLog2_le (v : Float) : roundLog2 v ≤ 1025 := by
  have mantissa : (Magnitude.ofBits v.toBits).mantissa < 2 ^ 53 ∧
      (Magnitude.ofBits v.toBits).exponent ≤ 972 := by
    have low := Nat.mod_lt v.toBits.toNat (show 0 < 2 ^ 52 by decide)
    have field := Nat.mod_lt (v.toBits.toNat / 2 ^ 52) (show 0 < 2 ^ 11 by decide)
    unfold Magnitude.ofBits
    simp only [toNat_exponent_bits, toNat_mantissa_bits]
    split
    · simp only
      omega
    · simp only
      omega
  obtain ⟨places, exponent⟩ := mantissa
  have log : (Magnitude.ofBits v.toBits).mantissa.log2 ≤ 52 := by
    by_cases none : (Magnitude.ofBits v.toBits).mantissa = 0
    · rw [none]
      decide
    · exact Nat.le_of_lt_succ ((Nat.log2_lt none).mpr places)
  unfold roundLog2
  simp only
  split <;> omega

/-! ## The middle of the grid -/

section Extremes

variable {f : Point → Float} (key : Float → Int) (ahead : Float → Float → Prop) [DecidableRel ahead]

/-- Of numbers, the one that is ahead of the others is found by going through them. -/
theorem foldl_extreme (order : ∀ {x y : Float}, x.isNaN = false → y.isNaN = false →
      (ahead x y ↔ key x < key y)) {qs : List Point} {m : Float} (number : m.isNaN = false)
    (numbers : ∀ q ∈ qs, (f q).isNaN = false) :
    let l := qs.foldl (fun m q => if ahead (f q) m then f q else m) m
    l.isNaN = false ∧ key l ≤ key m ∧ ∀ q ∈ qs, key l ≤ key (f q) := by
  induction qs generalizing m with
  | nil => exact ⟨number, Int.le_refl _, nofun⟩
  | cons q qs ih =>
    obtain ⟨here, rest⟩ := List.forall_mem_cons.mp numbers
    by_cases less : ahead (f q) m
    · obtain ⟨found, le, all⟩ := ih here rest
      rw [order here number] at less
      simp only [List.foldl_cons, if_pos ((order here number).mpr less)]
      exact ⟨found, by omega, List.forall_mem_cons.mpr ⟨le, all⟩⟩
    · obtain ⟨found, le, all⟩ := ih number rest
      rw [order here number] at less
      simp only [List.foldl_cons, if_neg (mt (order here number).mp less)]
      exact ⟨found, le, List.forall_mem_cons.mpr ⟨by omega, all⟩⟩

/-- The least and the greatest value over some points. -/
theorem extremes_spec {p : Point} {rest : List Point}
    (numbers : ∀ q ∈ p :: rest, (f q).isNaN = false) :
    let least := rest.foldl (fun m q => if f q < m then f q else m) (f p)
    let greatest := rest.foldl (fun m q => if m < f q then f q else m) (f p)
    least.isNaN = false ∧ greatest.isNaN = false ∧ standing least ≤ standing greatest ∧
      ∀ q ∈ p :: rest, standing least ≤ standing (f q) ∧ standing (f q) ≤ standing greatest := by
  intro least greatest
  obtain ⟨here, others⟩ := List.forall_mem_cons.mp numbers
  obtain ⟨low, first, all⟩ : least.isNaN = false ∧ standing least ≤ standing (f p) ∧
      ∀ q ∈ rest, standing least ≤ standing (f q) :=
    foldl_extreme standing (fun x y => x < y) lt_iff here others
  obtain ⟨high, last, all'⟩ : greatest.isNaN = false ∧ -standing greatest ≤ -standing (f p) ∧
      ∀ q ∈ rest, -standing greatest ≤ -standing (f q) :=
    foldl_extreme (fun x => -standing x) (fun x y => y < x)
      (fun hx hy => (lt_iff hy hx).trans neg_lt_neg_iff.symm) here others
  refine ⟨low, high, by omega, List.forall_mem_cons.mpr ⟨by omega, fun q member => ?_⟩⟩
  have below := all q member
  have above := all' q member
  omega

end Extremes

/-- A multiple of zero is laid to the middle, whatever it is a multiple by. -/
theorem nearestWhole_mul_zero (v : Float) : nearestWhole (v * 0.0) = 0 := by
  by_cases finite : v.isFinite = true
  · rcases mul_zero_eq finite with zero | zero <;> rw [zero] <;> decide
  · rw [eq_nan (isNaN_mul_zero finite)]
    decide

/-- If the middle of a range is not finite, all numbers of the range have the same place. -/
theorem exists_place {left high scale : Float} (values : List Float) (hl : left.isNaN = false)
    (hh : high.isNaN = false) (le : standing left ≤ standing high)
    (inside : ∀ v ∈ values, v.isNaN = false ∧ standing left ≤ standing v ∧
      standing v ≤ standing high)
    (wide : (high - left) * 0.5 = 1.0 / 0.0 → scale = 0.0)
    (far : ¬ (left + (high - left) * 0.5).isFinite = true) :
    ∃ c, ∀ v ∈ values, nearestWhole ((v - (left + (high - left) * 0.5)) * scale) = c := by
  by_cases finite : high.isFinite = true ∧ left.isFinite = true
  · -- The values are finite and the middle is an infinity, so they are equally far from it.
    obtain ⟨hf, lf⟩ := finite
    have half : ((high - left) * 0.5).isNaN = false :=
      isNaN_mul_of_ne_zero (isNaN_sub hf lf) (by decide) (by decide)
    have number := isNaN_add_of_isFinite lf half
    obtain ⟨s, form⟩ := exists_unpack_eq_infinity number far
    refine ⟨nearestWhole ((⟨.pack (.infinity (-s))⟩ : Float) * scale), fun v member => ?_⟩
    obtain ⟨hv, low, top⟩ := inside v member
    have fv : v.isFinite = true := by
      rw [isFinite_iff_standing hh] at hf
      rw [isFinite_iff_standing hl] at lf
      rw [isFinite_iff_standing hv]
      omega
    rw [sub_of_infinity fv form]
  · rcases sub_eq_infinity hh hl le finite with none | some
    · refine ⟨nearestWhole Float.nan, fun v _ => ?_⟩
      have middle := isNaN_add_of_isNaN (x := left) (isNaN_mul_of_isNaN (y := 0.5) none)
      rw [eq_nan (isNaN_mul_of_isNaN (y := scale) (isNaN_sub_of_isNaN (x := v) middle))]
    · have half : (1.0 / 0.0 : Float) * 0.5 = 1.0 / 0.0 := by decide
      refine ⟨0, fun v _ => ?_⟩
      rw [wide (some ▸ half)]
      exact nearestWhole_mul_zero _

/-! ## Grids -/

theorem not_isFinite_larger {a b : Float} (wide : a = 1.0 / 0.0 ∨ b = 1.0 / 0.0) :
    ¬ (larger a b).isFinite = true := by
  have infinite : ¬ (1.0 / 0.0 : Float).isFinite = true := by decide
  unfold larger
  rcases wide with rfl | rfl
  · rw [if_neg (not_infinity_lt b)]
    exact infinite
  · split
    · exact infinite
    · next least =>
      intro finite
      have number := isNaN_of_isFinite finite
      have none : (1.0 / 0.0 : Float).isNaN = false := by decide
      rw [isFinite_iff_standing number] at finite
      rw [lt_iff number none, standing_infinity] at least
      omega

theorem isFinite_of_beq_zero {x : Float} (zero : (x == 0.0) = true) : x.isFinite = true := by
  obtain ⟨number, none⟩ := numbers_of_beq zero
  have origin : standing 0.0 = 0 := by decide
  rw [beq_iff number none, origin] at zero
  rw [isFinite_iff_standing number, zero]
  decide

/-- The scale of a grid over something that is infinitely wide or high is zero, and so it is if
its unit is not finite. -/
theorem exists_scale (x y halfWidth halfHeight : Float) :
    ∃ scale unit, (if larger halfWidth halfHeight == 0.0 then ⟨x, y, 1.0, 1.0⟩
        else if (larger halfWidth halfHeight).isFinite then
          let e := 29 - roundLog2 (larger halfWidth halfHeight)
          ⟨x, y, powerOfTwo e, powerOfTwo (-e)⟩
        else ⟨x, y, 0.0, 1.0 / 0.0⟩ : Grid) = ⟨x, y, scale, unit⟩ ∧
      (halfWidth = 1.0 / 0.0 → scale = 0.0) ∧ (halfHeight = 1.0 / 0.0 → scale = 0.0) ∧
      (unit.isFinite = true ∨ scale = 0.0) := by
  have bounded (finite : (larger halfWidth halfHeight).isFinite = true) :
      halfWidth ≠ 1.0 / 0.0 ∧ halfHeight ≠ 1.0 / 0.0 :=
    ⟨fun wide => not_isFinite_larger (.inl wide) finite,
      fun wide => not_isFinite_larger (.inr wide) finite⟩
  split
  · next zero =>
    obtain ⟨width, height⟩ := bounded (isFinite_of_beq_zero zero)
    exact ⟨1.0, 1.0, rfl, fun wide => absurd wide width, fun wide => absurd wide height,
      .inl (by decide)⟩
  split
  · next finite =>
    obtain ⟨width, height⟩ := bounded finite
    refine ⟨_, _, rfl, fun wide => absurd wide width, fun wide => absurd wide height,
      .inl (isFinite_powerOfTwo ?_)⟩
    have log := roundLog2_le (larger halfWidth halfHeight)
    omega
  · exact ⟨0.0, 1.0 / 0.0, rfl, fun _ => rfl, fun _ => rfl, .inr rfl⟩

/-- **Where a grid lies.**  Either its middle and its unit are finite, or it lays all points in
one column or all in one row. -/
theorem Grid.over_cases {ps : List Point} (numbers : ∀ p ∈ ps, p.IsNumeric) :
    ((Grid.over ps).originX.isFinite = true ∧ (Grid.over ps).originY.isFinite = true ∧
        (Grid.over ps).unit.isFinite = true) ∨
      (∃ c, ∀ p ∈ ps, ((Grid.over ps).node p).x = c) ∨
        ∃ c, ∀ p ∈ ps, ((Grid.over ps).node p).y = c := by
  match ps with
  | [] => exact .inr (.inl ⟨0, nofun⟩)
  | p :: rest =>
    let least (f : Point → Float) := rest.foldl (fun m q => if f q < m then f q else m) (f p)
    let greatest (f : Point → Float) := rest.foldl (fun m q => if m < f q then f q else m) (f p)
    let half (f : Point → Float) := (greatest f - least f) * 0.5
    obtain ⟨scale, unit, laid, wideX, wideY, narrow⟩ :=
      exists_scale (least Point.x + half Point.x) (least Point.y + half Point.y)
        (half Point.x) (half Point.y)
    have laid : Grid.over (p :: rest) =
      ⟨least Point.x + half Point.x, least Point.y + half Point.y, scale, unit⟩ := laid
    -- Along either axis: if the middle is not finite, all points are laid to one place.
    have place (f : Point → Float) (numbers : ∀ q ∈ p :: rest, (f q).isNaN = false)
        (wide : half f = 1.0 / 0.0 → scale = 0.0)
        (far : ¬ (least f + half f).isFinite = true) :
        ∃ c, ∀ q ∈ p :: rest, nearestWhole ((f q - (least f + half f)) * scale) = c := by
      obtain ⟨low, high, le, inside⟩ := extremes_spec numbers
      obtain ⟨c, same⟩ := exists_place ((p :: rest).map f) low high le
        (fun v member => by
          obtain ⟨q, point, rfl⟩ := List.mem_map.mp member
          exact ⟨numbers q point, inside q point⟩) wide far
      exact ⟨c, fun q member => same (f q) (List.mem_map_of_mem member)⟩
    rw [laid]
    by_cases inX : (least Point.x + half Point.x).isFinite = true
    · by_cases inY : (least Point.y + half Point.y).isFinite = true
      · rcases narrow with finite | zero
        · exact .inl ⟨inX, inY, finite⟩
        · refine .inr (.inl ⟨0, fun q _ => ?_⟩)
          rw [zero]
          exact nearestWhole_mul_zero _
      · exact .inr (.inr (place Point.y (fun q member => (numbers q member).y) wideY inY))
    · exact .inr (.inl (place Point.x (fun q member => (numbers q member).x) wideX inX))

/-! ## Unions -/

theorem whole_bounds (v : Float) : -2147483648 ≤ whole v ∧ whole v ≤ 2147483647 := by
  unfold whole
  split
  · decide
  · split <;> omega

/-- All points are laid to grid points of 32 bits. -/
theorem node_within (g : Grid) (p : Point) : (g.node p).Within 2147483648 := by
  have bounds (t : Float) : -2147483648 ≤ nearestWhole t ∧ nearestWhole t ≤ 2147483647 := by
    unfold nearestWhole
    split <;> exact whole_bounds _
  have x := bounds ((p.x - g.originX) * g.scale)
  have y := bounds ((p.y - g.originY) * g.scale)
  exact ⟨x.1, x.2.trans (by decide), y.1, y.2.trans (by decide)⟩

theorem isNumeric_point {g : Grid} (x : g.originX.isFinite = true) (y : g.originY.isFinite = true)
    (unit : g.unit.isFinite = true) {n : Node} (inside : n.Within 2147483648) :
    (g.point n).IsNumeric := by
  obtain ⟨left, right, low, high⟩ := inside
  have finite {m : Int} (above : -2147483648 ≤ m) (below : m ≤ 2147483648) :
      (Float.ofInt m).isFinite = true := isFinite_ofInt (by omega)
  exact ⟨isNaN_add (isNaN_mul (finite left right) unit) x,
    isNaN_add (isNaN_mul (finite low high) unit) y⟩

/-- Are all coordinates of a region's corners numbers? -/
def IsNumeric (r : Region) : Prop := ∀ ring ∈ r.allRings, ∀ p ∈ ring, p.IsNumeric

theorem isNumeric_empty : empty.IsNumeric := nofun

/-- **The corners of a union have numbers for coordinates** if those of both regions have. -/
theorem IsNumeric.union {r s : Region} (hr : r.IsNumeric) (hs : s.IsNumeric) :
    (r.union s).IsNumeric := by
  have all : ∀ p ∈ r.allRings.flatten ++ s.allRings.flatten, p.IsNumeric := by
    intro p member
    rcases List.mem_append.mp member with member | member
    · obtain ⟨ring, whole, point⟩ := List.mem_flatten.mp member
      exact hr ring whole p point
    · obtain ⟨ring, whole, point⟩ := List.mem_flatten.mp member
      exact hs ring whole p point
  have flat (line : ∀ ring : List Point,
      (∀ p ∈ ring, p ∈ r.allRings.flatten ++ s.allRings.flatten) →
        InLine (ring.map (Grid.over (r.allRings.flatten ++ s.allRings.flatten)).node)) :
      (r.union s).IsNumeric := by
    rw [union_of_flat]
    · exact isNumeric_empty
    · exact fun ring whole => straighten_of_inLine (line ring fun p point =>
        List.mem_append_left _ (List.mem_flatten.mpr ⟨ring, whole, point⟩))
    · exact fun ring whole => straighten_of_inLine (line ring fun p point =>
        List.mem_append_right _ (List.mem_flatten.mpr ⟨ring, whole, point⟩))
  rcases Grid.over_cases all with ⟨x, y, unit⟩ | ⟨c, column⟩ | ⟨c, row⟩
  · intro ring member p point
    obtain ⟨n, inside, rfl⟩ := exists_node_of_union rfl (fun _ _ p _ => node_within _ p)
      (fun _ _ p _ => node_within _ p) ring member p point
    exact isNumeric_point x y unit inside
  · refine flat fun ring inside => inLine_of_x fun n hn m hm => ?_
    obtain ⟨p, hp, rfl⟩ := List.mem_map.mp hn
    obtain ⟨q, hq, rfl⟩ := List.mem_map.mp hm
    exact (column p (inside p hp)).trans (column q (inside q hq)).symm
  · refine flat fun ring inside => inLine_of_y fun n hn m hm => ?_
    obtain ⟨p, hp, rfl⟩ := List.mem_map.mp hn
    obtain ⟨q, hq, rfl⟩ := List.mem_map.mp hm
    exact (row p (inside p hp)).trans (row q (inside q hq)).symm

end Region
end StreamCatalog
