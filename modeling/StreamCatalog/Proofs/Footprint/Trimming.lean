import StreamCatalog.Proofs.Footprint.Elimination

/-!
# Thinned lines

What holds of the loop that drops vertices is taken from numbered vertices back to points.  A
line that is thinned loses vertices, but neither end, and it is left `Firm`: either the
tolerance asks for nothing, or every triangle of three neighbours is above it (`thin_spec`).  A
firm line is not changed by thinning it (`Firm.thin`).

Thinning compares areas, and an area that is not a number cannot be compared.  `Meets` lists the
triangles that thinning comes across, and there is a thinned line exactly if their areas are
numbers (`exists_thin_iff`).
-/

namespace StreamCatalog
namespace Footprint

open Decimal

variable {tolerance : Float} {ps qs kept : List Point} {a b c : Point}

/-! ## Weights and tolerances -/

/-- The tolerance as the loop takes it: by its bits. -/
def limitOf (tolerance : Float) : Option ℕ :=
  if tolerance.isNaN then none else some tolerance.toBits.toNat

theorem isNaN_zero : (0.0 : Float).isNaN = false := by decide

theorem standing_zero : standing 0.0 = 0 := by decide

/-- An area has no sign. -/
theorem signOf_triangleArea (number : (triangleArea a b c).isNaN = false) :
    signOf (triangleArea a b c).toModel.unpack = .positive := by
  have half (x : Float) (number : (x.abs / 2.0).isNaN = false) :
      signOf (x.abs / 2.0).toModel.unpack = .positive := by
    have quotient := (isNaN_unpack_pack _).symm.trans number
    have two : signOf (2.0 : Float).toModel.unpack = .positive := eq_of_beq (by decide)
    show signOf (Float.Model.pack (.div .binary64 x.abs.toModel.unpack _)).unpack = _
    rw [(unpack_pack_number quotient).2, signOf_div quotient, signOf_abs, two]
    rfl
  exact half _ number

/-- A weight is above the limit if the area is above the tolerance. -/
theorem exceeds_limitOf (positive : ¬ tolerance ≤ 0.0)
    (number : (triangleArea a b c).isNaN = false) :
    exceeds (limitOf tolerance) (triangleArea a b c).toBits.toNat = true ↔
      tolerance < triangleArea a b c := by
  unfold limitOf
  split
  · next none =>
    refine ⟨nofun, fun less => ?_⟩
    exact absurd (numbers_of_lt less).1 (by rw [none]; decide)
  · next some =>
    have some := Bool.eq_false_iff.mpr some
    rw [le_iff some isNaN_zero, standing_zero, not_le] at positive
    rw [lt_iff some number, standing_eq_toNat some (signOf_of_pos positive),
      standing_eq_toNat number (signOf_triangleArea number), Int.ofNat_lt]
    exact decide_eq_true_iff

/-! ## Numbered points -/

theorem map_place_numbered (ps : List Point) : (numbered ps).map (·.place) = ps := by
  rw [numbered, List.map_map]
  exact List.zipIdx_map_fst 0 ps

theorem ascends_numbered (ps : List Point) : Ascends (numbered ps) := by
  have indices : (numbered ps).map (·.index) = List.range' 0 ps.length := by
    rw [numbered, List.map_map]
    exact List.zipIdx_map_snd 0 ps
  rw [Ascends, ← List.pairwise_map (f := Vertex.index) (R := (· < ·)), indices]
  exact List.pairwise_lt_range'

/-! ## Thinned lines -/

/-- The triangles that thinning a line comes across, if it has to compare anything: those of
three neighbours in the line or in one of the lines in between. -/
inductive Meets (tolerance : Float) (ps : List Point) (a b c : Point) : Prop
  | first (positive : ¬ tolerance ≤ 0.0) (neighbours : [a, b, c] <:+: ps)
  | later (positive : ¬ tolerance ≤ 0.0) (long : ps.length ≠ 3) {ts : List Corner}
      (weighed : corners (numbered ps) = .ok ts) {line : List Vertex}
      (passes : Passes (limitOf tolerance) (numbered ps) (.ofList Corner.weight ts) line)
      (neighbours : [a, b, c] <:+: line.map (·.place))

/-- Is nothing left to drop? -/
def Firm (tolerance : Float) (ps : List Point) : Prop :=
  tolerance ≤ 0.0 ∨ ∀ a b c, [a, b, c] <:+: ps → tolerance < triangleArea a b c

/-- Three neighbouring points are the places of three neighbouring vertices. -/
theorem exists_triple_of_map {line : List Vertex} (h : [a, b, c] <:+: line.map (·.place)) :
    ∃ x y z : Vertex, [x, y, z] <:+: line ∧ x.place = a ∧ y.place = b ∧ z.place = c := by
  obtain ⟨triple, inside, same⟩ := List.infix_map_iff.mp h
  match triple, same with
  | [x, y, z], same =>
    obtain ⟨rfl, rfl, rfl⟩ : a = x.place ∧ b = y.place ∧ c = z.place := by simpa using same
    exact ⟨x, y, z, inside, rfl, rfl, rfl⟩

/-- Are the areas of all triangles of three neighbours numbers? -/
theorem allWeighable_iff {line : List Vertex} : AllWeighable line ↔
    ∀ a b c, [a, b, c] <:+: line.map (·.place) → (triangleArea a b c).isNaN = false := by
  constructor
  · intro all a b c h
    obtain ⟨x, y, z, inside, rfl, rfl, rfl⟩ := exists_triple_of_map h
    exact all x y z inside
  · intro all x y z h
    exact all x.place y.place z.place (h.map Vertex.place)

theorem keeps_numbered {ts : List Corner} (weighed : corners (numbered ps) = .ok ts) :
    Keeps (numbered ps) (.ofList Corner.weight ts) := by
  obtain ⟨weighable, mem⟩ := corners_spec weighed
  obtain ⟨sound, bag⟩ := Queue.ofList_spec Corner.weight ts
  refine ⟨ascends_numbered ps, sound, weighable, fun a b c h => ?_⟩
  rw [bag, Multiset.mem_coe, mem]
  exact ⟨a, b, c, h, rfl⟩

/-- A line of other than three points goes through the loop. -/
theorem thin_eq_ok_iff (positive : ¬ tolerance ≤ 0.0) (long : ps.length ≠ 3) :
    thin tolerance ps = .ok kept ↔ ∃ ts, corners (numbered ps) = .ok ts ∧ ∃ line,
      dropLight (limitOf tolerance) (numbered ps) (.ofList Corner.weight ts) = .ok line ∧
        line.map (·.place) = kept := by
  have loop : thin tolerance ps = corners (numbered ps) >>= fun ts =>
      dropLight (limitOf tolerance) (numbered ps) (.ofList Corner.weight ts) >>= fun line =>
        pure (line.map (·.place)) := by
    match ps with
    | [a, b, c] => exact absurd rfl long
    | [] | [_] | [_, _] | _ :: _ :: _ :: _ :: _ => exact if_neg positive
  rw [loop, bind_eq_ok_iff]
  refine exists_congr fun ts => and_congr_right fun _ => ?_
  rw [bind_eq_ok_iff]
  exact exists_congr fun line => and_congr_right fun _ => ⟨Except.ok.inj, congrArg _⟩

/-- **When a line is thinned**: exactly if all areas that are compared are numbers.  The only
triangle of a line of three points is compared with nothing. -/
theorem exists_thin_iff : (∃ kept, thin tolerance ps = .ok kept) ↔
    (ps.length ≠ 3 → ∀ a b c, Meets tolerance ps a b c → (triangleArea a b c).isNaN = false) := by
  by_cases positive : tolerance ≤ 0.0
  · refine ⟨fun _ _ a b c meets => ?_, fun _ => ⟨ps, if_pos positive⟩⟩
    cases meets with
    | first above | later above => exact absurd positive above
  by_cases long : ps.length = 3
  · refine ⟨fun _ other => absurd long other, fun _ => ?_⟩
    match ps, long with
    | [a, b, c], _ => exact ⟨_, if_neg positive⟩
  constructor
  · rintro ⟨kept, done⟩ - a b c meets
    obtain ⟨ts, weighed, line, dropped, rfl⟩ := (thin_eq_ok_iff positive long).mp done
    have keeps := keeps_numbered weighed
    cases meets with
    | first _ neighbours =>
      have numbers := allWeighable_iff.mp keeps.weighable
      rw [map_place_numbered] at numbers
      exact numbers a b c neighbours
    | later _ _ weighed' passes neighbours =>
      obtain rfl := Except.ok.inj (weighed.symm.trans weighed')
      exact allWeighable_iff.mp ((keeps.drops dropped).weighable _ passes) a b c neighbours
  · intro numbers
    have numbers := numbers long
    have weighable : AllWeighable (numbered ps) := allWeighable_iff.mpr <| by
      rw [map_place_numbered]
      exact fun a b c neighbours => numbers a b c (.first positive neighbours)
    obtain ⟨ts, weighed⟩ := exists_corners weighable
    have later (l : List Vertex) (passes : Passes (limitOf tolerance) (numbered ps)
        (.ofList Corner.weight ts) l) : AllWeighable l :=
      allWeighable_iff.mpr fun a b c neighbours =>
        numbers a b c (.later positive long weighed passes neighbours)
    obtain ⟨line, dropped⟩ := (keeps_numbered weighed).exists_dropLight later
    exact ⟨_, (thin_eq_ok_iff positive long).mpr ⟨ts, weighed, line, dropped, rfl⟩⟩

/-- A thinned line is trimmed, and nothing more can be dropped. -/
theorem thin_spec (done : thin tolerance ps = .ok kept) :
    Trimmed ps kept ∧ Firm tolerance kept := by
  by_cases positive : tolerance ≤ 0.0
  · obtain rfl : ps = kept := Except.ok.inj ((if_pos positive).symm.trans done)
    exact ⟨.whole ps, .inl positive⟩
  by_cases long : ps.length = 3
  · match ps, long with
    | [a, b, c], _ =>
      obtain rfl : (if tolerance < triangleArea a b c then [a, b, c] else [a, c]) = kept :=
        Except.ok.inj ((if_neg positive).symm.trans done)
      split
      · next heavy =>
        refine ⟨.whole _, .inr fun x y z h => ?_⟩
        obtain ⟨rfl, rfl, rfl⟩ : x = a ∧ y = b ∧ z = c := by simpa using h.eq_of_length rfl
        exact heavy
      · have ends : Trimmed [a, b, c] [a, c] := Trimmed.inner a c (List.nil_sublist [b])
        refine ⟨ends, .inr fun x y z h => ?_⟩
        exact absurd (show 3 ≤ 2 from h.length_le) (by decide)
  · obtain ⟨ts, weighed, line, dropped, rfl⟩ := (thin_eq_ok_iff positive long).mp done
    obtain ⟨trimmed, firm, -⟩ := (keeps_numbered weighed).drops dropped
    refine ⟨?_, .inr fun a b c h => ?_⟩
    · have trimmed := trimmed.map Vertex.place
      rw [map_place_numbered] at trimmed
      exact trimmed
    · obtain ⟨x, y, z, inside, rfl, rfl, rfl⟩ := exists_triple_of_map h
      obtain ⟨weighable, heavy⟩ := firm x y z inside
      exact (exceeds_limitOf positive weighable).mp heavy

/-- A line with nothing to drop stays as it is. -/
theorem Firm.thin (firm : Firm tolerance ps) : thin tolerance ps = .ok ps := by
  by_cases positive : tolerance ≤ 0.0
  · exact if_pos positive
  have heavy := firm.resolve_left positive
  by_cases long : ps.length = 3
  · match ps, long with
    | [a, b, c], _ =>
      exact (if_neg positive).trans (congrArg _ (if_pos (heavy a b c (List.infix_refl _))))
  · have number (a b c : Point) (h : [a, b, c] <:+: ps) : (triangleArea a b c).isNaN = false :=
      (numbers_of_lt (heavy a b c h)).2
    have weighable : AllWeighable (numbered ps) := allWeighable_iff.mpr <| by
      rw [map_place_numbered]
      exact number
    obtain ⟨ts, weighed⟩ := exists_corners weighable
    obtain ⟨-, mem⟩ := corners_spec weighed
    obtain ⟨sound, bag⟩ := Queue.ofList_spec Corner.weight ts
    have last (t : Corner) (waits : t ∈ (Queue.ofList Corner.weight ts).tree.bag) :
        exceeds (limitOf tolerance) t.weight = true := by
      rw [bag, Multiset.mem_coe, mem] at waits
      obtain ⟨x, y, z, h, rfl⟩ := waits
      have h : [x.place, y.place, z.place] <:+: ps := map_place_numbered ps ▸ h.map Vertex.place
      exact (exceeds_limitOf positive (number _ _ _ h)).mpr (heavy _ _ _ h)
    refine (thin_eq_ok_iff positive long).mpr
      ⟨ts, weighed, numbered ps, ?_, map_place_numbered ps⟩
    rw [dropLight]
    split
    · rfl
    · next t q popped =>
      have first : t ∈ (Queue.ofList Corner.weight ts).tree.bag := by
        rw [(sound.of_pop? popped).2.1]
        exact Multiset.mem_cons_self t _
      exact if_pos (last t first)

end Footprint
end StreamCatalog
