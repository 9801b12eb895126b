import Mathlib.Tactic.Linarith
import Mathlib.Tactic.Ring
import StreamCatalog.Proofs.Region.Folding

/-!
# Merging stays inside the box

Two edges are cut where they cross, at a grid point next to the crossing.  The point is rounded,
but it does not leave the box of the edge that is cut (`crossing_between`), and all other cuts
are at ends of edges.  So whatever box holds the corners of two regions holds all corners of
their union: cutting edges, tracing the boundary and straightening its rings add no point that
is outside.
-/

namespace StreamCatalog
namespace Region

/-! ## Crossings -/

/-- Is a whole number between zero and another one? -/
def Between (a q : Int) : Prop := (0 ≤ q ∧ q ≤ a) ∨ (a ≤ q ∧ q ≤ 0)

variable {a m d w : Int}

/-- Is a moment a proper part of another one? -/
def IsPart (m d : Int) : Prop := (0 < m ∧ m < d) ∨ (d < m ∧ m < 0)

theorem between_of_natAbs_le {q : Int} (le : q.natAbs ≤ a.natAbs)
    (sign : (0 ≤ a ∧ 0 ≤ q) ∨ (a ≤ 0 ∧ q ≤ 0)) : Between a q := by
  unfold Between
  omega

theorem divWhole_between (part : IsPart m d) : Between a (divWhole (a * m) d) := by
  have small : m.natAbs ≤ d.natAbs := by
    unfold IsPart at part
    omega
  have some : 0 < d.natAbs := by
    unfold IsPart at part
    omega
  have product : (a * m).natAbs ≤ a.natAbs * d.natAbs := by
    rw [Int.natAbs_mul]
    exact Nat.mul_le_mul_left _ small
  have size : (if (a * m).natAbs < 18446744073709551616 then
      (2 * (a * m).natAbs + d.natAbs) / (2 * d.natAbs) else (a * m).natAbs / d.natAbs) ≤
      a.natAbs := by
    split
    · refine Nat.le_of_lt_succ ((Nat.div_lt_iff_lt_mul (by omega)).mpr ?_)
      rw [Nat.succ_mul]
      nlinarith
    · exact Nat.div_le_of_le_mul (by rwa [Nat.mul_comm])
  have sides : (0 < m ∧ 0 < d) ∨ (m < 0 ∧ d < 0) := by
    unfold IsPart at part
    omega
  unfold divWhole
  simp only
  generalize (if (a * m).natAbs < 18446744073709551616 then
    (2 * (a * m).natAbs + d.natAbs) / (2 * d.natAbs) else (a * m).natAbs / d.natAbs) = n at size ⊢
  split
  · next same =>
    refine between_of_natAbs_le (by omega) (.inl ⟨?_, by omega⟩)
    by_contra negative
    rcases sides with ⟨hm, hd⟩ | ⟨hm, hd⟩
    · exact absurd (same ▸ mul_neg_of_neg_of_pos (not_le.mp negative) hm) (by omega)
    · exact absurd (mul_pos_of_neg_of_neg (not_le.mp negative) hm) (not_lt.mpr (same ▸ hd).le)
  · next other =>
    refine between_of_natAbs_le (by omega) (.inr ⟨?_, by omega⟩)
    by_contra positive
    rcases sides with ⟨hm, hd⟩ | ⟨hm, hd⟩
    · have product := mul_pos (not_le.mp positive) hm
      exact other (propext (iff_of_false (by omega) (by omega)))
    · have product := mul_neg_of_pos_of_neg (not_le.mp positive) hm
      exact other (propext (iff_of_true product hd))

theorem tdiv_between (part : IsPart m (a * w)) : Between a (m.tdiv w) := by
  have some : w ≠ 0 := by
    rintro rfl
    rw [mul_zero] at part
    unfold IsPart at part
    omega
  have size : (m.tdiv w).natAbs ≤ a.natAbs := by
    rw [Int.natAbs_tdiv]
    refine Nat.div_le_of_le_mul ?_
    rw [Nat.mul_comm, ← Int.natAbs_mul]
    unfold IsPart at part
    omega
  refine between_of_natAbs_le size ?_
  rcases part with ⟨positive, below⟩ | ⟨above, negative⟩
  · rcases lt_or_gt_of_ne some with hw | hw
    · refine .inr ⟨(neg_of_mul_pos_left (positive.trans below) hw.le).le, ?_⟩
      exact Int.tdiv_nonpos_of_nonneg_of_nonpos positive.le hw.le
    · refine .inl ⟨(pos_of_mul_pos_left (positive.trans below) hw.le).le, ?_⟩
      exact Int.tdiv_nonneg positive.le hw.le
  · rcases lt_or_gt_of_ne some with hw | hw
    · refine .inl ⟨(pos_of_mul_neg_left (above.trans negative) hw.le).le, ?_⟩
      exact Int.tdiv_nonneg_of_nonpos_of_nonpos negative.le hw.le
    · refine .inr ⟨(neg_of_mul_neg_left (above.trans negative) hw.le).le, ?_⟩
      have opposite := Int.tdiv_nonneg (neg_nonneg.mpr negative.le) hw.le
      rw [Int.neg_tdiv] at opposite
      omega

/-- Where two sides of a line differ, the first is a proper part of the difference. -/
theorem isPart_of_mul_neg {u v : Int} (sides : u * v < 0) : IsPart u (u - v) := by
  unfold IsPart
  rcases lt_trichotomy u 0 with negative | rfl | positive
  · have other : 0 < v := pos_of_mul_neg_right sides negative.le
    omega
  · rw [zero_mul] at sides
    omega
  · have other : v < 0 := neg_of_mul_neg_right sides positive.le
    omega

variable {e f : Edge}

/-- **A crossing lies in the box of the edge that is cut.** -/
theorem crossing_between (sides : turn f.lo f.hi e.lo * turn f.lo f.hi e.hi < 0) :
    Between (e.hi.x - e.lo.x) ((crossing e f).x - e.lo.x) ∧
      Between (e.hi.y - e.lo.y) ((crossing e f).y - e.lo.y) := by
  have part := isPart_of_mul_neg sides
  -- The moment that the crossing is computed with is the first side, and the difference of the
  -- sides is what it is divided by.
  have moment : turn f.lo f.hi e.lo = (f.lo.x - e.lo.x) * (f.hi.y - e.lo.y) -
      (f.lo.y - e.lo.y) * (f.hi.x - e.lo.x) := by
    unfold turn
    ring
  have whole : turn f.lo f.hi e.lo - turn f.lo f.hi e.hi =
      (e.hi.y - e.lo.y) * ((f.lo.x - e.lo.x) - (f.hi.x - e.lo.x)) -
        (e.hi.x - e.lo.x) * ((f.lo.y - e.lo.y) - (f.hi.y - e.lo.y)) := by
    unfold turn
    ring
  rw [whole, moment] at part
  unfold crossing
  simp only
  generalize (f.lo.x - e.lo.x) * (f.hi.y - e.lo.y) - (f.lo.y - e.lo.y) * (f.hi.x - e.lo.x) = m
    at part ⊢
  have here : Between 0 0 := .inl ⟨le_refl 0, le_refl 0⟩
  split
  · next vertical =>
    rw [vertical, zero_mul, sub_zero] at part
    rw [vertical, sub_self, add_sub_cancel_left]
    exact ⟨here, tdiv_between part⟩
  · split
    · next level =>
      rw [level, zero_mul, zero_sub] at part
      rw [level, sub_self, add_sub_cancel_left]
      have part : IsPart (-m) ((e.hi.x - e.lo.x) * ((f.lo.y - e.lo.y) - (f.hi.y - e.lo.y))) := by
        unfold IsPart at part ⊢
        omega
      exact ⟨tdiv_between part, here⟩
    · rw [add_sub_cancel_left, add_sub_cancel_left]
      exact ⟨divWhole_between part, divWhole_between part⟩

/-! ## Nodes inside a box -/

/-- Is a grid point inside the square around the origin? -/
structure Node.Within (bound : Int) (n : Node) : Prop where
  left : -bound ≤ n.x
  right : n.x ≤ bound
  low : -bound ≤ n.y
  high : n.y ≤ bound

/-- Are both ends of an edge inside? -/
structure Edge.Within (bound : Int) (e : Edge) : Prop where
  lo : e.lo.Within bound
  hi : e.hi.Within bound

variable {bound : Int}

theorem crossing_within (inside : e.Within bound)
    (sides : turn f.lo f.hi e.lo * turn f.lo f.hi e.hi < 0) : (crossing e f).Within bound := by
  obtain ⟨inX, inY⟩ := crossing_between sides
  obtain ⟨⟨loLeft, loRight, loLow, loHigh⟩, hiLeft, hiRight, hiLow, hiHigh⟩ := inside
  unfold Between at inX inY
  constructor <;> omega

/-- Are all cuts of two edges inside? -/
structure Cuts.Within (bound : Int) (c : Cuts) : Prop where
  own : ∀ n ∈ c.own, n.Within bound
  other : ∀ n ∈ c.other, n.Within bound

/-- All cuts are inside if the edges are. -/
theorem cuts_within {near : Int} (first : e.Within bound) (second : f.Within bound) :
    (cuts near e f).Within bound := by
  have none : ∀ n ∈ ([] : List Node), n.Within bound := nofun
  have single {n : Node} (inside : n.Within bound) : ∀ m ∈ [n], m.Within bound :=
    List.forall_mem_singleton.mpr inside
  have ends (e : Edge) (p : Node → Bool) (inside : e.Within bound) :
      ∀ n ∈ [e.lo, e.hi].filter p, n.Within bound := by
    intro n member
    have member := (List.mem_filter.mp member).1
    rcases List.mem_cons.mp member with rfl | member
    · exact inside.lo
    · rw [List.mem_singleton.mp member]
      exact inside.hi
  have choice {c : Prop} [Decidable c] {p q : Node} (hp : p.Within bound) (hq : q.Within bound) :
      (if c then p else q).Within bound := iteInduction (fun _ => hp) fun _ => hq
  unfold cuts
  refine iteInduction (motive := Cuts.Within bound)
    (fun _ => ⟨ends f (fun n => e.lo.before n && n.before e.hi) second,
      ends e (fun n => f.lo.before n && n.before f.hi) first⟩) fun _ => ?_
  refine iteInduction (motive := Cuts.Within bound) (fun _ => ⟨none, none⟩) fun apart => ?_
  refine iteInduction (motive := Cuts.Within bound) (fun _ => ⟨none, none⟩) fun _ => ?_
  refine iteInduction (motive := Cuts.Within bound) (fun _ => ⟨single second.lo, none⟩) fun _ => ?_
  refine iteInduction (motive := Cuts.Within bound) (fun _ => ⟨single second.hi, none⟩) fun _ => ?_
  refine iteInduction (motive := Cuts.Within bound) (fun _ => ⟨none, single first.lo⟩) fun lo => ?_
  refine iteInduction (motive := Cuts.Within bound) (fun _ => ⟨none, single first.hi⟩) fun hi => ?_
  -- The ends of the first edge lie on different sides of the second one.
  have inside : (crossing e f).Within bound := crossing_within first <|
    lt_of_le_of_ne (not_lt.mp fun same => apart (.inr same)) (mul_ne_zero lo hi)
  refine iteInduction (motive := Cuts.Within bound) (fun _ => ⟨single inside, single inside⟩)
    fun _ => ?_
  refine iteInduction (motive := Cuts.Within bound) (fun _ => ⟨single inside, single inside⟩)
    fun _ => ?_
  exact iteInduction (motive := Cuts.Within bound)
    (fun _ => ⟨none, single (choice first.lo first.hi)⟩)
    fun _ => ⟨single (choice second.lo second.hi), none⟩

/-! ## Edges inside a box -/

variable {es : List Edge}

theorem within_of_between? {p q : Node} {first second : Int} (hp : p.Within bound)
    (hq : q.Within bound) (made : Edge.between? p q first second = some e) : e.Within bound := by
  unfold Edge.between? at made
  split at made
  · cases made
    exact ⟨hp, hq⟩
  · split at made
    · cases made
      exact ⟨hq, hp⟩
    · exact nomatch made

/-- Edges between neighbours in a list of grid points. -/
theorem within_of_zip {ps qs : List Node} {first second : Int} (hp : ∀ n ∈ ps, n.Within bound)
    (hq : ∀ n ∈ qs, n.Within bound)
    (member : e ∈ (ps.zip qs).filterMap fun (p, q) => Edge.between? p q first second) :
    e.Within bound := by
  obtain ⟨⟨p, q⟩, zipped, made⟩ := List.mem_filterMap.mp member
  obtain ⟨inP, inQ⟩ := List.of_mem_zip zipped
  exact within_of_between? (hp p inP) (hq q inQ) made

theorem ringEdges_within {ns : List Node} {first second : Int} (inside : ∀ n ∈ ns, n.Within bound)
    (member : e ∈ ringEdges first second ns) : e.Within bound := by
  match ns with
  | [] => exact nomatch member
  | n :: rest =>
    refine within_of_zip inside (fun m member => ?_) member
    rcases List.mem_append.mp member with later | last
    · exact inside m (List.mem_cons_of_mem n later)
    · exact inside m (List.mem_singleton.mp last ▸ List.mem_cons_self ..)

theorem cutAt_within {points : List Node} (inside : e.Within bound)
    (points_within : ∀ n ∈ points, n.Within bound) (member : f ∈ e.cutAt points) :
    f.Within bound := by
  have way : ∀ n ∈ e.lo :: points.mergeSort e.inOrder ++ [e.hi], n.Within bound := by
    intro n member
    rw [List.cons_append, List.mem_cons, List.mem_append, List.mem_mergeSort,
      List.mem_singleton] at member
    rcases member with rfl | member | rfl
    · exact inside.lo
    · exact points_within n member
    · exact inside.hi
  exact within_of_zip way (fun n member => way n (List.mem_of_mem_tail member)) member

theorem insertEdge_within (inside : e.Within bound) (all : ∀ g ∈ es, g.Within bound)
    (member : f ∈ insertEdge e es) : f.Within bound := by
  induction es with
  | nil =>
    unfold insertEdge at member
    split at member
    · exact List.mem_singleton.mp member ▸ inside
    · exact nomatch member
  | cons g gs ih =>
    obtain ⟨here, rest⟩ := List.forall_mem_cons.mp all
    unfold insertEdge at member
    simp only at member
    split at member
    · split at member
      · rcases List.mem_cons.mp member with rfl | member
        · exact ⟨here.lo, here.hi⟩
        · exact rest f member
      · exact rest f member
    · split at member
      · split at member
        · rcases List.mem_cons.mp member with rfl | member
          · exact inside
          · exact all f member
        · exact all f member
      · rcases List.mem_cons.mp member with rfl | member
        · exact here
        · exact ih rest member

theorem gather_within (all : ∀ e ∈ es, e.Within bound) : ∀ e ∈ gather es, e.Within bound := by
  have step (es out : List Edge) (all : ∀ e ∈ es, e.Within bound)
      (before : ∀ e ∈ out, e.Within bound) :
      ∀ e ∈ es.foldl (fun out e => insertEdge e out) out, e.Within bound := by
    induction es generalizing out with
    | nil => exact before
    | cons e es ih =>
      obtain ⟨here, rest⟩ := List.forall_mem_cons.mp all
      exact ih _ rest fun f member => insertEdge_within here before member
  exact step es [] all nofun

theorem allCuts_within {near : Int} (all : ∀ e ∈ es, e.Within bound) (member : e ∈ es) {c : Cuts}
    (found : c ∈ allCuts near es e) : c.Within bound := by
  obtain ⟨f, other, made⟩ := List.mem_filterMap.mp found
  split at made
  · exact nomatch made
  · cases made
    split
    · exact cuts_within (all e member) (all f other)
    · obtain ⟨own, other⟩ : (cuts near f e).Within bound := cuts_within (all f other) (all e member)
      exact ⟨other, own⟩

/-- Cutting edges leaves the box to none of the parts. -/
theorem separateFor_within (rounds : Nat) (near : Int) (all : ∀ e ∈ es, e.Within bound) :
    ∀ e ∈ separateFor rounds near es, e.Within bound := by
  induction rounds generalizing near es with
  | zero => exact all
  | succ rounds ih =>
    have next : ∀ e ∈ gather ((es.map fun e => (e, allCuts near es e)).flatMap
        fun found => found.1.cutAt (found.2.flatMap (·.own))), e.Within bound := by
      refine gather_within fun f member => ?_
      obtain ⟨⟨e, cs⟩, found, part⟩ := List.mem_flatMap.mp member
      obtain ⟨g, whole, same⟩ := List.mem_map.mp found
      obtain ⟨rfl, rfl⟩ := Prod.mk.inj same
      refine cutAt_within (all g whole) (fun n inside => ?_) part
      obtain ⟨c, cut, own⟩ := List.mem_flatMap.mp inside
      exact (allCuts_within all whole cut).own n own
    unfold separateFor
    simp only
    split
    · exact ih _ next
    · exact next

/-! ## Rings inside a box -/

/-- Are both ends of a side inside? -/
structure Side.Within (bound : Int) (s : Side) : Prop where
  lo : s.lo.Within bound
  hi : s.hi.Within bound

theorem boundary_within (all : ∀ e ∈ es, e.Within bound) : ∀ s ∈ boundary es, s.Within bound := by
  intro s member
  obtain ⟨e, inside, made⟩ := List.mem_filterMap.mp member
  unfold side? at made
  simp only at made
  split at made
  · exact nomatch made
  · cases made
    exact ⟨(all e inside).lo, (all e inside).hi⟩

theorem across_within {s : Side} {n : Node} (inside : s.Within bound) :
    (s.across n).Within bound := by
  unfold Side.across
  split
  · exact inside.hi
  · exact inside.lo

/-- A ring is traced along the sides, and what is left are sides. -/
theorem follow_within (sense : Sense) (goal source : Node) {n : Node} {pool : List Side}
    (here : n.Within bound) (all : ∀ s ∈ pool, s.Within bound) :
    (∀ m ∈ (follow sense goal source n pool).1, m.Within bound) ∧
      ∀ s ∈ (follow sense goal source n pool).2, s.Within bound := by
  fun_induction follow sense goal source n pool with
  | case1 => exact ⟨fun _ member => absurd member List.not_mem_nil, all⟩
  | case2 => exact ⟨List.forall_mem_singleton.mpr here, all⟩
  | case3 source n pool _ s _ member shorter corners rest eq ih =>
    have rest_all : ∀ s' ∈ pool.erase s, s'.Within bound := fun s' member =>
      all s' (List.mem_of_mem_erase member)
    obtain ⟨inside, left⟩ := ih (across_within (all s member)) rest_all
    rw [eq] at inside left
    exact ⟨List.forall_mem_cons.mpr ⟨here, inside⟩, left⟩
  | case4 => exact ⟨List.forall_mem_singleton.mpr here, all⟩

theorem traceRing_within {s : Side} {pool : List Side} {found : Ring × List Side}
    (traced : traceRing s pool = found) (first : s.Within bound)
    (all : ∀ s ∈ pool, s.Within bound) :
    (∀ n ∈ found.1.corners, n.Within bound) ∧ ∀ s ∈ found.2, s.Within bound := by
  unfold traceRing at traced
  subst traced
  split
  · obtain ⟨inside, left⟩ := follow_within .counterclockwise s.lo s.lo first.hi all
    exact ⟨List.forall_mem_cons.mpr ⟨first.lo, inside⟩, left⟩
  · obtain ⟨inside, left⟩ := follow_within .clockwise s.hi s.hi first.lo all
    exact ⟨List.forall_mem_cons.mpr ⟨first.hi, inside⟩, left⟩

theorem rings_within {sides : List Side} (all : ∀ s ∈ sides, s.Within bound) :
    ∀ ring ∈ rings sides, ∀ n ∈ ring.corners, n.Within bound := by
  fun_induction rings sides with
  | case1 => exact nofun
  | case2 s pool found shorter ih =>
    obtain ⟨first, rest⟩ := List.forall_mem_cons.mp all
    obtain ⟨inside, left⟩ : (∀ n ∈ found.1.corners, n.Within bound) ∧
      ∀ s ∈ found.2, s.Within bound := traceRing_within rfl first rest
    exact List.forall_mem_cons.mpr ⟨inside, ih left⟩

/-! ## Unions inside a box -/

variable {r s : Region}

theorem edges_within {g : Grid} {first second : Int}
    (inside : ∀ ring ∈ r.allRings, ∀ p ∈ ring, (g.node p).Within bound) :
    ∀ e ∈ r.edges g first second, e.Within bound := by
  intro e member
  obtain ⟨ring, whole, part⟩ := List.mem_flatMap.mp member
  refine ringEdges_within (fun n corner => ?_) part
  obtain ⟨p, point, rfl⟩ := List.mem_map.mp (mem_of_mem_straighten corner)
  exact inside ring whole p point

/-- The sides along which two regions are merged, on a grid. -/
def merging (g : Grid) (r s : Region) : List Side :=
  boundary (separate (gather (r.edges g 1 0 ++ s.edges g 0 1)))

/-- A ring of a union is a traced ring that is straightened and has corners left. -/
theorem exists_of_mem_union {ring : List Point} (member : ring ∈ (r.union s).allRings) :
    let g := Grid.over (r.allRings.flatten ++ s.allRings.flatten)
    ∃ traced ∈ rings (merging g r s), straighten traced.corners ≠ [] ∧
      (straighten traced.corners).map g.point = ring := by
  intro g
  rw [allRings, union] at member
  simp only [List.partition_eq_filter_filter] at member
  rcases List.mem_append.mp member with member | member
  all_goals
    obtain ⟨straight, found, rfl⟩ := List.mem_map.mp member
    obtain ⟨found, some⟩ := List.mem_filter.mp (List.mem_filter.mp found).1
    obtain ⟨traced, inside, rfl⟩ := List.mem_map.mp found
    refine ⟨traced, inside, fun none => ?_, rfl⟩
    simp [none] at some

/-- **The corners of a union are grid points, and inside if the corners of both regions are.** -/
theorem exists_node_of_union {g : Grid}
    (grid : g = .over (r.allRings.flatten ++ s.allRings.flatten))
    (left : ∀ ring ∈ r.allRings, ∀ p ∈ ring, (g.node p).Within bound)
    (right : ∀ ring ∈ s.allRings, ∀ p ∈ ring, (g.node p).Within bound) :
    ∀ ring ∈ (r.union s).allRings, ∀ p ∈ ring, ∃ n : Node, n.Within bound ∧ p = g.point n := by
  have all : ∀ ring ∈ rings (merging g r s), ∀ n ∈ ring.corners, n.Within bound := by
    refine rings_within <| boundary_within <| separateFor_within _ _ <|
      gather_within fun e member => ?_
    rcases List.mem_append.mp member with member | member
    · exact edges_within left e member
    · exact edges_within right e member
  subst grid
  intro ring member p point
  obtain ⟨traced, found, -, rfl⟩ := exists_of_mem_union member
  obtain ⟨n, corner, rfl⟩ := List.mem_map.mp point
  exact ⟨n, all traced found n (mem_of_mem_straighten corner), rfl⟩

end Region
end StreamCatalog
