import StreamCatalog.Region.Basic

/-!
# Rings that fold flat

A ring whose corners are all in line on the grid has no corner left when it is straightened
(`straighten_of_inLine`): it folds flat.  When all rings of two regions fold flat there is
nothing to merge, and the union is the empty region (`union_of_flat`).
-/

namespace StreamCatalog
namespace Region

variable {n m : Node} {way ns : List Node}

/-! ## Straightening keeps to the ring -/

/-- Going on to a corner adds no other corner. -/
theorem mem_of_mem_goTo (member : m ∈ goTo way n) : m = n ∨ m ∈ way := by
  fun_induction goTo way n with
  | case1 n => exact .inl (List.mem_singleton.mp member)
  | case2 p => exact .inl (List.mem_singleton.mp member)
  | case3 p n _ => simpa using member
  | case4 q p way n _ ih => exact (ih member).imp_right (List.mem_cons_of_mem q)
  | case5 q p way n _ => simpa using member

theorem mem_of_mem_foldl_goTo (member : m ∈ ns.foldl goTo way) : m ∈ ns ∨ m ∈ way := by
  induction ns generalizing way with
  | nil => exact .inr member
  | cons n ns ih =>
    rcases ih member with later | member
    · exact .inl (List.mem_cons_of_mem n later)
    · rcases mem_of_mem_goTo member with rfl | before
      · exact .inl (List.mem_cons_self ..)
      · exact .inr before

theorem closeUp_sublist (ns : List Node) : (closeUp ns).Sublist ns := by
  fun_induction closeUp ns with
  | case1 first second third rest _ _ _ ih => exact ih.trans (List.dropLast_sublist _)
  | case2 first second third rest _ _ _ _ ih => exact ih.trans (List.sublist_cons_self ..)
  | case3 => exact List.Sublist.refl _
  | case4 => exact List.Sublist.refl _

/-- The corners of a straightened ring are corners of the ring. -/
theorem mem_of_mem_straighten (member : m ∈ straighten ns) : m ∈ ns := by
  unfold straighten at member
  simp only at member
  split at member
  · rcases mem_of_mem_foldl_goTo ((closeUp_sublist _).subset member) with inside | none
    · exact inside
    · exact nomatch none
  · exact nomatch member

/-! ## Rings in line -/

/-- Are all corners in line? -/
def InLine (ns : List Node) : Prop := ∀ p ∈ ns, ∀ q ∈ ns, ∀ r ∈ ns, turn p q r = 0

theorem inLine_of_x (same : ∀ p ∈ ns, ∀ q ∈ ns, p.x = q.x) : InLine ns := fun p hp q hq r hr => by
  rw [turn, same q hq p hp, same r hr p hp]
  omega

theorem inLine_of_y (same : ∀ p ∈ ns, ∀ q ∈ ns, p.y = q.y) : InLine ns := fun p hp q hq r hr => by
  rw [turn, same q hq p hp, same r hr p hp]
  omega

/-- Of corners in line no more than two are held. -/
theorem length_goTo_le (short : way.length ≤ 2)
    (line : ∀ p ∈ way, ∀ q ∈ way, turn p q n = 0) : (goTo way n).length ≤ 2 := by
  match way, short with
  | [], _ => exact Nat.le_succ 1
  | [p], _ =>
    rw [goTo]
    split <;> simp
  | [q, p], _ =>
    rw [goTo, if_pos (line p (by simp) q (by simp)), goTo]
    split <;> simp

theorem length_foldl_goTo_le (all : List Node) (line : InLine all) (inside : ∀ p ∈ ns, p ∈ all)
    (before : ∀ p ∈ way, p ∈ all) (short : way.length ≤ 2) : (ns.foldl goTo way).length ≤ 2 := by
  induction ns generalizing way with
  | nil => exact short
  | cons n ns ih =>
    have here := inside n (List.mem_cons_self ..)
    refine ih (fun p member => inside p (List.mem_cons_of_mem n member)) (fun p member => ?_) ?_
    · rcases mem_of_mem_goTo member with rfl | member
      · exact here
      · exact before p member
    · exact length_goTo_le short fun p hp q hq => line p (before p hp) q (before q hq) n here

/-- **A ring in line folds flat.** -/
theorem straighten_of_inLine (line : InLine ns) : straighten ns = [] := by
  have short : (ns.foldl goTo []).length ≤ 2 :=
    length_foldl_goTo_le ns line (fun _ => id) nofun (Nat.zero_le 2)
  have shorter := (closeUp_sublist (ns.foldl goTo [])).length_le
  rw [straighten]
  exact if_neg (by omega)

/-! ## Regions that fold flat -/

variable {r s : Region}

/-- Does every ring of a region fold flat on a grid? -/
def FoldsFlat (g : Grid) (r : Region) : Prop :=
  ∀ ring ∈ r.allRings, straighten (ring.map g.node) = []

theorem edges_of_foldsFlat {g : Grid} (flat : FoldsFlat g r) (first second : Int) :
    r.edges g first second = [] := by
  rw [edges, List.flatMap_eq_nil_iff]
  intro ring member
  rw [flat ring member]
  rfl

theorem union_of_flat
    (left : FoldsFlat (.over (r.allRings.flatten ++ s.allRings.flatten)) r)
    (right : FoldsFlat (.over (r.allRings.flatten ++ s.allRings.flatten)) s) :
    r.union s = .empty := by
  have none : rings (boundary (separate (gather ([] ++ [])))) = [] := by
    show rings [] = []
    rw [rings]
  rw [union]
  simp only [edges_of_foldsFlat left, edges_of_foldsFlat right, none]
  rfl

end Region
end StreamCatalog
