import Mathlib.Data.List.Induction
import Mathlib.Data.Multiset.AddSub
import StreamCatalog.Footprint.Queue

/-!
# What a queue hands out

A queue holds a bag of elements, and it is *sound* if its tree is filled level by level and no
element is less urgent than one below it.  A queue made of a list is sound and holds the elements
of the list; adding an element keeps it sound.  What a sound queue hands out is one of its most
urgent elements, and the queue that is left is sound and holds the others (`Sound.of_pop?`).

## Places

A place is named by a number, as the way to it is, or by the way itself.  `Tree.reaches` asks
whether a tree has an element at the end of a way, so that a tree is filled with `n` elements if
it reaches just the places up to `n`.  No movement changes which places are reached, and the
place after the last one is free, with its upper neighbour taken.
-/

namespace StreamCatalog
namespace Queue

variable {α : Type}

/-! ## Places and ways -/

theorem path_one : path 1 = [] := by
  rw [path, if_pos (Nat.le_refl 1)]

/-- The places below a place lie one step further. -/
theorem path_below {place : ℕ} (some : 0 < place) (b : Bool) :
    path (2 * place + b.toNat) = path place ++ [b] := by
  rw [path, if_neg (by cases b <;> simp only [Bool.toNat_false, Bool.toNat_true] <;> omega)]
  have half : (2 * place + b.toNat) / 2 = place := by
    cases b <;> simp only [Bool.toNat_false, Bool.toNat_true] <;> omega
  have last : ((2 * place + b.toNat) % 2 == 1) = b := by
    cases b <;> simp [Nat.add_mod]
  rw [half, last]

/-- Every place but the first lies below another one. -/
theorem exists_below {place : ℕ} (some : 1 < place) :
    ∃ above, ∃ b : Bool, 0 < above ∧ above < place ∧ place = 2 * above + b.toNat := by
  refine ⟨place / 2, decide (place % 2 = 1), by omega, by omega, ?_⟩
  rcases Nat.mod_two_eq_zero_or_one place with even | odd
  · rw [even]
    simp only [Nat.zero_ne_one, decide_false, Bool.toNat_false]
    omega
  · rw [odd]
    simp only [decide_true, Bool.toNat_true]
    omega

/-- Every way leads to a place. -/
theorem exists_path (way : List Bool) : ∃ place, 0 < place ∧ path place = way := by
  induction way using List.reverseRecOn with
  | nil => exact ⟨1, Nat.one_pos, path_one⟩
  | append_singleton way b ih =>
    obtain ⟨place, some, rfl⟩ := ih
    exact ⟨2 * place + b.toNat, by omega, path_below some b⟩

/-- Different places are reached by different ways. -/
theorem path_injective {p q : ℕ} (hp : 0 < p) (hq : 0 < q) (same : path p = path q) : p = q := by
  induction p using Nat.strongRecOn generalizing q with
  | ind p ih =>
    by_cases first : p = 1
    · by_cases other : q = 1
      · exact first.trans other.symm
      · obtain ⟨above, b, some, -, rfl⟩ := exists_below (Nat.lt_of_le_of_ne hq (Ne.symm other))
        rw [first, path_one, path_below some] at same
        exact absurd same.symm (by simp)
    · obtain ⟨above, b, some, less, rfl⟩ := exists_below (Nat.lt_of_le_of_ne hp (Ne.symm first))
      by_cases other : q = 1
      · rw [other, path_one, path_below some] at same
        exact absurd same (by simp)
      · obtain ⟨above', b', some', -, rfl⟩ :=
          exists_below (Nat.lt_of_le_of_ne hq (Ne.symm other))
        rw [path_below some, path_below some'] at same
        obtain ⟨ways, steps⟩ := List.append_inj' same rfl
        rw [ih above less some some' ways, (List.cons.inj steps).1]

/-! ## Trees -/

namespace Tree

/-- The elements of a tree. -/
def bag : Tree α → Multiset α
  | leaf => 0
  | node l x r => x ::ₘ (l.bag + r.bag)

/-- The elements below the top. -/
def rest : Tree α → Multiset α
  | leaf => 0
  | node l _ r => l.bag + r.bag

/-- Does a way lead to an element? -/
def reaches : List Bool → Tree α → Bool
  | _, leaf => false
  | [], node _ _ _ => true
  | false :: way, node l _ _ => reaches way l
  | true :: way, node _ _ r => reaches way r

/-- Is there nothing on the right of a place unless there is something on its left? -/
def LeansLeft (t : Tree α) : Prop :=
  ∀ way, t.reaches (way ++ [true]) = true → t.reaches (way ++ [false]) = true

/-- Are the first `n` places taken and no others? -/
def Fills (n : ℕ) (t : Tree α) : Prop :=
  ∀ place, 0 < place → t.reaches (path place) = decide (place ≤ n)

@[simp] theorem bag_leaf : (leaf : Tree α).bag = 0 := rfl

@[simp] theorem bag_node (l : Tree α) (x : α) (r : Tree α) :
    (node l x r).bag = x ::ₘ (l.bag + r.bag) := rfl

@[simp] theorem reaches_leaf (way : List Bool) : (leaf : Tree α).reaches way = false := by
  cases way <;> rfl

@[simp] theorem reaches_nil (l : Tree α) (x : α) (r : Tree α) :
    (node l x r).reaches [] = true := rfl

@[simp] theorem reaches_left (l : Tree α) (x : α) (r : Tree α) (way : List Bool) :
    (node l x r).reaches (false :: way) = l.reaches way := rfl

@[simp] theorem reaches_right (l : Tree α) (x : α) (r : Tree α) (way : List Bool) :
    (node l x r).reaches (true :: way) = r.reaches way := rfl

theorem eq_leaf_of_reaches {t : Tree α} (none : t.reaches [] = false) : t = leaf := by
  cases t with
  | leaf => rfl
  | node l x r => exact nomatch none

/-! ### Filled trees -/

theorem LeansLeft.left {l r : Tree α} {x : α} (h : (node l x r).LeansLeft) : l.LeansLeft :=
  fun way => h (false :: way)

theorem LeansLeft.right {l r : Tree α} {x : α} (h : (node l x r).LeansLeft) : r.LeansLeft :=
  fun way => h (true :: way)

/-- Beside an empty left part the right part is empty too. -/
theorem LeansLeft.eq_leaf {r : Tree α} {x : α} (h : (node leaf x r).LeansLeft) : r = leaf := by
  refine eq_leaf_of_reaches (Bool.eq_false_iff.mpr fun some => ?_)
  exact nomatch h [] some

theorem Fills.leansLeft {n : ℕ} {t : Tree α} (fills : t.Fills n) : t.LeansLeft := by
  intro way right
  obtain ⟨place, some, rfl⟩ := exists_path way
  rw [← path_below some, fills _ (by omega), decide_eq_true_eq] at right ⊢
  simp only [Bool.toNat_true, Bool.toNat_false] at right ⊢
  omega

theorem fills_leaf : (leaf : Tree α).Fills 0 := by
  intro place some
  rw [reaches_leaf]
  exact (decide_eq_false (by omega)).symm

/-- The place after the last one is free ... -/
theorem Fills.free {n : ℕ} {t : Tree α} (fills : t.Fills n) :
    t.reaches (path (n + 1)) = false := by
  rw [fills _ (by omega)]
  exact decide_eq_false (by omega)

/-- ... and the one above it is taken, if there is one. -/
theorem Fills.above {n : ℕ} {t : Tree α} (fills : t.Fills n) :
    path (n + 1) = [] ∨ t.reaches (path (n + 1)).dropLast = true := by
  by_cases first : n = 0
  · rw [first]
    exact Or.inl path_one
  · obtain ⟨above, b, some, less, eq⟩ := exists_below (show 1 < n + 1 by omega)
    refine Or.inr ?_
    rw [eq, path_below some, List.dropLast_concat, fills _ some]
    exact decide_eq_true (by omega)

/-- Taking the next place fills a tree with one element more. -/
theorem Fills.succ {n : ℕ} {t u : Tree α} (fills : t.Fills n)
    (taken : ∀ way, u.reaches way = (t.reaches way || way == path (n + 1))) : u.Fills (n + 1) := by
  intro place some
  rw [taken, fills place some, Bool.eq_iff_iff, Bool.or_eq_true, decide_eq_true_eq, beq_iff_eq,
    decide_eq_true_eq]
  constructor
  · rintro (before | same)
    · omega
    · exact (path_injective some (by omega) same).le
  · intro le
    rcases Nat.lt_or_eq_of_le le with less | rfl
    · exact Or.inl (by omega)
    · exact Or.inr rfl

/-- Giving up the last place leaves a tree with one element less. -/
theorem Fills.pred {n : ℕ} {t u : Tree α} (fills : t.Fills (n + 1))
    (left : ∀ way, u.reaches way = (t.reaches way && way != path (n + 1))) : u.Fills n := by
  intro place some
  rw [left, fills place some, Bool.eq_iff_iff, Bool.and_eq_true, decide_eq_true_eq, bne_iff_ne,
    decide_eq_true_eq]
  constructor
  · rintro ⟨le, other⟩
    have : place ≠ n + 1 := fun same => other (same ▸ rfl)
    omega
  · intro le
    refine ⟨by omega, fun same => ?_⟩
    have := path_injective some (by omega) same
    omega

theorem Fills.congr {n : ℕ} {t u : Tree α} (fills : t.Fills n)
    (same : ∀ way, u.reaches way = t.reaches way) : u.Fills n :=
  fun place some => (same _).trans (fills place some)

/-! ### Putting an element at a free place -/

variable {t l r : Tree α} {x y : α} {way : List Bool}

theorem bag_graft (free : t.reaches way = false) : (t.graft x way).bag = x ::ₘ t.bag := by
  induction way generalizing t with
  | nil =>
    rw [eq_leaf_of_reaches free]
    rfl
  | cons b way ih =>
    cases t with
    | leaf => cases b <;> rfl
    | node l y r =>
      cases b with
      | false =>
        rw [graft, bag_node, ih free, bag_node, Multiset.cons_add, Multiset.cons_swap]
      | true =>
        rw [graft, bag_node, ih free, bag_node, Multiset.add_cons, Multiset.cons_swap]

theorem reaches_graft (free : t.reaches way = false)
    (above : way = [] ∨ t.reaches way.dropLast = true) (w : List Bool) :
    (t.graft x way).reaches w = (t.reaches w || w == way) := by
  induction way generalizing t w with
  | nil =>
    rw [eq_leaf_of_reaches free, reaches_leaf, Bool.false_or]
    cases w with
    | nil => rfl
    | cons b w => cases b <;> exact reaches_leaf w
  | cons b way ih =>
    have above := above.resolve_left (List.cons_ne_nil b way)
    cases t with
    | leaf => exact absurd above (by simp)
    | node l y r =>
      -- The upper neighbour of the free place is the top of this tree or lies in the same part.
      have next (u : Tree α) (b : Bool) (part : ∀ v, (node l y r).reaches (b :: v) = u.reaches v)
          (above : (node l y r).reaches (b :: way).dropLast = true) :
          way = [] ∨ u.reaches way.dropLast = true := by
        cases way with
        | nil => exact Or.inl rfl
        | cons c way => exact Or.inr ((part _).symm.trans above)
      cases b with
      | false =>
        have ih := ih free (next l false (fun _ => rfl) above)
        rcases w with _ | ⟨_ | _, w⟩
        · rfl
        · exact ih w
        · exact (Bool.or_false _).symm
      | true =>
        have ih := ih free (next r true (fun _ => rfl) above)
        rcases w with _ | ⟨_ | _, w⟩
        · rfl
        · exact (Bool.or_false _).symm
        · exact ih w

end Tree

/-! ## Order -/

variable (rank : α → ℕ)

namespace Tree

/-- Is no element less urgent than one below it? -/
def IsOrdered : Tree α → Prop
  | leaf => True
  | node l x r => (∀ y ∈ l.bag + r.bag, rank x ≤ rank y) ∧ l.IsOrdered ∧ r.IsOrdered

variable {rank} {t l r : Tree α} {x y : α} {way : List Bool}

theorem isOrdered_leaf : (leaf : Tree α).IsOrdered rank := trivial

theorem isOrdered_node (left : l.IsOrdered rank) (right : r.IsOrdered rank)
    (inLeft : ∀ v ∈ l.bag, rank x ≤ rank v) (inRight : ∀ v ∈ r.bag, rank x ≤ rank v) :
    (node l x r).IsOrdered rank := by
  refine ⟨fun v member => ?_, left, right⟩
  rcases Multiset.mem_add.mp member with inside | inside
  · exact inLeft v inside
  · exact inRight v inside

theorem isOrdered_single : (node leaf x leaf).IsOrdered rank :=
  isOrdered_node trivial trivial (fun v none => absurd none (Multiset.notMem_zero v))
    fun v none => absurd none (Multiset.notMem_zero v)

/-- The top comes first. -/
theorem IsOrdered.top (ordered : (node l x r).IsOrdered rank) :
    ∀ y ∈ (node l x r).bag, rank x ≤ rank y := by
  intro y member
  rcases Multiset.mem_cons.mp member with rfl | below
  · exact Nat.le_refl _
  · exact ordered.1 y below

/-! ### Rising -/

@[simp] theorem bag_riseLeft (l : Tree α) (y : α) (r : Tree α) :
    (riseLeft rank l y r).bag = y ::ₘ (l.bag + r.bag) := by
  unfold riseLeft
  split
  · rfl
  · split
    · rw [bag_node, bag_node, bag_node, Multiset.cons_add, Multiset.cons_add, Multiset.cons_swap]
    · rfl

@[simp] theorem bag_riseRight (l : Tree α) (y : α) (r : Tree α) :
    (riseRight rank l y r).bag = y ::ₘ (l.bag + r.bag) := by
  unfold riseRight
  split
  · rfl
  · split
    · rw [bag_node, bag_node, bag_node, Multiset.add_cons, Multiset.add_cons, Multiset.cons_swap]
    · rfl

@[simp] theorem reaches_riseLeft (l : Tree α) (y : α) (r : Tree α) (way : List Bool) :
    (riseLeft rank l y r).reaches way = (node l y r).reaches way := by
  unfold riseLeft
  split
  · rfl
  · split
    · rcases way with _ | ⟨_ | _, _ | ⟨_ | _, way⟩⟩ <;> rfl
    · rfl

@[simp] theorem reaches_riseRight (l : Tree α) (y : α) (r : Tree α) (way : List Bool) :
    (riseRight rank l y r).reaches way = (node l y r).reaches way := by
  unfold riseRight
  split
  · rfl
  · split
    · rcases way with _ | ⟨_ | _, _ | ⟨_ | _, way⟩⟩ <;> rfl
    · rfl

/-- If one element of an ordered tree may be more urgent than `y` and the others are not, then
the more urgent one is the top. -/
theorem IsOrdered.late {z : α} {others : Multiset α} (ordered : (node l z r).IsOrdered rank)
    (holds : (node l z r).bag = x ::ₘ others) (late : ∀ v ∈ others, rank y ≤ rank v) :
    ∀ v ∈ l.bag + r.bag, rank y ≤ rank v := by
  intro v member
  by_contra early
  have early : rank v < rank y := not_le.mp early
  have only {u : α} (member : u ∈ (node l z r).bag) (less : rank u < rank y) : u = x := by
    rw [holds] at member
    exact (Multiset.mem_cons.mp member).resolve_right fun other => absurd (late u other) (by omega)
  have top : z = x := only (Multiset.mem_cons_self z _) (lt_of_le_of_lt (ordered.1 v member) early)
  rw [bag_node, top] at holds
  rw [(Multiset.cons_inj_right x).mp holds] at member
  exact absurd (late v member) (by omega)

theorem IsOrdered.riseLeft {others : Multiset α} (left : l.IsOrdered rank)
    (right : r.IsOrdered rank) (holds : l.bag = x ::ₘ others) (late : ∀ v ∈ others, rank y ≤ rank v)
    (beside : ∀ v ∈ r.bag, rank y ≤ rank v) : (riseLeft rank l y r).IsOrdered rank := by
  cases l with
  | leaf => exact absurd holds.symm (Multiset.cons_ne_zero)
  | node ll z lr =>
    have below := left.late holds late
    unfold Tree.riseLeft
    simp only
    split
    · rename_i more
      refine ⟨fun v member => ?_, ⟨below, left.2⟩, right⟩
      rcases Multiset.mem_add.mp member with inside | beyond
      · rcases Multiset.mem_cons.mp inside with rfl | deep
        · exact more.le
        · exact left.1 v deep
      · exact more.le.trans (beside v beyond)
    · rename_i less
      refine ⟨fun v member => ?_, left, right⟩
      rcases Multiset.mem_add.mp member with inside | beyond
      · rcases Multiset.mem_cons.mp inside with rfl | deep
        · exact not_lt.mp less
        · exact below v deep
      · exact beside v beyond

theorem IsOrdered.riseRight {others : Multiset α} (left : l.IsOrdered rank)
    (right : r.IsOrdered rank) (holds : r.bag = x ::ₘ others)
    (late : ∀ v ∈ others, rank y ≤ rank v) (beside : ∀ v ∈ l.bag, rank y ≤ rank v) :
    (riseRight rank l y r).IsOrdered rank := by
  cases r with
  | leaf => exact absurd holds.symm (Multiset.cons_ne_zero)
  | node rl z rr =>
    have below := right.late holds late
    unfold Tree.riseRight
    simp only
    split
    · rename_i more
      refine ⟨fun v member => ?_, left, below, right.2⟩
      rcases Multiset.mem_add.mp member with beyond | inside
      · exact more.le.trans (beside v beyond)
      · rcases Multiset.mem_cons.mp inside with rfl | deep
        · exact more.le
        · exact right.1 v deep
    · rename_i less
      refine ⟨fun v member => ?_, left, right⟩
      rcases Multiset.mem_add.mp member with beyond | inside
      · exact beside v beyond
      · rcases Multiset.mem_cons.mp inside with rfl | deep
        · exact not_lt.mp less
        · exact below v deep

/-! ### Adding an element -/

theorem bag_insert (free : t.reaches way = false) : (t.insert rank x way).bag = x ::ₘ t.bag := by
  induction way generalizing t with
  | nil =>
    rw [eq_leaf_of_reaches free]
    rfl
  | cons b way ih =>
    cases t with
    | leaf => cases b <;> rfl
    | node l y r =>
      cases b with
      | false =>
        rw [insert, bag_riseLeft, ih free, bag_node, Multiset.cons_add, Multiset.cons_swap]
      | true =>
        rw [insert, bag_riseRight, ih free, bag_node, Multiset.add_cons, Multiset.cons_swap]

/-- An element that rises takes the place that it would have without rising. -/
theorem reaches_insert (t : Tree α) (x : α) (way w : List Bool) :
    (t.insert rank x way).reaches w = (t.graft x way).reaches w := by
  induction way generalizing t w with
  | nil => cases t <;> rfl
  | cons b way ih =>
    cases t with
    | leaf => cases b <;> rfl
    | node l y r =>
      cases b with
      | false =>
        rw [insert, reaches_riseLeft, graft]
        rcases w with _ | ⟨_ | _, w⟩
        · rfl
        · exact ih l w
        · rfl
      | true =>
        rw [insert, reaches_riseRight, graft]
        rcases w with _ | ⟨_ | _, w⟩
        · rfl
        · rfl
        · exact ih r w

theorem IsOrdered.insert (ordered : t.IsOrdered rank) (free : t.reaches way = false) :
    (t.insert rank x way).IsOrdered rank := by
  induction way generalizing t with
  | nil =>
    rw [eq_leaf_of_reaches free]
    exact ⟨fun y none => absurd none (Multiset.notMem_zero y), trivial, trivial⟩
  | cons b way ih =>
    cases t with
    | leaf =>
      cases b <;> exact ⟨fun y none => absurd none (Multiset.notMem_zero y), trivial, trivial⟩
    | node l y r =>
      obtain ⟨below, left, right⟩ := ordered
      have inLeft (v : α) (member : v ∈ l.bag) := below v (Multiset.mem_add.mpr (Or.inl member))
      have inRight (v : α) (member : v ∈ r.bag) := below v (Multiset.mem_add.mpr (Or.inr member))
      cases b with
      | false => exact (ih left free).riseLeft right (bag_insert free) inLeft inRight
      | true => exact left.riseRight (ih right free) (bag_insert free) inRight inLeft

/-! ### Sinking -/

/-- An element sinks in the place of the top. -/
theorem bag_sink_of_ne (x : α) (some : t ≠ leaf) : (sink rank x t).bag = x ::ₘ t.rest := by
  fun_induction sink rank x t with
  | case1 => exact absurd rfl some
  | case2 => rfl
  | case3 ll y lr _ _ ih =>
    rw [bag_node, ih nofun, rest, rest, bag_node, bag_leaf, Multiset.add_zero, Multiset.add_zero,
      Multiset.cons_swap]
  | case4 => rfl
  | case5 ll y lr _ rl z rr _ _ ih =>
    rw [bag_node, ih nofun, rest, rest, bag_node _ z, Multiset.add_cons, Multiset.add_cons,
      Multiset.cons_swap]
  | case6 => rfl
  | case7 ll y lr _ rl z rr _ _ ih =>
    rw [bag_node, ih nofun, rest, rest, bag_node _ y, Multiset.cons_add, Multiset.cons_add,
      Multiset.cons_swap]
  | case8 => rfl

theorem bag_sink (x : α) (l : Tree α) (y : α) (r : Tree α) :
    (sink rank x (node l y r)).bag = x ::ₘ (l.bag + r.bag) :=
  bag_sink_of_ne x nofun

/-- The top comes before all others, and before an element that is less urgent and takes its
place. -/
theorem forall_mem_sink (ordered : (node l y r).IsOrdered rank) (more : rank y < rank x) :
    ∀ v ∈ (sink rank x (node l y r)).bag, rank y ≤ rank v := by
  rw [bag_sink]
  exact Multiset.forall_mem_cons.mpr ⟨more.le, ordered.1⟩

theorem reaches_sink (x : α) (t : Tree α) (way : List Bool) :
    (sink rank x t).reaches way = t.reaches way := by
  fun_induction sink rank x t generalizing way with
  | case1 => rfl
  | case2 | case4 | case6 | case8 => rcases way with _ | ⟨_ | _, way⟩ <;> rfl
  | case3 ll y lr _ _ ih | case7 ll y lr _ rl z rr _ _ ih =>
    rcases way with _ | ⟨_ | _, way⟩
    · rfl
    · exact ih way
    · rfl
  | case5 ll y lr _ rl z rr _ _ ih =>
    rcases way with _ | ⟨_ | _, way⟩
    · rfl
    · rfl
    · exact ih way

/-- Is everything below the top of a tree in order? -/
def IsSettledBelow (rank : α → ℕ) : Tree α → Prop
  | leaf => True
  | node l _ r => l.IsOrdered rank ∧ r.IsOrdered rank

theorem IsOrdered.sink (x : α) (leans : t.LeansLeft) (settled : t.IsSettledBelow rank) :
    (sink rank x t).IsOrdered rank := by
  fun_induction Tree.sink rank x t with
  | case1 => exact isOrdered_leaf
  | case2 y r =>
    rw [leans.eq_leaf]
    exact isOrdered_single
  | case3 ll y lr _ more ih =>
    exact isOrdered_node (ih leans.left settled.1.2) isOrdered_leaf
      (forall_mem_sink settled.1 more) nofun
  | case4 ll y lr _ less =>
    exact isOrdered_node settled.1 isOrdered_leaf
      (fun v member => (not_lt.mp less).trans (settled.1.top v member)) nofun
  | case5 ll y lr _ rl z rr first more ih =>
    exact isOrdered_node settled.1 (ih leans.right settled.2.2)
      (fun v member => first.trans (settled.1.top v member)) (forall_mem_sink settled.2 more)
  | case6 ll y lr _ rl z rr first less =>
    have least := not_lt.mp less
    exact isOrdered_node settled.1 settled.2
      (fun v member => (least.trans first).trans (settled.1.top v member))
      fun v member => least.trans (settled.2.top v member)
  | case7 ll y lr _ rl z rr first more ih =>
    exact isOrdered_node (ih leans.left settled.1.2) settled.2 (forall_mem_sink settled.1 more)
      fun v member => (not_le.mp first).le.trans (settled.2.top v member)
  | case8 ll y lr _ rl z rr first less =>
    have least := not_lt.mp less
    exact isOrdered_node settled.1 settled.2
      (fun v member => least.trans (settled.1.top v member))
      fun v member => (least.trans (not_le.mp first).le).trans (settled.2.top v member)

/-! ### Filling the hole at the top -/

/-- An element takes the place of the top. -/
theorem bag_refill_of_ne (x : α) (some : t ≠ leaf) : (refill rank x t).bag = x ::ₘ t.rest := by
  fun_induction refill rank x t with
  | case1 => exact absurd rfl some
  | case2 => rfl
  | case3 ll y lr _ ih =>
    rw [bag_riseLeft, ih nofun, rest, rest, bag_node, bag_leaf, Multiset.add_zero,
      Multiset.add_zero, Multiset.cons_swap]
  | case4 ll y lr _ rl z rr _ ih =>
    rw [bag_riseRight, ih nofun, rest, rest, bag_node _ z, Multiset.add_cons, Multiset.add_cons,
      Multiset.cons_swap]
  | case5 ll y lr _ rl z rr _ ih =>
    rw [bag_riseLeft, ih nofun, rest, rest, bag_node _ y, Multiset.cons_add, Multiset.cons_add,
      Multiset.cons_swap]

theorem bag_refill (x : α) (l : Tree α) (y : α) (r : Tree α) :
    (refill rank x (node l y r)).bag = x ::ₘ (l.bag + r.bag) :=
  bag_refill_of_ne x nofun

theorem reaches_refill (x : α) (t : Tree α) (way : List Bool) :
    (refill rank x t).reaches way = t.reaches way := by
  fun_induction refill rank x t generalizing way with
  | case1 => rfl
  | case2 => rcases way with _ | ⟨_ | _, way⟩ <;> rfl
  | case3 ll y lr _ ih | case5 ll y lr _ rl z rr _ ih =>
    rw [reaches_riseLeft]
    rcases way with _ | ⟨_ | _, way⟩
    · rfl
    · exact ih way
    · rfl
  | case4 ll y lr _ rl z rr _ ih =>
    rw [reaches_riseRight]
    rcases way with _ | ⟨_ | _, way⟩
    · rfl
    · rfl
    · exact ih way

theorem IsOrdered.refill (x : α) (leans : t.LeansLeft) (settled : t.IsSettledBelow rank) :
    (refill rank x t).IsOrdered rank := by
  fun_induction Tree.refill rank x t with
  | case1 => exact isOrdered_leaf
  | case2 y r =>
    rw [leans.eq_leaf]
    exact isOrdered_single
  | case3 ll y lr _ ih =>
    exact (ih leans.left settled.1.2).riseLeft isOrdered_leaf (bag_refill x _ _ _) settled.1.1 nofun
  | case4 ll y lr _ rl z rr first ih =>
    exact settled.1.riseRight (ih leans.right settled.2.2) (bag_refill x _ _ _) settled.2.1
      fun v member => first.trans (settled.1.top v member)
  | case5 ll y lr _ rl z rr first ih =>
    exact (ih leans.left settled.1.2).riseLeft settled.2 (bag_refill x _ _ _) settled.1.1
      fun v member => (not_le.mp first).le.trans (settled.2.top v member)

/-! ### Settling -/

theorem reaches_settle (t : Tree α) (way : List Bool) :
    (settle rank t).reaches way = t.reaches way := by
  induction t generalizing way with
  | leaf => rfl
  | node l x r left right =>
    rw [settle, reaches_sink]
    rcases way with _ | ⟨_ | _, way⟩
    · rfl
    · exact left way
    · exact right way

theorem bag_settle (t : Tree α) : (settle rank t).bag = t.bag := by
  induction t with
  | leaf => rfl
  | node l x r left right => rw [settle, bag_sink, left, right, bag_node]

theorem LeansLeft.isOrdered_settle (leans : t.LeansLeft) : (settle rank t).IsOrdered rank := by
  induction t with
  | leaf => exact isOrdered_leaf
  | node l x r left right =>
    refine IsOrdered.sink x (fun way => ?_) ⟨left leans.left, right leans.right⟩
    have same (way : List Bool) :
        (node (settle rank l) x (settle rank r)).reaches way = (node l x r).reaches way := by
      rcases way with _ | ⟨_ | _, way⟩
      · rfl
      · exact reaches_settle l way
      · exact reaches_settle r way
    rw [same, same]
    exact leans way

/-! ### Taking the element at the last place -/

/-- What is at a place with nothing below can be taken from there.  If the tree is in order it
still is, and its top is not less urgent than what was taken. -/
theorem exists_takeAt (rank : α → ℕ) (taken : t.reaches way = true)
    (last : ∀ b, t.reaches (way ++ [b]) = false) :
    ∃ x u, t.takeAt way = some (x, u) ∧ t.bag = x ::ₘ u.bag ∧
      (∀ w, u.reaches w = (t.reaches w && w != way)) ∧
      (t.IsOrdered rank → u.IsOrdered rank ∧ ∀ l z r, u = node l z r → rank z ≤ rank x) := by
  induction way generalizing t with
  | nil =>
    cases t with
    | leaf => exact nomatch taken
    | node l x r =>
      obtain rfl := eq_leaf_of_reaches (last false)
      obtain rfl := eq_leaf_of_reaches (last true)
      refine ⟨x, leaf, rfl, rfl, fun w => ?_, fun _ => ⟨isOrdered_leaf, nofun⟩⟩
      rcases w with _ | ⟨_ | _, w⟩ <;> simp
  | cons b way ih =>
    cases t with
    | leaf => exact nomatch taken
    | node l y r =>
      cases b with
      | false =>
        obtain ⟨x, u, some, bag, left, ordered⟩ := ih (t := l) taken last
        refine ⟨x, node u y r, by rw [takeAt, some]; rfl, ?_, fun w => ?_, fun h => ?_⟩
        · rw [bag_node, bag, bag_node, Multiset.cons_add, Multiset.cons_swap]
        · rcases w with _ | ⟨_ | _, w⟩
          · rfl
          · rw [reaches_left, left, reaches_left]
            rfl
          · simp
        · have inLeft (v : α) (member : v ∈ x ::ₘ u.bag) : rank y ≤ rank v :=
            h.1 v (Multiset.mem_add.mpr (Or.inl (bag ▸ member)))
          refine ⟨isOrdered_node (ordered h.2.1).1 h.2.2
            (fun v member => inLeft v (Multiset.mem_cons_of_mem member))
            fun v member => h.1 v (Multiset.mem_add.mpr (Or.inr member)), ?_⟩
          rintro _ _ _ ⟨⟩
          exact inLeft x (Multiset.mem_cons_self x _)
      | true =>
        obtain ⟨x, u, some, bag, left, ordered⟩ := ih (t := r) taken last
        refine ⟨x, node l y u, by rw [takeAt, some]; rfl, ?_, fun w => ?_, fun h => ?_⟩
        · rw [bag_node, bag, bag_node, Multiset.add_cons, Multiset.cons_swap]
        · rcases w with _ | ⟨_ | _, w⟩
          · rfl
          · simp
          · rw [reaches_right, left, reaches_right]
            rfl
        · have inRight (v : α) (member : v ∈ x ::ₘ u.bag) : rank y ≤ rank v :=
            h.1 v (Multiset.mem_add.mpr (Or.inr (bag ▸ member)))
          refine ⟨isOrdered_node h.2.1 (ordered h.2.2).1
            (fun v member => h.1 v (Multiset.mem_add.mpr (Or.inl member)))
            fun v member => inRight v (Multiset.mem_cons_of_mem member), ?_⟩
          rintro _ _ _ ⟨⟩
          exact inRight x (Multiset.mem_cons_self x _)

end Tree

/-! ## Sound queues -/

/-- Is the tree filled level by level and in order? -/
structure Sound (q : Queue α) : Prop where
  fills : q.tree.Fills q.size
  ordered : q.tree.IsOrdered rank

variable {rank}

/-- The queue of a list holds its elements. -/
theorem ofList_spec (rank : α → ℕ) (xs : List α) :
    (ofList rank xs).Sound rank ∧ (ofList rank xs).tree.bag = (xs : Multiset α) := by
  -- The tree that the list is laid out in, before anything sinks.
  have filled (xs : List α) (q : Queue α) (fills : q.tree.Fills q.size) :
      let p := xs.foldl
        (fun (q : Queue α) x => ⟨q.size + 1, q.tree.graft x (path (q.size + 1))⟩) q
      p.tree.Fills p.size ∧ p.tree.bag = q.tree.bag + xs := by
    induction xs generalizing q with
    | nil => exact ⟨fills, (Multiset.add_zero _).symm⟩
    | cons x xs ih =>
      obtain ⟨more, bag⟩ := ih ⟨q.size + 1, q.tree.graft x (path (q.size + 1))⟩
        (fills.succ (Tree.reaches_graft fills.free fills.above))
      refine ⟨more, bag.trans ?_⟩
      rw [Tree.bag_graft fills.free, ← Multiset.cons_coe, Multiset.cons_add, Multiset.add_cons]
  obtain ⟨fills, bag⟩ := filled xs ⟨0, .leaf⟩ Tree.fills_leaf
  refine ⟨⟨fills.congr (Tree.reaches_settle _), fills.leansLeft.isOrdered_settle⟩, ?_⟩
  rw [Tree.bag_leaf, Multiset.zero_add] at bag
  exact (Tree.bag_settle _).trans bag

variable {q q' : Queue α} {x : α}

theorem Sound.push (sound : q.Sound rank) (x : α) : (q.push rank x).Sound rank where
  fills := sound.fills.succ fun way =>
    (Tree.reaches_insert q.tree x _ way).trans
      (Tree.reaches_graft sound.fills.free sound.fills.above way)
  ordered := sound.ordered.insert sound.fills.free

theorem Sound.bag_push (sound : q.Sound rank) (x : α) :
    (q.push rank x).tree.bag = x ::ₘ q.tree.bag :=
  Tree.bag_insert sound.fills.free

/-- The element at the last place of a queue that is not empty. -/
theorem Sound.exists_takeAt (sound : q.Sound rank) {n : ℕ} (size : q.size = n + 1) :
    ∃ last t, q.tree.takeAt (path (n + 1)) = some (last, t) ∧ q.tree.bag = last ::ₘ t.bag ∧
      t.Fills n ∧ t.IsOrdered rank ∧ ∀ l z r, t = .node l z r → rank z ≤ rank last := by
  have fills : q.tree.Fills (n + 1) := size ▸ sound.fills
  have taken : q.tree.reaches (path (n + 1)) = true := by
    rw [fills _ (by omega)]
    exact decide_eq_true (Nat.le_refl _)
  have last (b : Bool) : q.tree.reaches (path (n + 1) ++ [b]) = false := by
    rw [← path_below (by omega), fills _ (by omega)]
    exact decide_eq_false (by omega)
  obtain ⟨last, t, some, bag, left, ordered⟩ := Tree.exists_takeAt rank taken last
  exact ⟨last, t, some, bag, fills.pred left, ordered sound.ordered⟩

/-- A queue that hands out nothing is empty. -/
theorem Sound.bag_of_pop?_eq_none (sound : q.Sound rank) (none : q.pop? rank = none) :
    q.tree.bag = 0 := by
  cases size : q.size with
  | zero =>
    have empty := sound.fills 1 Nat.one_pos
    rw [path_one, size] at empty
    rw [Tree.eq_leaf_of_reaches empty, Tree.bag_leaf]
  | succ n =>
    obtain ⟨last, t, some, -⟩ := sound.exists_takeAt size
    rw [pop?, size] at none
    simp only [some] at none
    cases t <;> exact nomatch none

/-- **What a queue hands out**: one of its most urgent elements, and a queue of the others. -/
theorem Sound.of_pop? (sound : q.Sound rank) (popped : q.pop? rank = some (x, q')) :
    q'.Sound rank ∧ q.tree.bag = x ::ₘ q'.tree.bag ∧ ∀ y ∈ q'.tree.bag, rank x ≤ rank y := by
  cases size : q.size with
  | zero =>
    rw [pop?, size] at popped
    exact nomatch popped
  | succ n =>
    obtain ⟨last, t, some, bag, fills, ordered, first⟩ := sound.exists_takeAt size
    rw [pop?, size] at popped
    simp only [some] at popped
    cases t with
    | leaf =>
      cases popped
      exact ⟨⟨fills, ordered⟩, bag, nofun⟩
    | node l top r =>
      cases popped
      have refilled : (Tree.refill rank last (.node l x r)).bag = last ::ₘ (l.bag + r.bag) :=
        Tree.bag_refill last l x r
      refine ⟨⟨fills.congr (Tree.reaches_refill last _),
        Tree.IsOrdered.refill last fills.leansLeft ordered.2⟩, ?_, fun y member => ?_⟩
      · rw [bag, refilled, Tree.bag_node, Multiset.cons_swap]
      · rw [refilled] at member
        rcases Multiset.mem_cons.mp member with rfl | deep
        · exact first l x r rfl
        · exact ordered.1 y deep

end Queue
end StreamCatalog
