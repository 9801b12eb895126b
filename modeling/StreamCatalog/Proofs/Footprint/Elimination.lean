import Mathlib.Data.List.Infix
import StreamCatalog.Footprint.Thinning
import StreamCatalog.Proofs.Decimal.Ordering
import StreamCatalog.Proofs.Footprint.Waiting
import StreamCatalog.Proofs.Outcomes

/-!
# Dropping vertices one after the other

The loop that drops the lightest vertices keeps its triangles in a queue, and when a vertex is
dropped, the triangles that it was a corner of stay there.  What keeps the loop right is that
the queue is never short of a triangle: `Keeps` says that the triangle of any three neighbours
waits, whatever else may wait too.  A triangle that is out of date is passed over, and then the
others still wait; a vertex that is dropped makes two new pairs of neighbours, and the
triangles over them are added (`Keeps.past`, `Keeps.drop`).

So when the loop ends, either nothing waits and there are no three neighbours left, or the
lightest triangle is above the limit and all others with it (`Keeps.drops`).

## The lines in between

`Passes` lists the lines that the loop goes through.  The loop finds an end exactly if all
triangles of neighbours in these lines have an area that is a number (`Keeps.exists_dropLight`
and `Drops.weighable`).
-/

namespace StreamCatalog
namespace Footprint

/-! ## Three neighbours -/

section Neighbours

variable {α : Type} {a b x y z : α} {l pre post : List α}

theorem triple_infix_cons : [x, y, z] <:+: a :: l ↔
    (x = a ∧ [y, z] <+: l) ∨ [x, y, z] <:+: l := by
  rw [List.infix_cons_iff, List.cons_prefix_cons]

/-- Three neighbours stand on one side of a seam or across it. -/
theorem triple_infix_seam (h : [x, y, z] <:+: pre ++ a :: b :: post) :
    [x, y, z] <:+: pre ++ [a] ∨ [x, y, z] <:+: b :: post ∨
      (pre.getLast? = some x ∧ y = a ∧ z = b) ∨ (x = a ∧ y = b ∧ post.head? = some z) := by
  induction pre with
  | nil =>
    rcases triple_infix_cons.mp h with ⟨rfl, next⟩ | h
    · obtain ⟨rfl, last⟩ := List.cons_prefix_cons.mp next
      obtain ⟨rest, rfl⟩ := last
      exact .inr (.inr (.inr ⟨rfl, rfl, rfl⟩))
    · exact .inr (.inl h)
  | cons p pre ih =>
    rcases triple_infix_cons.mp h with ⟨rfl, next⟩ | h
    · match pre with
      | [] =>
        obtain ⟨rfl, last⟩ := List.cons_prefix_cons.mp next
        obtain ⟨rfl, -⟩ := List.cons_prefix_cons.mp last
        exact .inr (.inr (.inl ⟨rfl, rfl, rfl⟩))
      | [q] =>
        obtain ⟨rfl, last⟩ := List.cons_prefix_cons.mp next
        obtain ⟨rfl, -⟩ := List.cons_prefix_cons.mp last
        exact .inl (List.infix_refl _)
      | q :: r :: more =>
        obtain ⟨rfl, last⟩ := List.cons_prefix_cons.mp next
        obtain ⟨rfl, -⟩ := List.cons_prefix_cons.mp last
        exact .inl ⟨[], more ++ [a], rfl⟩
    · rcases ih h with left | right | ⟨last, across⟩ | across
      · exact .inl (triple_infix_cons.mpr (.inr left))
      · exact .inr (.inl right)
      · refine .inr (.inr (.inl ⟨?_, across⟩))
        rw [List.getLast?_cons, last, Option.getD_some]
      · exact .inr (.inr (.inr across))

end Neighbours

/-! ## Weighing -/

/-- The triangle of three vertices. -/
def cornerOf (a b c : Vertex) : Corner :=
  ⟨a.index, b.index, c.index, (triangleArea a.place b.place c.place).toBits.toNat⟩

/-- Is the area of the triangle of three vertices a number? -/
def Weighable (a b c : Vertex) : Prop := (triangleArea a.place b.place c.place).isNaN = false

/-- Are all triangles of three neighbours in a line weighable? -/
def AllWeighable (line : List Vertex) : Prop :=
  ∀ a b c, [a, b, c] <:+: line → Weighable a b c

variable {a b c : Vertex} {t : Corner}

theorem weigh_eq_ok_iff : weigh a b c = .ok t ↔ Weighable a b c ∧ cornerOf a b c = t := by
  unfold weigh Weighable
  simp only
  split
  · next none =>
    exact ⟨nofun, fun h => absurd (none.symm.trans h.1) nofun⟩
  · next some =>
    rw [Except.ok.injEq]
    exact ⟨fun h => ⟨Bool.eq_false_iff.mpr some, h⟩, And.right⟩

theorem weigh_of_weighable (h : Weighable a b c) : weigh a b c = .ok (cornerOf a b c) :=
  weigh_eq_ok_iff.mpr ⟨h, rfl⟩

theorem allWeighable_cons {d : Vertex} {line : List Vertex} :
    AllWeighable (a :: b :: d :: line) ↔ Weighable a b d ∧ AllWeighable (b :: d :: line) := by
  constructor
  · intro all
    exact ⟨all a b d ⟨[], line, rfl⟩, fun x y z h => all x y z (triple_infix_cons.mpr (.inr h))⟩
  · rintro ⟨first, rest⟩ x y z h
    rcases triple_infix_cons.mp h with ⟨rfl, next⟩ | h
    · rw [List.cons_prefix_cons, List.cons_prefix_cons] at next
      obtain ⟨rfl, rfl, -⟩ := next
      exact first
    · exact rest x y z h

/-- The triangles of a line are found if all of them are weighable. -/
theorem exists_corners {line : List Vertex} (all : AllWeighable line) :
    ∃ ts, corners line = .ok ts := by
  fun_induction corners line with
  | case1 a b c rest ih =>
    obtain ⟨first, more⟩ := allWeighable_cons.mp all
    obtain ⟨ts, found⟩ := ih more
    exact ⟨cornerOf a b c :: ts, by rw [weigh_of_weighable first, found]; rfl⟩
  | case2 => exact ⟨[], rfl⟩

theorem short_of_corners {line : List Vertex}
    (short : ∀ a b c rest, line = a :: b :: c :: rest → False) (x y z : Vertex) :
    ¬ [x, y, z] <:+: line := by
  rintro ⟨s, t, rfl⟩
  match s with
  | [] => exact short x y z t rfl
  | [p] => exact short p x y (z :: t) rfl
  | [p, q] => exact short p q x (y :: z :: t) rfl
  | p :: q :: r :: more => exact short p q r (more ++ [x, y, z] ++ t) rfl

/-- The triangles of a line are those of three neighbours. -/
theorem corners_spec {line : List Vertex} {ts : List Corner} (found : corners line = .ok ts) :
    AllWeighable line ∧
      ∀ t, t ∈ ts ↔ ∃ a b c, [a, b, c] <:+: line ∧ cornerOf a b c = t := by
  fun_induction corners line generalizing ts with
  | case1 a b c rest ih =>
    obtain ⟨first, weighed, found⟩ := bind_eq_ok_iff.mp found
    obtain ⟨more, others, found⟩ := bind_eq_ok_iff.mp found
    obtain rfl : first :: more = ts := Except.ok.inj found
    obtain ⟨weighable, rfl⟩ := weigh_eq_ok_iff.mp weighed
    obtain ⟨all, mem⟩ := ih others
    refine ⟨allWeighable_cons.mpr ⟨weighable, all⟩, fun t => ?_⟩
    rw [List.mem_cons, mem]
    constructor
    · rintro (rfl | ⟨x, y, z, h, rfl⟩)
      · exact ⟨a, b, c, ⟨[], rest, rfl⟩, rfl⟩
      · exact ⟨x, y, z, triple_infix_cons.mpr (.inr h), rfl⟩
    · rintro ⟨x, y, z, h, rfl⟩
      rcases triple_infix_cons.mp h with ⟨rfl, next⟩ | h
      · rw [List.cons_prefix_cons, List.cons_prefix_cons] at next
        obtain ⟨rfl, rfl, -⟩ := next
        exact .inl rfl
      · exact .inr ⟨x, y, z, h, rfl⟩
  | case2 line short =>
    cases found
    have none := short_of_corners short
    exact ⟨fun x y z h => absurd h (none x y z),
      fun t => ⟨nofun, fun ⟨x, y, z, h, _⟩ => absurd h (none x y z)⟩⟩

/-! ## Neighbours -/

/-- Do the numbers of the vertices ascend? -/
def Ascends (line : List Vertex) : Prop := line.Pairwise fun a b => a.index < b.index

variable {line pre post : List Vertex} {n : Neighbours}

/-- A vertex that has neighbours stands between them. -/
theorem neighbours?_spec {index : ℕ} {before : Option Vertex}
    (found : neighbours? index before line = some n) :
    ∃ pre b post, line = pre ++ n.left :: b :: n.right :: post ∧ b.index = index ∧
      n.beforeLeft = pre.getLast?.or before ∧ n.afterRight = post.head? := by
  fun_induction neighbours? index before line with
  | case1 before a b c rest same =>
    cases found
    exact ⟨[], b, rest, rfl, same, rfl, rfl⟩
  | case2 before a b c rest other ih =>
    obtain ⟨pre, d, post, line, same, left, right⟩ := ih found
    refine ⟨a :: pre, d, post, congrArg (List.cons a) line, same, ?_, right⟩
    rw [left, List.getLast?_cons]
    cases pre.getLast? <;> rfl
  | case3 => exact nomatch found

/-- In an ascending line every inner vertex is found between its neighbours. -/
theorem exists_neighbours? (before : Option Vertex)
    (ascends : Ascends (pre ++ a :: b :: c :: post)) :
    ∃ n, neighbours? b.index before (pre ++ a :: b :: c :: post) = some n ∧
      n.left = a ∧ n.right = c := by
  induction pre generalizing before with
  | nil => exact ⟨_, if_pos rfl, rfl, rfl⟩
  | cons p pre ih =>
    obtain ⟨above, ascends⟩ := List.pairwise_cons.mp ascends
    obtain ⟨n, found, sides⟩ := ih (some p) ascends
    refine ⟨n, ?_, sides⟩
    match pre with
    | [] =>
      have less : a.index < b.index := (List.pairwise_cons.mp ascends).1 b (List.mem_cons_self ..)
      exact (if_neg less.ne).trans found
    | [q] =>
      have less : q.index < b.index := (List.pairwise_cons.mp ascends).1 b (by simp)
      exact (if_neg less.ne).trans found
    | q :: r :: more =>
      have less : q.index < b.index := (List.pairwise_cons.mp ascends).1 b (by simp)
      exact (if_neg less.ne).trans found

/-- A line without one of its inner vertices. -/
theorem without_eq (ascends : Ascends (pre ++ a :: b :: c :: post)) :
    without b.index (pre ++ a :: b :: c :: post) = pre ++ a :: c :: post := by
  have ends : Ascends ((pre ++ [a]) ++ b :: c :: post) := by
    rwa [List.append_assoc, List.singleton_append]
  obtain ⟨-, after, across⟩ := List.pairwise_append.mp ends
  have left : ∀ v ∈ pre ++ [a], v.index ≠ b.index := fun v member =>
    (across v member b (List.mem_cons_self ..)).ne
  have right : ∀ v ∈ c :: post, v.index ≠ b.index := fun v member =>
    ((List.pairwise_cons.mp after).1 v member).ne'
  have split : pre ++ a :: b :: c :: post = (pre ++ [a]) ++ b :: c :: post := by
    rw [List.append_assoc, List.singleton_append]
  rw [split, without, List.filter_append, List.filter_cons,
    List.filter_eq_self.mpr fun v member => decide_eq_true (left v member),
    List.filter_eq_self.mpr fun v member => decide_eq_true (right v member),
    if_neg (by simp), List.append_assoc, List.singleton_append]

/-! ## One step -/

/-- Is every triangle of three neighbours weighed, and does it wait? -/
structure Keeps (line : List Vertex) (q : Queue Corner) : Prop where
  ascends : Ascends line
  sound : q.Sound Corner.weight
  weighable : AllWeighable line
  waits : ∀ a b c, [a, b, c] <:+: line → cornerOf a b c ∈ q.tree.bag

/-- Do the vertices of a triangle still stand next to each other, with these neighbours around
them? -/
def Stands (line : List Vertex) (t : Corner) (n : Neighbours) : Prop :=
  neighbours? t.index none line = some n ∧ n.left.index = t.left ∧ n.right.index = t.right

/-- A triangle whose middle is gone stands nowhere. -/
theorem not_stands_of_gone (gone : neighbours? t.index none line = none) (n : Neighbours) :
    ¬ Stands line t n := fun stands => nomatch gone.symm.trans stands.1

/-- A triangle whose middle has got other neighbours stands nowhere. -/
theorem not_stands_of_other {n : Neighbours} (found : neighbours? t.index none line = some n)
    (other : ¬ (n.left.index = t.left ∧ n.right.index = t.right)) (m : Neighbours) :
    ¬ Stands line t m := by
  rintro ⟨found', same⟩
  obtain rfl : n = m := Option.some.inj (found.symm.trans found')
  exact other same

variable {q q₁ q₂ q₃ : Queue Corner}

theorem Keeps.stands (keeps : Keeps line q) (h : [a, b, c] <:+: line) :
    ∃ n, Stands line (cornerOf a b c) n := by
  obtain ⟨pre, post, rfl⟩ := h
  have split : pre ++ [a, b, c] ++ post = pre ++ a :: b :: c :: post := by
    rw [List.append_assoc]
    rfl
  obtain ⟨n, found, rfl, rfl⟩ := exists_neighbours? none (split ▸ keeps.ascends)
  exact ⟨n, split ▸ found, rfl, rfl⟩

/-- A triangle that is out of date is not missed. -/
theorem Keeps.past (keeps : Keeps line q) (popped : q.pop? Corner.weight = some (t, q₁))
    (stale : ∀ n, ¬ Stands line t n) : Keeps line q₁ := by
  obtain ⟨sound, bag, -⟩ := keeps.sound.of_pop? popped
  refine ⟨keeps.ascends, sound, keeps.weighable, fun a b c h => ?_⟩
  have waits := keeps.waits a b c h
  rw [bag, Multiset.mem_cons] at waits
  rcases waits with rfl | waits
  · obtain ⟨n, stands⟩ := keeps.stands h
    exact absurd stands (stale n)
  · exact waits

/-- What is added to the queue: the triangle, if it is one. -/
theorem requeue_spec {x y : Option Vertex} (sound : q.Sound Corner.weight)
    (added : requeue q x b y = .ok q₁) :
    q₁.Sound Corner.weight ∧ (∀ t ∈ q.tree.bag, t ∈ q₁.tree.bag) ∧
      ∀ a c, x = some a → y = some c → Weighable a b c ∧ cornerOf a b c ∈ q₁.tree.bag := by
  unfold requeue at added
  split at added
  · next a c =>
    obtain ⟨t, weighed, pushed⟩ := bind_eq_ok_iff.mp added
    obtain rfl : q.push Corner.weight t = q₁ := Except.ok.inj pushed
    obtain ⟨weighable, rfl⟩ := weigh_eq_ok_iff.mp weighed
    refine ⟨sound.push _, fun t member => ?_, ?_⟩
    · rw [sound.bag_push]
      exact Multiset.mem_cons_of_mem member
    · rintro _ _ ⟨⟩ ⟨⟩
      rw [sound.bag_push]
      exact ⟨weighable, Multiset.mem_cons_self _ _⟩
  · next none =>
    cases added
    exact ⟨sound, fun _ => id, fun a c left right => (none a c left right).elim⟩

theorem exists_requeue {x y : Option Vertex}
    (weighable : ∀ a c, x = some a → y = some c → Weighable a b c) :
    ∃ q₁, requeue q x b y = .ok q₁ := by
  unfold requeue
  split
  · next a c => exact ⟨_, by rw [weigh_of_weighable (weighable a c rfl rfl)]; rfl⟩
  · exact ⟨q, rfl⟩

/-- Where a triangle stands, its middle vertex is the one that is dropped. -/
theorem Stands.exists_eq (ascends : Ascends line) (stands : Stands line t n) :
    ∃ pre b post, line = pre ++ n.left :: b :: n.right :: post ∧ b.index = t.index ∧
      without t.index line = pre ++ n.left :: n.right :: post ∧
      n.beforeLeft = pre.getLast? ∧ n.afterRight = post.head? := by
  obtain ⟨pre, b, post, rfl, same, left, right⟩ := neighbours?_spec stands.1
  rw [Option.or_none] at left
  exact ⟨pre, b, post, rfl, same, same ▸ without_eq ascends, left, right⟩

/-- **A dropped vertex makes two triangles, and when they are added none is missing.** -/
theorem Keeps.drop (keeps : Keeps line q) (popped : q.pop? Corner.weight = some (t, q₁))
    (stands : Stands line t n) (first : requeue q₁ n.beforeLeft n.left (some n.right) = .ok q₂)
    (second : requeue q₂ (some n.left) n.right n.afterRight = .ok q₃) :
    Keeps (without t.index line) q₃ := by
  obtain ⟨sound, bag, -⟩ := keeps.sound.of_pop? popped
  obtain ⟨sound, stay, left⟩ := requeue_spec sound first
  obtain ⟨sound, stay', right⟩ := requeue_spec sound second
  obtain ⟨pre, b, post, rfl, same, rest, before, after⟩ := stands.exists_eq keeps.ascends
  have split : pre ++ n.left :: b :: n.right :: post =
      (pre ++ [n.left]) ++ (b :: n.right :: post) := by
    rw [List.append_assoc, List.singleton_append]
  have sides := keeps.ascends
  rw [split] at sides
  obtain ⟨-, behind, across⟩ := List.pairwise_append.mp sides
  -- A triangle with another middle vertex is as it was, and still waits.
  have other (x y z : Vertex) (h : [x, y, z] <:+: pre ++ n.left :: b :: n.right :: post)
      (apart : y.index ≠ b.index) : Weighable x y z ∧ cornerOf x y z ∈ q₃.tree.bag := by
    refine ⟨keeps.weighable x y z h, stay' _ (stay _ ?_)⟩
    have waits := keeps.waits x y z h
    rw [bag, Multiset.mem_cons] at waits
    refine waits.resolve_left fun triangle => apart ?_
    rw [same, ← triangle, cornerOf]
  have all (x y z : Vertex) (h : [x, y, z] <:+: pre ++ n.left :: n.right :: post) :
      Weighable x y z ∧ cornerOf x y z ∈ q₃.tree.bag := by
    rcases triple_infix_seam h with h | h | ⟨last, rfl, rfl⟩ | ⟨rfl, rfl, head⟩
    · have member : y ∈ pre ++ [n.left] := h.subset (by simp)
      refine other x y z (split ▸ h.trans (List.prefix_append ..).isInfix) ?_
      exact (across y member b (List.mem_cons_self ..)).ne
    · have member : y ∈ n.right :: post := h.subset (by simp)
      refine other x y z (split ▸ h.trans ?_) ?_
      · exact ((List.suffix_cons b _).trans (List.suffix_append ..)).isInfix
      · exact ((List.pairwise_cons.mp behind).1 y member).ne'
    · obtain ⟨weighable, waits⟩ := left x n.right (before.trans last) rfl
      exact ⟨weighable, stay' _ waits⟩
    · exact right n.left z rfl (after.trans head)
  rw [rest]
  refine ⟨?_, sound, fun x y z h => (all x y z h).1, fun x y z h => (all x y z h).2⟩
  exact rest ▸ keeps.ascends.sublist (List.filter_sublist ..)

/-! ## What is left of a line -/

/-- A list that lost some elements, but neither the first nor the last one. -/
inductive Trimmed {α : Type} : List α → List α → Prop
  | whole (l : List α) : Trimmed l l
  | inner (a z : α) {mid kept : List α} (sublist : kept.Sublist mid) :
      Trimmed (a :: (mid ++ [z])) (a :: (kept ++ [z]))

namespace Trimmed

variable {α β : Type} {l l' l'' : List α}

theorem sublist (h : Trimmed l l') : l'.Sublist l := by
  cases h with
  | whole => exact List.Sublist.refl l
  | inner a z sublist => exact (sublist.append_right [z]).cons_cons a

theorem head?_eq (h : Trimmed l l') : l'.head? = l.head? := by
  cases h <;> rfl

theorem getLast?_eq (h : Trimmed l l') : l'.getLast? = l.getLast? := by
  cases h with
  | whole => rfl
  | inner a z sublist => rw [List.getLast?_cons, List.getLast?_cons, List.getLast?_concat,
      List.getLast?_concat]

theorem trans (h : Trimmed l l') (h' : Trimmed l' l'') : Trimmed l l'' := by
  cases h with
  | whole => exact h'
  | inner a z sublist =>
    generalize same : a :: (_ ++ [z]) = l₁ at h'
    cases h' with
    | whole => exact same ▸ .inner a z sublist
    | inner b y sublist' =>
      obtain ⟨rfl, rest⟩ := List.cons.inj same
      obtain ⟨rfl, last⟩ := List.append_inj' rest rfl
      obtain ⟨rfl, -⟩ := List.cons.inj last
      exact .inner _ _ (sublist'.trans sublist)

theorem map (h : Trimmed l l') (f : α → β) : Trimmed (l.map f) (l'.map f) := by
  cases h with
  | whole => exact .whole _
  | inner a z sublist =>
    simp only [List.map_cons, List.map_append, List.map_nil]
    exact .inner (f a) (f z) (sublist.map f)

/-- Dropping one element between two others trims a list. -/
theorem drop (pre : List α) (a b c : α) (post : List α) :
    Trimmed (pre ++ a :: b :: c :: post) (pre ++ a :: c :: post) := by
  obtain ⟨first, left, before⟩ := List.exists_cons_of_ne_nil (List.concat_ne_nil a pre)
  obtain empty | ⟨right, last, behind⟩ := List.eq_nil_or_concat' (c :: post)
  · exact nomatch empty
  · have long : pre ++ a :: b :: c :: post = first :: ((left ++ b :: right) ++ [last]) := by
      rw [behind, ← List.singleton_append, ← List.append_assoc, before, List.cons_append,
        List.append_assoc, List.cons_append]
    have short : pre ++ a :: c :: post = first :: ((left ++ right) ++ [last]) := by
      rw [behind, ← List.singleton_append, ← List.append_assoc, before, List.cons_append,
        List.append_assoc]
    rw [long, short]
    exact .inner first last ((List.sublist_cons_self b right).append_left left)

end Trimmed

/-! ## The loop -/

/-- The lines that the loop goes through. -/
inductive Passes (limit : Option ℕ) : List Vertex → Queue Corner → List Vertex → Prop
  /-- The line that it begins with. -/
  | here {line : List Vertex} {q : Queue Corner} : Passes limit line q line
  /-- Those that it goes through after it passed a triangle over. -/
  | past {line l : List Vertex} {q q₁ : Queue Corner} {t : Corner}
      (popped : q.pop? Corner.weight = some (t, q₁)) (light : exceeds limit t.weight = false)
      (stale : ∀ n, ¬ Stands line t n) (later : Passes limit line q₁ l) : Passes limit line q l
  /-- The line that is left when a vertex is dropped. -/
  | dropped {line : List Vertex} {q q₁ : Queue Corner} {t : Corner} {n : Neighbours}
      (popped : q.pop? Corner.weight = some (t, q₁)) (light : exceeds limit t.weight = false)
      (stands : Stands line t n) : Passes limit line q (without t.index line)
  /-- Those that it goes through after the new triangles are weighed. -/
  | later {line l : List Vertex} {q q₁ q₂ q₃ : Queue Corner} {t : Corner} {n : Neighbours}
      (popped : q.pop? Corner.weight = some (t, q₁)) (light : exceeds limit t.weight = false)
      (stands : Stands line t n) (first : requeue q₁ n.beforeLeft n.left (some n.right) = .ok q₂)
      (second : requeue q₂ (some n.left) n.right n.afterRight = .ok q₃)
      (later : Passes limit (without t.index line) q₃ l) : Passes limit line q l

variable {limit : Option ℕ} {kept : List Vertex}

/-- The two new triangles stand in the line that is left. -/
theorem Stands.weighable (ascends : Ascends line) (stands : Stands line t n)
    (weighable : AllWeighable (without t.index line)) :
    (∀ a c, n.beforeLeft = some a → some n.right = some c → Weighable a n.left c) ∧
      ∀ a c, some n.left = some a → n.afterRight = some c → Weighable a n.right c := by
  obtain ⟨pre, b, post, -, -, rest, before, after⟩ := stands.exists_eq ascends
  rw [rest] at weighable
  constructor
  · rintro a c left ⟨⟩
    obtain ⟨pre, rfl⟩ := List.getLast?_eq_some_iff.mp (before.symm.trans left)
    exact weighable a n.left n.right ⟨pre, post, by simp⟩
  · rintro a c ⟨⟩ right
    obtain ⟨post, rfl⟩ := List.head?_eq_some_iff.mp (after.symm.trans right)
    exact weighable n.left n.right c ⟨pre, post, by simp⟩

/-- The loop comes to an end if every line it goes through has areas that are numbers. -/
theorem Keeps.exists_dropLight (keeps : Keeps line q)
    (weighable : ∀ l, Passes limit line q l → AllWeighable l) :
    ∃ kept, dropLight limit line q = .ok kept := by
  fun_induction dropLight limit line q with
  | case1 line q popped => exact ⟨line, rfl⟩
  | case2 line q t q₁ popped _ heavy => exact ⟨line, rfl⟩
  | case3 line q t q₁ popped _ light gone ih =>
    have stale := not_stands_of_gone gone
    exact ih (keeps.past popped stale) fun l passes =>
      weighable l (.past popped (Bool.eq_false_iff.mpr light) stale passes)
  | case4 line q t q₁ popped _ light n found same e failed =>
    have rest := weighable _ (.dropped popped (Bool.eq_false_iff.mpr light) ⟨found, same⟩)
    obtain ⟨left, -⟩ := Stands.weighable keeps.ascends ⟨found, same⟩ rest
    obtain ⟨q₂, first⟩ := exists_requeue (q := q₁) left
    exact nomatch failed.symm.trans first
  | case5 line q t q₁ popped _ light n found same q₂ first _ e failed =>
    have rest := weighable _ (.dropped popped (Bool.eq_false_iff.mpr light) ⟨found, same⟩)
    obtain ⟨-, right⟩ := Stands.weighable keeps.ascends ⟨found, same⟩ rest
    obtain ⟨q₃, second⟩ := exists_requeue (q := q₂) right
    exact nomatch failed.symm.trans second
  | case6 line q t q₁ popped _ light n found same q₂ first _ q₃ second _ _ ih =>
    exact ih (keeps.drop popped ⟨found, same⟩ first second) fun l passes =>
      weighable l (.later popped (Bool.eq_false_iff.mpr light) ⟨found, same⟩ first second passes)
  | case7 line => exact ⟨line, rfl⟩
  | case8 line q t q₁ popped _ light n found other ih =>
    have stale := not_stands_of_other found other
    exact ih (keeps.past popped stale) fun l passes =>
      weighable l (.past popped (Bool.eq_false_iff.mpr light) stale passes)

/-- Where the loop ends it goes through no other line. -/
theorem Passes.eq_of_end {l : List Vertex} (passes : Passes limit line q l)
    (last : ∀ t q₁, q.pop? Corner.weight = some (t, q₁) → exceeds limit t.weight = true) :
    l = line := by
  cases passes with
  | here => rfl
  | past popped light | dropped popped light | later popped light =>
    exact nomatch light.symm.trans (last _ _ popped)

theorem Passes.of_stale {l : List Vertex} (passes : Passes limit line q l)
    (popped : q.pop? Corner.weight = some (t, q₁)) (stale : ∀ n, ¬ Stands line t n) :
    Passes limit line q₁ l := by
  cases passes with
  | here => exact .here
  | past popped' _ _ later =>
    obtain ⟨rfl, rfl⟩ := Prod.mk.inj (Option.some.inj (popped.symm.trans popped'))
    exact later
  | dropped popped' _ stands | later popped' _ stands =>
    obtain ⟨rfl, rfl⟩ := Prod.mk.inj (Option.some.inj (popped.symm.trans popped'))
    exact absurd stands (stale _)

theorem Passes.of_stands {l : List Vertex} (passes : Passes limit line q l)
    (popped : q.pop? Corner.weight = some (t, q₁)) (stands : Stands line t n)
    (first : requeue q₁ n.beforeLeft n.left (some n.right) = .ok q₂)
    (second : requeue q₂ (some n.left) n.right n.afterRight = .ok q₃) :
    l = line ∨ Passes limit (without t.index line) q₃ l := by
  cases passes with
  | here => exact .inl rfl
  | past popped' _ stale =>
    obtain ⟨rfl, rfl⟩ := Prod.mk.inj (Option.some.inj (popped.symm.trans popped'))
    exact absurd stands (stale n)
  | dropped popped' =>
    obtain ⟨rfl, rfl⟩ := Prod.mk.inj (Option.some.inj (popped.symm.trans popped'))
    exact .inr .here
  | later popped' _ stands' first' second' later =>
    obtain ⟨rfl, rfl⟩ := Prod.mk.inj (Option.some.inj (popped.symm.trans popped'))
    obtain rfl := Option.some.inj (stands.1.symm.trans stands'.1)
    obtain rfl := Except.ok.inj (first.symm.trans first')
    obtain rfl := Except.ok.inj (second.symm.trans second')
    exact .inr later

/-- What the loop gives: a trimmed line without a triangle that could be dropped.  All areas of
the lines in between are numbers. -/
structure Drops (limit : Option ℕ) (line : List Vertex) (q : Queue Corner) (kept : List Vertex) :
    Prop where
  trimmed : Trimmed line kept
  firm : ∀ a b c, [a, b, c] <:+: kept →
    Weighable a b c ∧ exceeds limit (cornerOf a b c).weight = true
  weighable : ∀ l, Passes limit line q l → AllWeighable l

theorem exceeds_of_le {w v : ℕ} (above : exceeds limit w = true) (le : w ≤ v) :
    exceeds limit v = true := by
  cases limit with
  | none => exact above
  | some bits => exact decide_eq_true ((of_decide_eq_true above).trans_le le)

/-- Passing over a triangle that is out of date makes no difference to what is given. -/
theorem Drops.of_stale (drops : Drops limit line q₁ kept)
    (popped : q.pop? Corner.weight = some (t, q₁)) (stale : ∀ n, ¬ Stands line t n) :
    Drops limit line q kept where
  trimmed := drops.trimmed
  firm := drops.firm
  weighable l passes := drops.weighable l (passes.of_stale popped stale)

/-- **What the loop gives.** -/
theorem Keeps.drops (keeps : Keeps line q) (done : dropLight limit line q = .ok kept) :
    Drops limit line q kept := by
  fun_induction dropLight limit line q with
  | case1 line q popped =>
    obtain rfl : line = kept := Except.ok.inj done
    refine ⟨.whole line, fun a b c h => absurd (keeps.waits a b c h) ?_, fun l passes => ?_⟩
    · rw [keeps.sound.bag_of_pop?_eq_none popped]
      exact Multiset.notMem_zero _
    · rw [passes.eq_of_end fun t q₁ some => nomatch popped.symm.trans some]
      exact keeps.weighable
  | case2 line q t q₁ popped _ heavy =>
    obtain rfl : line = kept := Except.ok.inj done
    obtain ⟨-, bag, least⟩ := keeps.sound.of_pop? popped
    refine ⟨.whole line, fun a b c h => ⟨keeps.weighable a b c h, ?_⟩, fun l passes => ?_⟩
    · have waits := keeps.waits a b c h
      rw [bag, Multiset.mem_cons] at waits
      rcases waits with same | waits
      · exact same ▸ heavy
      · exact exceeds_of_le heavy (least _ waits)
    · have last (t' : Corner) (q' : Queue Corner)
          (popped' : q.pop? Corner.weight = some (t', q')) : exceeds limit t'.weight = true := by
        obtain ⟨rfl, -⟩ := Prod.mk.inj (Option.some.inj (popped.symm.trans popped'))
        exact heavy
      rw [passes.eq_of_end last]
      exact keeps.weighable
  | case3 line q t q₁ popped _ light gone ih =>
    have stale := not_stands_of_gone gone
    exact (ih (keeps.past popped stale) done).of_stale popped stale
  | case4 => exact nomatch done
  | case5 => exact nomatch done
  | case6 line q t q₁ popped _ light n found same q₂ first _ q₃ second _ _ ih =>
    have stands : Stands line t n := ⟨found, same⟩
    obtain ⟨trimmed, firm, weighable⟩ := ih (keeps.drop popped stands first second) done
    obtain ⟨pre, b, post, split, -, rest, -⟩ := stands.exists_eq keeps.ascends
    refine ⟨.trans ?_ trimmed, firm, fun l passes => ?_⟩
    · rw [rest, split]
      exact .drop pre n.left b n.right post
    · rcases passes.of_stands popped stands first second with rfl | passes
      · exact keeps.weighable
      · exact weighable l passes
  | case7 line q t q₁ popped _ light n found same q₂ first _ q₃ second _ full =>
    have stands : Stands line t n := ⟨found, same⟩
    obtain ⟨pre, b, post, split, -, rest, -⟩ := stands.exists_eq keeps.ascends
    rw [rest, split] at full
    exact absurd (by simp) full
  | case8 line q t q₁ popped _ light n found other ih =>
    have stale := not_stands_of_other found other
    exact (ih (keeps.past popped stale) done).of_stale popped stale

end Footprint
end StreamCatalog
