/-!
# A queue by urgency

The queue hands out the element of least rank first.  Which of two elements of
equal rank comes first depends on how the queue got to where it is, and since the
order decides which vertices survive, the queue's shape is part of its meaning: a
complete binary tree, filled level by level from the left.

Three movements keep every element at least as late as the one above it.  A new
element enters at the next free place and rises past later ones.  When the first
element leaves, the last one takes its place: the hole sinks to the bottom along
the more urgent children (the right one on a tie), and the element rises from
there.  Building a queue lets every element of a filled tree sink, lower levels
first, and an element that sinks stops as soon as no child is more urgent.
-/

namespace StreamCatalog
namespace Queue

/-- A binary tree. -/
inductive Tree (α : Type) where
  | leaf
  | node (left : Tree α) (top : α) (right : Tree α)
  deriving Repr

variable {α : Type} (rank : α → Nat)

/-- The way from the top to a place, counted from one: left at an even number. -/
def path (place : Nat) : List Bool :=
  if place ≤ 1 then [] else path (place / 2) ++ [place % 2 == 1]
termination_by place
decreasing_by omega

namespace Tree

/-- Put an element at a free place without ordering. -/
def graft (x : α) : List Bool → Tree α → Tree α
  | _, leaf => node leaf x leaf
  | [], node l _ r => node l x r
  | false :: way, node l y r => node (graft x way l) y r
  | true :: way, node l y r => node l y (graft x way r)

/-- Exchange an element with the top of its left part if that is more urgent. -/
def riseLeft (l : Tree α) (y : α) (r : Tree α) : Tree α :=
  match l with
  | leaf => node leaf y r
  | node ll x lr => if rank x < rank y then node (node ll y lr) x r else node l y r

/-- Exchange an element with the top of its right part if that is more urgent. -/
def riseRight (l : Tree α) (y : α) (r : Tree α) : Tree α :=
  match r with
  | leaf => node l y leaf
  | node rl x rr => if rank x < rank y then node l x (node rl y rr) else node l y r

/-- Put an element at a free place and let it rise. -/
def insert (x : α) : List Bool → Tree α → Tree α
  | _, leaf => node leaf x leaf
  | [], node l _ r => node l x r
  | false :: way, node l y r => riseLeft rank (insert x way l) y r
  | true :: way, node l y r => riseRight rank l y (insert x way r)

/-- Let an element sink from the top of a tree whose own top is discarded. -/
def sink (x : α) : Tree α → Tree α
  | leaf => leaf
  | node leaf _ r => node leaf x r
  | node (node ll y lr) _ leaf =>
    if rank y < rank x then node (sink x (node ll y lr)) y leaf else node (node ll y lr) x leaf
  | node (node ll y lr) _ (node rl z rr) =>
    if rank z ≤ rank y then
      if rank z < rank x then node (node ll y lr) z (sink x (node rl z rr))
      else node (node ll y lr) x (node rl z rr)
    else
      if rank y < rank x then node (sink x (node ll y lr)) y (node rl z rr)
      else node (node ll y lr) x (node rl z rr)

/-- Let the hole at the top sink to the bottom, fill it there, and let the element
rise. -/
def refill (x : α) : Tree α → Tree α
  | leaf => leaf
  | node leaf _ r => node leaf x r
  | node (node ll y lr) _ leaf => riseLeft rank (refill x (node ll y lr)) y leaf
  | node (node ll y lr) _ (node rl z rr) =>
    if rank z ≤ rank y then riseRight rank (node ll y lr) z (refill x (node rl z rr))
    else riseLeft rank (refill x (node ll y lr)) y (node rl z rr)

/-- Let every element sink, from the bottom up. -/
def settle : Tree α → Tree α
  | leaf => leaf
  | node l x r => sink rank x (node (settle l) x (settle r))

/-- Take the element at a place that has nothing below. -/
def takeAt : List Bool → Tree α → Option (α × Tree α)
  | _, leaf => none
  | [], node _ x _ => some (x, leaf)
  | false :: way, node l y r => (takeAt way l).map fun (x, l') => (x, node l' y r)
  | true :: way, node l y r => (takeAt way r).map fun (x, r') => (x, node l y r')

end Tree
end Queue

/-- A queue of elements: a complete tree and its size. -/
structure Queue (α : Type) where
  size : Nat
  tree : Queue.Tree α
  deriving Repr

namespace Queue

variable {α : Type} (rank : α → Nat)

/-- The queue of a list. -/
def ofList (xs : List α) : Queue α :=
  let filled := xs.foldl (fun (q : Queue α) x => ⟨q.size + 1, q.tree.graft x (path (q.size + 1))⟩)
    ⟨0, .leaf⟩
  ⟨filled.size, filled.tree.settle rank⟩

/-- Add an element. -/
def push (x : α) (q : Queue α) : Queue α := ⟨q.size + 1, q.tree.insert rank x (path (q.size + 1))⟩

/-- The first element and the queue without it. -/
def pop? (q : Queue α) : Option (α × Queue α) :=
  match q.size with
  | 0 => none
  | n + 1 =>
    match q.tree.takeAt (path (n + 1)) with
    | none => none
    | some (last, .leaf) => some (last, ⟨n, .leaf⟩)
    | some (last, .node l top r) => some (top, ⟨n, (Tree.node l top r).refill rank last⟩)

theorem size_of_pop? {q q' : Queue α} {x : α} (h : q.pop? rank = some (x, q')) :
    q.size = q'.size + 1 := by
  unfold pop? at h
  split at h
  · cases h
  · next n hn =>
    split at h <;> cases h <;> exact hn

end Queue
end StreamCatalog
