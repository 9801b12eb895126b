import StreamCatalog.Region.Edges

/-!
# The boundary of a merged region

Once edges meet only at their ends, each has one side inside or outside of either
region along its whole length.  An edge belongs to the boundary of the merged
region exactly if one of its sides is inside and the other is not.

## Rings

Rings are traced one after the other, each from the leftmost corner that is left and
from the uppermost side there.  If the inside is above that side, the ring is around a
hole, and else around a part of the region.

At a corner where more than two sides meet, the ring goes on with the side that
encloses the least of what it goes around.  So a ring never passes from one part to
another that it only touches in a corner, and two such parts stay apart; and a ring
around a hole never passes into another hole, so that a part inside a hole that touches
its rim in two corners is left to the rim.
-/

namespace StreamCatalog
namespace Region

/-- An edge of the merged boundary, the earlier end first. -/
structure Side where
  lo : Node
  hi : Node
  insideAbove : Bool
  deriving DecidableEq, Repr

/-- Twice the middle of an edge. -/
def Edge.doubleMiddle (e : Edge) : Node := ⟨e.lo.x + e.hi.x, e.lo.y + e.hi.y⟩

/-- Does an edge pass below a point that is given doubled?  The ends of edges are
shared out to the left, which is as good as tilting the plane a little. -/
def Edge.below (f : Edge) (middle : Node) : Bool :=
  let a : Node := ⟨2 * f.lo.x, 2 * f.lo.y⟩
  let b : Node := ⟨2 * f.hi.x, 2 * f.hi.y⟩
  !middle.before a && middle.before b && 0 < turn a b middle

/-- Is a count of crossings odd? -/
def isOdd (n : Int) : Bool := n % 2 ≠ 0

/-- The part of the merged boundary that an edge contributes. -/
def side? (es : List Edge) (e : Edge) : Option Side :=
  let under := es.filter (·.below e.doubleMiddle)
  let first := under.foldl (fun n f => n + f.first) 0
  let second := under.foldl (fun n f => n + f.second) 0
  let insideBelow := isOdd first || isOdd second
  let insideAbove := isOdd (first + e.first) || isOdd (second + e.second)
  if insideBelow = insideAbove then none else some ⟨e.lo, e.hi, insideAbove⟩

/-- The boundary of the merged region, in the order of its edges. -/
def boundary (es : List Edge) : List Side := es.filterMap (side? es)

/-- The other end of a side. -/
def Side.across (s : Side) (n : Node) : Node := if s.lo = n then s.hi else s.lo

/-- Does a side have an end at a point? -/
def Side.isAt (s : Side) (n : Node) : Bool := s.lo = n || s.hi = n

/-- The determinant of two grid vectors. -/
def Node.cross (u v : Node) : Int := u.x * v.y - u.y * v.x

/-- The vector between two grid points. -/
def Node.minus (p q : Node) : Node := ⟨p.x - q.x, p.y - q.y⟩

/-- Which sense a ring turns in when it looks for its next side. -/
inductive Sense where
  | clockwise
  | counterclockwise
  deriving DecidableEq, Repr

/-- The determinant of two vectors, negative if the second comes after the first
within half a turn. -/
def Sense.cross (sense : Sense) (u v : Node) : Int :=
  match sense with
  | .clockwise => u.cross v
  | .counterclockwise => v.cross u

/-- Which half turn from a direction another one lies in: the first, just opposite, or
the second. -/
def Sense.halfTurn (sense : Sense) (back v : Node) : Nat :=
  let t := sense.cross back v
  if t < 0 then 0 else if t = 0 then 1 else 2

/-- Does one direction come before another, turning from a third? -/
def Sense.isBefore (sense : Sense) (back u v : Node) : Bool :=
  let i := sense.halfTurn back u
  let j := sense.halfTurn back v
  i < j || (i = j && sense.cross u v < 0)

/-- The first side at a point, turning from the direction of another point. -/
def nextSide? (sense : Sense) (pool : List Side) (source n : Node) : Option Side :=
  let back := source.minus n
  (pool.filter (·.isAt n)).foldl (fun best s =>
    match best with
    | none => some s
    | some b =>
      if sense.isBefore back ((s.across n).minus n) ((b.across n).minus n) then some s
      else some b) none

/-- The corners of a ring from a point on until it comes to its goal, and the sides that
are not on it. -/
def follow (sense : Sense) (goal source n : Node) (pool : List Side) : List Node × List Side :=
  if n = goal then ([], pool)
  else
    match nextSide? sense pool source n with
    | none => ([n], pool)
    | some s =>
      if h : s ∈ pool then
        have : (pool.erase s).length < pool.length := by
          rw [List.length_erase_of_mem h]
          have := List.length_pos_of_mem h
          omega
        let (corners, rest) := follow sense goal n (s.across n) (pool.erase s)
        (n :: corners, rest)
      else ([n], pool)
termination_by pool.length

/-- What is left after following a ring is not more than before. -/
theorem length_follow_snd (sense : Sense) (goal source n : Node) (pool : List Side) :
    (follow sense goal source n pool).2.length ≤ pool.length := by
  fun_induction follow sense goal source n pool with
  | case1 | case2 | case4 => simp
  | case3 source n pool _ s _ h shorter corners rest eq ih =>
    rw [eq] at ih
    exact Nat.le_trans ih (Nat.le_of_lt shorter)

/-- The corners of a ring, and what it is around. -/
structure Ring where
  isHole : Bool
  corners : List Node
  deriving Repr

/-- The ring that starts with a side, and the sides that are not on it.  It runs with the
inside on its left. -/
def traceRing (s : Side) (pool : List Side) : Ring × List Side :=
  if s.insideAbove then
    let (corners, rest) := follow .counterclockwise s.lo s.lo s.hi pool
    (⟨true, s.lo :: corners⟩, rest)
  else
    let (corners, rest) := follow .clockwise s.hi s.hi s.lo pool
    (⟨false, s.hi :: corners⟩, rest)

theorem length_traceRing_snd (s : Side) (pool : List Side) :
    (traceRing s pool).2.length ≤ pool.length := by
  unfold traceRing
  split <;> exact length_follow_snd _ _ _ _ _

/-- The rings of a boundary, in the order of their first sides. -/
def rings : List Side → List Ring
  | [] => []
  | s :: pool =>
    let found := traceRing s pool
    have : found.2.length < (s :: pool).length := Nat.lt_succ_of_le (length_traceRing_snd s pool)
    found.1 :: rings found.2
termination_by sides => sides.length
decreasing_by exact this

end Region
end StreamCatalog
