import StreamCatalog.Region.Grid

/-!
# Corners of a ring

A ring on the grid is given by its corners, without repetition of the first one.  A
corner in line with its neighbours says nothing about the region, whether the ring
goes straight on there or turns back, so it is left out before anything else is done
with the ring.  Leaving one out can bring others in line, and in the end no three
neighbours are in line.  A ring of less than three corners encloses nothing.

`straighten` runs along the ring once and holds the corners so far with the latest in
front; `closeUp` then looks at the two places where the ends of the list meet.
-/

namespace StreamCatalog
namespace Region

/-- Twice the signed area of a triangle: positive if its corners turn left. -/
def turn (p q r : Node) : Int := (q.x - p.x) * (r.y - p.y) - (q.y - p.y) * (r.x - p.x)

/-- Go on to a corner, and forget those that it brings in line. -/
def goTo : List Node → Node → List Node
  | [], n => [n]
  | [p], n => if p = n then [n] else [n, p]
  | q :: p :: way, n => if turn p q n = 0 then goTo (p :: way) n else n :: q :: p :: way

/-- Forget the corners at both ends that are in line across the ends. -/
def closeUp : List Node → List Node
  | first :: second :: third :: rest =>
    let last := (third :: rest).getLast (List.cons_ne_nil _ _)
    let beforeLast := (second :: (third :: rest).dropLast).getLast (List.cons_ne_nil _ _)
    if turn beforeLast last first = 0 then closeUp (first :: second :: third :: rest).dropLast
    else if turn last first second = 0 then closeUp (second :: third :: rest)
    else first :: second :: third :: rest
  | ns => ns
termination_by ns => ns.length
decreasing_by all_goals simp only [List.length_dropLast, List.length_cons]; omega

/-- The corners of a ring, none of them in line with its neighbours. -/
def straighten (ns : List Node) : List Node :=
  let corners := closeUp (ns.foldl goTo [])
  if 3 ≤ corners.length then corners else []

end Region
end StreamCatalog
