import StreamCatalog.Region.Corners

/-!
# Edges without crossings

The boundaries of two regions are cut into edges that meet only at their ends.  Each
edge counts, for either region, how often that region's boundary runs along it, with
a sign for the direction.  Edges that lie on each other are counted together, and one
that both regions run along as often forth as back is dropped.

## Cutting

Two edges that cross are cut at a grid point next to the crossing.  If that point is
very close to an end of one of them, the edge with that end stays whole and the other
one is led to the end, so that a corner that lies on a side up to rounding is treated
as lying on it.

Moving a crossing to the grid bends edges and may make new crossings.  So cutting goes
on in rounds, with growing tolerance, until a round finds every meeting exactly at a
grid point.  Two or three rounds are the rule; after sixty of them the tolerance covers
the whole grid, and every edge that crosses another is led to one of its ends.
-/

namespace StreamCatalog
namespace Region

/-- A part of a boundary between two grid points, the earlier one first. -/
structure Edge where
  lo : Node
  hi : Node
  /-- How often the boundary of the first region runs along, less how often it runs back. -/
  first : Int
  /-- The same for the second region. -/
  second : Int
  deriving DecidableEq, Repr

/-- The edge from one grid point to a different one. -/
def Edge.between? (p q : Node) (first second : Int) : Option Edge :=
  if p.before q then some ⟨p, q, first, second⟩
  else if q.before p then some ⟨q, p, -first, -second⟩
  else none

/-- Does either boundary run along an edge? -/
def Edge.isUsed (e : Edge) : Bool := e.first ≠ 0 || e.second ≠ 0

/-- The order of edges: by the earlier end, the upper one first among edges from
one end, then by the later end. -/
def Edge.precedes (e f : Edge) : Bool :=
  if e.lo = f.lo then
    let t := turn e.lo e.hi f.hi
    t < 0 || (t = 0 && e.hi.before f.hi)
  else e.lo.before f.lo

/-- Add an edge to an ordered list, together with one that lies there already. -/
def insertEdge (e : Edge) : List Edge → List Edge
  | [] => if e.isUsed then [e] else []
  | f :: fs =>
    if e.lo = f.lo ∧ e.hi = f.hi then
      let g : Edge := ⟨f.lo, f.hi, e.first + f.first, e.second + f.second⟩
      if g.isUsed then g :: fs else fs
    else if e.precedes f then (if e.isUsed then e :: f :: fs else f :: fs)
    else f :: insertEdge e fs

/-- The ordered list of edges, those that lie on each other counted together. -/
def gather (es : List Edge) : List Edge := es.foldl (fun out e => insertEdge e out) []

/-- The edges along a ring, given without repetition of its first point. -/
def ringEdges (first second : Int) (ns : List Node) : List Edge :=
  match ns with
  | [] => []
  | n :: rest =>
    (List.zip (n :: rest) (rest ++ [n])).filterMap fun (p, q) => Edge.between? p q first second

/-- Is a point at or before another one on the way along an edge? -/
def Edge.inOrder (e : Edge) (p q : Node) : Bool :=
  p.x < q.x || (p.x = q.x && (if e.lo.y ≤ e.hi.y then p.y ≤ q.y else q.y ≤ p.y))

/-- The parts of an edge that is led through some points. -/
def Edge.cutAt (e : Edge) (points : List Node) : List Edge :=
  let way := e.lo :: points.mergeSort e.inOrder ++ [e.hi]
  (way.zip way.tail).filterMap fun (p, q) => Edge.between? p q e.first e.second

/-- The square of a distance. -/
def Node.squareTo (p q : Node) : Int :=
  (p.x - q.x) * (p.x - q.x) + (p.y - q.y) * (p.y - q.y)

/-- A quotient as a whole number.  One of a number of at most 64 bits goes to the
nearest, a half away from zero; one of a longer number is cut off. -/
def divWhole (n d : Int) : Int :=
  let size :=
    if n.natAbs < 18446744073709551616 then (2 * n.natAbs + d.natAbs) / (2 * d.natAbs)
    else n.natAbs / d.natAbs
  if (n < 0) = (d < 0) then size else -size

/-- A grid point next to the crossing of the lines through two edges, on the side of
the earlier end of the first one.  If that edge is parallel to an axis, the other
coordinate is always cut off. -/
def crossing (e f : Edge) : Node :=
  let ax := e.hi.x - e.lo.x
  let ay := e.hi.y - e.lo.y
  let bx := f.lo.x - e.lo.x
  let byy := f.lo.y - e.lo.y
  let cx := f.hi.x - e.lo.x
  let cy := f.hi.y - e.lo.y
  let moment := bx * cy - byy * cx
  if ax = 0 then ⟨e.lo.x, e.lo.y + moment.tdiv (bx - cx)⟩
  else if ay = 0 then ⟨e.lo.x + (-moment).tdiv (byy - cy), e.lo.y⟩
  else
    let d := ay * (bx - cx) - ax * (byy - cy)
    ⟨e.lo.x + divWhole (ax * moment) d, e.lo.y + divWhole (ay * moment) d⟩

/-- Where two edges are to be cut. -/
structure Cuts where
  own : List Node := []
  other : List Node := []
  /-- The edges do not meet exactly at the cut. -/
  isRounded : Bool := false
  deriving Repr

/-- The same cuts, seen from the other edge. -/
def Cuts.swap (c : Cuts) : Cuts := ⟨c.other, c.own, c.isRounded⟩

/-- Where two edges are to be cut.  `near` is the square of the distance at which an
end attracts a crossing. -/
def cuts (near : Int) (e f : Edge) : Cuts :=
  let loSide := turn e.lo e.hi f.lo
  let hiSide := turn e.lo e.hi f.hi
  let loSide' := turn f.lo f.hi e.lo
  let hiSide' := turn f.lo f.hi e.hi
  if loSide = 0 ∧ hiSide = 0 then
    { own := [f.lo, f.hi].filter fun n => e.lo.before n && n.before e.hi
      other := [e.lo, e.hi].filter fun n => f.lo.before n && n.before f.hi }
  else if 0 < loSide * hiSide ∨ 0 < loSide' * hiSide' then {}
  else if e.lo = f.lo ∨ e.lo = f.hi ∨ e.hi = f.lo ∨ e.hi = f.hi then {}
  else if loSide = 0 then { own := [f.lo] }
  else if hiSide = 0 then { own := [f.hi] }
  else if loSide' = 0 then { other := [e.lo] }
  else if hiSide' = 0 then { other := [e.hi] }
  else
    let c := crossing e f
    if turn e.lo e.hi c = 0 ∧ turn f.lo f.hi c = 0 then { own := [c], other := [c] }
    else
      let toOwn := min (e.lo.squareTo c) (e.hi.squareTo c)
      let toOther := min (f.lo.squareTo c) (f.hi.squareTo c)
      if near < toOwn ∧ near < toOther then ⟨[c], [c], true⟩
      else if toOwn ≤ toOther then
        ⟨[], [if e.lo.squareTo c < e.hi.squareTo c then e.lo else e.hi], true⟩
      else ⟨[if f.lo.squareTo c < f.hi.squareTo c then f.lo else f.hi], [], true⟩

/-- The boxes of two edges share no point. -/
def Edge.apart (e f : Edge) : Bool :=
  e.hi.x < f.lo.x || f.hi.x < e.lo.x || max e.lo.y e.hi.y < min f.lo.y f.hi.y ||
    max f.lo.y f.hi.y < min e.lo.y e.hi.y

/-- The cuts of an edge with the others of an ordered list. -/
def allCuts (near : Int) (es : List Edge) (e : Edge) : List Cuts :=
  es.filterMap fun f =>
    if e = f || e.apart f then none
    else some (if e.precedes f then cuts near e f else (cuts near f e).swap)

/-- Cut for a number of rounds, or until a round cuts at exact meetings only. -/
def separateFor (rounds : Nat) (near : Int) (es : List Edge) : List Edge :=
  match rounds with
  | 0 => es
  | rounds + 1 =>
    let found := es.map fun e => (e, allCuts near es e)
    let next := gather (found.flatMap fun (e, cs) => e.cutAt (cs.flatMap (·.own)))
    if found.any fun (_, cs) => cs.any (·.isRounded) then separateFor rounds (2 * near) next
    else next

/-- Edges that meet only at their ends, for an ordered list of edges.  The rounds that
grow with the list come after the tolerance has covered the grid. -/
def separate (es : List Edge) : List Edge := separateFor (64 + es.length) 1 es

end Region
end StreamCatalog
