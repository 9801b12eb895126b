import StreamCatalog.Error
import StreamCatalog.Footprint.Queue
import StreamCatalog.Geometry.Measure

/-!
# Dropping vertices of little area

A line loses the inner vertices that matter least.  The weight of a vertex is the
area of the triangle that it makes with its two neighbours.  Again and again the
vertex of least weight is dropped, as long as its weight is not above the
tolerance; its neighbours then make new triangles, which are weighed anew.  The
two ends always stay.

Triangles wait in a `Queue`.  One whose vertices are no longer next to each other
is out of date and is passed over when its turn comes.

## Areas that are no number

Overflow can make an area that is not a number.  Such an area cannot be compared,
so as soon as it would have to be, there is no answer (`Breakdown`).  A line of
three points has one triangle and compares nothing; there the vertex is dropped,
because its area is not above the tolerance.
-/

namespace StreamCatalog
namespace Footprint

/-- A vertex of a line: its number and its place. -/
structure Vertex where
  index : Nat
  place : Point
  deriving DecidableEq, Repr

/-- A triangle of three vertices that were neighbours when it was weighed. -/
structure Corner where
  left : Nat
  index : Nat
  right : Nat
  /-- The bits of the area; for numbers without sign they are ordered as the
  numbers are. -/
  weight : Nat
  deriving DecidableEq, Repr

/-- The area of the triangle of three points. -/
def triangleArea (a b c : Point) : Float :=
  let t := Triangle.ofCorners a b c
  (((0.0 + t.a.cross t.b) + t.b.cross t.c) + t.c.cross t.a).abs / 2.0

/-- Weigh the triangle of three vertices. -/
def weigh (a b c : Vertex) : Except Breakdown Corner :=
  let area := triangleArea a.place b.place c.place
  if area.isNaN then .error .unorderedAreas
  else .ok ⟨a.index, b.index, c.index, area.toBits.toNat⟩

/-- All triangles of consecutive vertices. -/
def corners : List Vertex → Except Breakdown (List Corner)
  | a :: b :: c :: rest => do
    let first ← weigh a b c
    let more ← corners (b :: c :: rest)
    pure (first :: more)
  | _ => pure []

/-- A vertex with its neighbours on both sides. -/
structure Neighbours where
  beforeLeft : Option Vertex
  left : Vertex
  right : Vertex
  afterRight : Option Vertex

/-- The neighbours of an inner vertex, if it still is one. -/
def neighbours? (index : Nat) (beforeLeft : Option Vertex) : List Vertex → Option Neighbours
  | a :: b :: c :: rest =>
    if b.index = index then some ⟨beforeLeft, a, c, rest.head?⟩
    else neighbours? index (some a) (b :: c :: rest)
  | _ => none

/-- Add the triangle of three vertices to the queue, if the outer ones exist. -/
def requeue (q : Queue Corner) (a : Option Vertex) (b : Vertex) (c : Option Vertex) :
    Except Breakdown (Queue Corner) :=
  match a, c with
  | some a, some c => (weigh a b c).map fun t => q.push Corner.weight t
  | _, _ => .ok q

theorem size_of_requeue {q q' : Queue Corner} {a c : Option Vertex} {b : Vertex}
    (h : requeue q a b c = .ok q') : q'.size ≤ q.size + 1 := by
  unfold requeue at h
  split at h
  · next a' c' =>
    cases hw : weigh a' b c' with
    | error e => rw [hw] at h; cases h
    | ok t => rw [hw] at h; cases h; simp [Queue.push]
  · cases h; omega

/-- Is a weight above the tolerance, given by its bits?  Nothing is above a
tolerance that is not a number. -/
def exceeds (limit : Option Nat) (weight : Nat) : Bool :=
  match limit with
  | some bits => bits < weight
  | none => false

/-- A line without one of its vertices. -/
def without (index : Nat) (line : List Vertex) : List Vertex := line.filter (·.index ≠ index)

/-- Drop vertices until the least weight is above the tolerance. -/
def dropLight (limit : Option Nat) (line : List Vertex) (q : Queue Corner) :
    Except Breakdown (List Vertex) :=
  match hp : q.pop? Corner.weight with
  | none => .ok line
  | some (t, q₁) =>
    have := Queue.size_of_pop? _ hp
    if exceeds limit t.weight then .ok line
    else
      match neighbours? t.index none line with
      | none => dropLight limit line q₁
      | some n =>
        if n.left.index = t.left ∧ n.right.index = t.right then
          match h₂ : requeue q₁ n.beforeLeft n.left (some n.right) with
          | .error e => .error e
          | .ok q₂ =>
            have := size_of_requeue h₂
            match h₃ : requeue q₂ (some n.left) n.right n.afterRight with
            | .error e => .error e
            | .ok q₃ =>
              have := size_of_requeue h₃
              if (without t.index line).length < line.length then
                dropLight limit (without t.index line) q₃
              else .ok line
        else dropLight limit line q₁
termination_by 2 * line.length + q.size

/-- Number the points of a line. -/
def numbered (ps : List Point) : List Vertex := ps.zipIdx.map fun (p, i) => ⟨i, p⟩

/-- A line without its light vertices.  A tolerance that is not above zero drops
nothing. -/
def thin (tolerance : Float) (ps : List Point) : Except Breakdown (List Point) :=
  if tolerance ≤ 0.0 then .ok ps
  else
    match ps with
    | [a, b, c] => .ok (if tolerance < triangleArea a b c then [a, b, c] else [a, c])
    | ps => do
      let line := numbered ps
      let q := Queue.ofList Corner.weight (← corners line)
      let limit := if tolerance.isNaN then none else some tolerance.toBits.toNat
      let kept ← dropLight limit line q
      pure (kept.map (·.place))

/-- A polygon with every ring thinned, and closed again if need be. -/
def thinPolygon (tolerance : Float) (p : Polygon) : Except Breakdown Polygon := do
  let exterior ← thin tolerance p.exterior
  let interiors ← p.interiors.mapM (thin tolerance)
  pure (.closing exterior interiors)

mutual

/-- Thin the lines and polygons of a geometry; points, segments, boxes and
triangles stay as they are. -/
def thinGeometry (tolerance : Float) : Geometry → Except Breakdown Geometry
  | .lineString ps => (thin tolerance ps).map .lineString
  | .multiLineString lines => (lines.mapM (thin tolerance)).map .multiLineString
  | .polygon p => (thinPolygon tolerance p).map .polygon
  | .multiPolygon ps => (ps.mapM (thinPolygon tolerance)).map .multiPolygon
  | .collection members => (thinAll tolerance members).map .collection
  | g => .ok g

/-- Thin several geometries. -/
def thinAll (tolerance : Float) : List Geometry → Except Breakdown (List Geometry)
  | [] => .ok []
  | g :: gs => do
    let h ← thinGeometry tolerance g
    let hs ← thinAll tolerance gs
    pure (h :: hs)

end

end Footprint
end StreamCatalog
