import StreamCatalog.Geometry.Basic

/-!
# The parts of a geometry

A geometry is taken apart into the parts that are no collections, at any depth; other than the
leaves, these include the parts without points.  Its outlines are the lines among the parts and
the rings of their polygons.
-/

namespace StreamCatalog

/-! ## Rings -/

/-- The rings of a polygon, the outer one first. -/
def Polygon.rings (p : Polygon) : List (List Point) := p.exterior :: p.interiors

/-- Are all rings of a polygon closed? -/
def Polygon.RingsClosed (p : Polygon) : Prop := ∀ ring ∈ p.rings, isClosed ring = true

namespace Geometry

/-! ## Parts -/

mutual

/-- What holds of a collection if it holds of the members, and of everything else, holds of all
geometries. -/
theorem induction {P : Geometry → Prop}
    (collection : ∀ members, (∀ g ∈ members, P g) → P (.collection members))
    (plain : ∀ g, (∀ members, g ≠ .collection members) → P g) (g : Geometry) : P g :=
  match g with
  | .collection members => collection members (induction_members collection plain members)
  | .point _ | .line _ _ | .lineString _ | .polygon _ | .multiPoint _ | .multiLineString _
  | .multiPolygon _ | .rect _ | .triangle _ => plain _ nofun

theorem induction_members {P : Geometry → Prop}
    (collection : ∀ members, (∀ g ∈ members, P g) → P (.collection members))
    (plain : ∀ g, (∀ members, g ≠ .collection members) → P g) (gs : List Geometry) :
    ∀ g ∈ gs, P g :=
  match gs with
  | [] => fun _ member => absurd member List.not_mem_nil
  | g :: gs => List.forall_mem_cons.mpr
    ⟨induction collection plain g, induction_members collection plain gs⟩

end

mutual

/-- The parts of a geometry that are no collections. -/
def parts : Geometry → List Geometry
  | .collection members => partsOf members
  | g => [g]

/-- The parts of several geometries. -/
def partsOf : List Geometry → List Geometry
  | [] => []
  | g :: gs => parts g ++ partsOf gs

end

theorem parts_eq_singleton {g : Geometry} (plain : ∀ members, g ≠ .collection members) :
    g.parts = [g] := by
  cases g <;> first | rfl | exact absurd rfl (plain _)

theorem mem_partsOf {part : Geometry} {gs : List Geometry} :
    part ∈ partsOf gs ↔ ∃ g ∈ gs, part ∈ g.parts := by
  induction gs with
  | nil => simp [partsOf]
  | cons g gs ih => simp [partsOf, ih]

/-! ## Lines and rings of a geometry -/

/-- The lines of a geometry that is no collection. -/
def ownLines : Geometry → List (List Point)
  | .lineString ps => [ps]
  | .multiLineString lines => lines
  | _ => []

/-- The polygons of a geometry that is no collection; boxes and triangles are none. -/
def ownPolygons : Geometry → List Polygon
  | .polygon p => [p]
  | .multiPolygon ps => ps
  | _ => []

/-- The lines of a geometry and the rings of its polygons, at any depth. -/
def outlines (g : Geometry) : List (List Point) :=
  g.parts.flatMap fun part => part.ownLines ++ part.ownPolygons.flatMap Polygon.rings

theorem forall_outlines_collection {P : List Point → Prop} {members : List Geometry} :
    (∀ line ∈ (collection members).outlines, P line) ↔
      ∀ g ∈ members, ∀ line ∈ g.outlines, P line := by
  simp only [outlines, parts, List.forall_mem_flatMap, mem_partsOf]
  constructor
  · intro all g member part inside
    exact all part ⟨g, member, inside⟩
  · rintro all part ⟨g, member, inside⟩
    exact all g member part inside

/-- Are all rings of the polygons closed, at any depth? -/
def RingsClosed (g : Geometry) : Prop :=
  ∀ part ∈ g.parts, ∀ p ∈ part.ownPolygons, p.RingsClosed

theorem ringsClosed_collection {members : List Geometry} :
    (collection members).RingsClosed ↔ ∀ g ∈ members, g.RingsClosed := by
  simp only [RingsClosed, parts, mem_partsOf]
  constructor
  · intro all g member part inside
    exact all part ⟨g, member, inside⟩
  · rintro all part ⟨g, member, inside⟩
    exact all g member part inside

theorem outlines_eq {g : Geometry} (single : g.parts = [g]) :
    g.outlines = g.ownLines ++ g.ownPolygons.flatMap Polygon.rings := by
  rw [outlines, single, List.flatMap_singleton]

theorem ringsClosed_iff {g : Geometry} (single : g.parts = [g]) :
    g.RingsClosed ↔ ∀ p ∈ g.ownPolygons, p.RingsClosed := by
  rw [RingsClosed, single, List.forall_mem_singleton]

end Geometry

end StreamCatalog
