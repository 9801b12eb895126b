import StreamCatalog.Error
import StreamCatalog.Text.Blank
import StreamCatalog.Wkt.Writer

/-!
# Assembling a collection

A builder gathers the parts of a footprint and writes them as one collection.
Parts come as raw coordinates of a polygon, which are checked, as geometry text,
which is not, or as geometries, which are taken apart into their leaves.  A
builder without parts writes the empty text, and callers leave the footprint out.
-/

namespace StreamCatalog
namespace Wkt

/-- A part of a footprint. -/
inductive Part where
  /-- An unclosed ring of checked coordinates. -/
  | ring (ps : List Point)
  /-- Geometry text, written as it is. -/
  | text (cs : List Char)
  deriving DecidableEq, Repr

/-- The text of a part.  A ring keeps the point in whole numbers. -/
def Part.write : Part → List Char
  | .ring ps =>
    let pair (p : Point) : List Char :=
      Decimal.Layout.marked.write p.x ++ ' ' :: Decimal.Layout.marked.write p.y
    "POLYGON ((".toList ++ [',', ' '].intercalate (ps.map pair) ++ "))".toList
  | .text cs => cs

/-- The parts gathered so far. -/
structure Builder where
  parts : List Part := []
  deriving DecidableEq, Repr

namespace Builder

/-- Alternating coordinates as points; a last odd one is dropped. -/
def pairs : List Float → List Point
  | x :: y :: rest => ⟨x, y⟩ :: pairs rest
  | _ => []

/-- Add a polygon given by alternating coordinates.  The count must be even, there
must be three pairs, and every coordinate must be finite; the first of these that
fails is reported and nothing is added. -/
def addPolygon (b : Builder) (coordinates : List Float) : Except Error Builder :=
  if coordinates.length % 2 ≠ 0 then
    .error (.invalidArgument "Must have even number of points")
  else if coordinates.length < 6 then
    .error (.invalidArgument "Must have at least 3 pairs of points")
  else
    match coordinates.find? (!·.isFinite) with
    | some v =>
      .error (.invalidArgument
        ("Polygon coordinate " ++ Decimal.plain v ++ " is not a finite number"))
    | none => .ok ⟨b.parts ++ [.ring (pairs coordinates)]⟩

/-- Add geometry text as it is; blank text and no text add nothing. -/
def addText (b : Builder) : Option String → Builder
  | none => b
  | some s => if Text.allBlank s then b else ⟨b.parts ++ [.text s.toList]⟩

/-- Add the text of every leaf of a geometry. -/
def addGeometry (b : Builder) (g : Geometry) : Builder :=
  ⟨b.parts ++ g.leaves.map fun leaf => .text (write leaf)⟩

/-- How many parts there are. -/
def size (b : Builder) : Nat := b.parts.length

/-- The collection of all parts, or the empty text. -/
def render (b : Builder) : String :=
  if b.parts.isEmpty then ""
  else String.ofList
    ("GEOMETRYCOLLECTION (".toList ++ [',', ' '].intercalate (b.parts.map Part.write) ++ [')'])

end Builder
end Wkt
end StreamCatalog
