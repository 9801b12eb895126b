import StreamCatalog.Decimal.Layout
import StreamCatalog.Geometry.Basic

/-!
# Writing geometry text

Geometry text is written without a space after keywords and commas, and numbers
in the plain layout.  Three kinds have no keyword of their own: a segment is
written as a line string, a box and a triangle as polygons.  `Geometry.plainForm`
is the geometry that is left after that replacement; reading what was written
gives it back.

A geometry without members is written with the word `EMPTY`.  An empty list
*inside* a larger geometry has no such form and is written as empty parentheses,
which cannot be read again.
-/

namespace StreamCatalog
namespace Wkt

/-- Put commas between texts. -/
def commaSeparated : List (List Char) → List Char
  | [] => []
  | [cs] => cs
  | cs :: rest => cs ++ ',' :: commaSeparated rest

/-- A text in parentheses. -/
def inParens (cs : List Char) : List Char := '(' :: cs ++ [')']

/-- The two coordinates of a point. -/
def writePoint (p : Point) : List Char :=
  Decimal.Layout.plain.write p.x ++ ' ' :: Decimal.Layout.plain.write p.y

/-- A list of points in parentheses. -/
def writePoints (ps : List Point) : List Char := inParens (commaSeparated (ps.map writePoint))

/-- The rings that a polygon is written with: an empty outer ring is left out. -/
def shownRings (p : Polygon) : List (List Point) :=
  if p.exterior.isEmpty then p.interiors else p.exterior :: p.interiors

/-- The rings of a polygon that is a member of several.  Without rings it is
written with one empty ring. -/
def writeMemberPolygon (p : Polygon) : List Char :=
  match shownRings p with
  | [] => inParens (inParens [])
  | rings => inParens (commaSeparated (rings.map writePoints))

/-- A keyword with its members in parentheses, or with `EMPTY` if there are none. -/
def tagged (keyword : String) (members : List (List Char)) : List Char :=
  if members.isEmpty then keyword.toList ++ " EMPTY".toList
  else keyword.toList ++ inParens (commaSeparated members)

/-- The text of a polygon. -/
def writePolygon (p : Polygon) : List Char := tagged "POLYGON" ((shownRings p).map writePoints)

mutual

/-- The characters of a geometry's text. -/
def write : Geometry → List Char
  | .point p => "POINT".toList ++ inParens (writePoint p)
  | .line a b => tagged "LINESTRING" [writePoint a, writePoint b]
  | .lineString ps => tagged "LINESTRING" (ps.map writePoint)
  | .polygon p => writePolygon p
  | .multiPoint ps => tagged "MULTIPOINT" (ps.map fun p => inParens (writePoint p))
  | .multiLineString lines => tagged "MULTILINESTRING" (lines.map writePoints)
  | .multiPolygon ps => tagged "MULTIPOLYGON" (ps.map writeMemberPolygon)
  | .collection members => tagged "GEOMETRYCOLLECTION" (writeAll members)
  | .rect b => writePolygon b.polygon
  | .triangle t => writePolygon t.polygon

/-- The texts of several geometries. -/
def writeAll : List Geometry → List (List Char)
  | [] => []
  | g :: gs => write g :: writeAll gs

end

/-- The text of a geometry. -/
def render (g : Geometry) : String := String.ofList (write g)

end Wkt

mutual

/-- The geometry as its text shows it: segments as line strings, boxes and
triangles as polygons. -/
def Geometry.plainForm : Geometry → Geometry
  | .line a b => .lineString [a, b]
  | .rect b => .polygon b.polygon
  | .triangle t => .polygon t.polygon
  | .collection members => .collection (Geometry.plainForms members)
  | g => g

/-- The plain forms of several geometries. -/
def Geometry.plainForms : List Geometry → List Geometry
  | [] => []
  | g :: gs => Geometry.plainForm g :: Geometry.plainForms gs

end

end StreamCatalog
