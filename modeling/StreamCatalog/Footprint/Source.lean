import StreamCatalog.Segment.Buffer
import StreamCatalog.Text.Decode
import StreamCatalog.Text.Split
import StreamCatalog.Wkt.Reader

/-!
# Where footprints come from

A source finds the footprints in a segment, usually one for each frame.  What a
decoder of the metadata track would do is left to whoever gives the source; here are
the sources that need no decoder.
-/

namespace StreamCatalog
namespace Footprint

/-- Finds the footprints in a segment. -/
abbrev Source : Type := Segment.Snapshot → List Geometry

namespace Source

/-- The same footprints for every segment, as of a camera that does not move. -/
def fixed (footprints : List Geometry) : Source := fun _ => footprints

/-- Footprints given for each period, and none for later periods. -/
def byPeriod (footprints : List (List Geometry)) : Source :=
  fun segment => footprints[segment.period]?.getD []

/-- The geometry that a text holds, if it is one. -/
def ofText? (cs : List Char) : Option Geometry := (Wkt.parse (String.ofList cs)).toOption

/-- The footprints in a segment that is a text: every line that holds a geometry. -/
def ofLines : Source :=
  fun segment => (Text.split '\n' (Text.decode segment.bytes)).filterMap ofText?

end Source

end Footprint
end StreamCatalog
