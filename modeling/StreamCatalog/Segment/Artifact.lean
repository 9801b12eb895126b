import StreamCatalog.Path

/-!
# Segment files

What is left of a segment once it has been written: where it is and how long.
-/

namespace StreamCatalog
namespace Segment

/-- A finished segment file. -/
structure Artifact where
  path : String
  /-- The number of bytes. -/
  size : Nat
  deriving DecidableEq, Repr, Inhabited

/-- The address of a segment file. -/
def Artifact.uri (a : Artifact) : String := "file://" ++ a.path

/-- The title of a segment: the stem of its file name, or the whole path if it has
no file name. -/
def Artifact.title (a : Artifact) : String :=
  match Path.stem? a.path.toList with
  | some stem => String.ofList stem
  | none => a.path

end Segment
end StreamCatalog
