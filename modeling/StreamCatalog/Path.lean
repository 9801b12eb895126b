import StreamCatalog.Text.Split

/-!
# Paths

A path is read by its components, which slashes separate.  Its file name is the last
component; empty components and single dots at the end do not count, and a path that
ends by going up has no file name.

A file name splits at its last dot into stem and extension.  A dot in front of
everything else makes a hidden file and no extension, while a dot at the very end
makes an extension that is empty but there.
-/

namespace StreamCatalog
namespace Path

/-- The file name of a path. -/
def fileName? (path : List Char) : Option (List Char) :=
  match (Text.split '/' path).reverse.dropWhile fun part => part = [] || part = ['.'] with
  | [] => none
  | name :: _ => if name = ['.', '.'] then none else some name

/-- Stem and extension of a file name. -/
def splitName (name : List Char) : List Char × Option (List Char) :=
  let extension := (name.reverse.takeWhile (· ≠ '.')).reverse
  match name.reverse.dropWhile (· ≠ '.') with
  | _ :: c :: cs => ((c :: cs).reverse, some extension)
  | _ => (name, none)

/-- The stem of the file name of a path. -/
def stem? (path : List Char) : Option (List Char) := (fileName? path).map fun n => (splitName n).1

/-- The extension of the file name of a path. -/
def extension? (path : List Char) : Option (List Char) :=
  (fileName? path).bind fun n => (splitName n).2

/-- What stands before the entries of a directory: nothing, or the directory with a
slash at its end. -/
def lead (directory : String) : String :=
  match directory.toList.getLast? with
  | none => directory
  | some last => if last = '/' then directory else directory ++ "/"

/-- An entry of a directory. -/
def join (directory name : String) : String := lead directory ++ name

end Path
end StreamCatalog
