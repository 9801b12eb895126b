import StreamCatalog.Directory
import StreamCatalog.Segment.Artifact
import StreamCatalog.Segment.Buffer
import StreamCatalog.Segment.Template

/-!
# Writing segment files

Every segment becomes one file of one directory, under a name that the template
gives.  A name is made for every attempt, so that an attempt that fails uses up a
number of the template.

Nothing that is there is overwritten.  If the name is taken, a number is put before
its extension, from one upwards, until a name is free; after ten thousand numbers the
writer gives up.

A file appears under its name only when it is complete.  Until then its bytes are in a
*draft*, a hidden file of the same directory, which is moved to the name in the end.  A
segment that cannot be written leaves no draft behind.  Any call to the file system may
fail on the way; `Trouble` says which one does.

Where the directory should be, something else may stand in its place.  Then no
segment can be written, and there is none to discard.
-/

namespace StreamCatalog
namespace Segment

/-- The files of a segment directory. -/
abbrev Files : Type := Directory (List UInt8)

/-- Writes segments into a directory. -/
structure Writer where
  /-- The path of the directory. -/
  directory : String
  /-- What the names are made from. -/
  template : String
  /-- The number of names made so far. -/
  named : Nat := 0
  /-- What the directory holds; `none` if something else stands in its place. -/
  files : Option Files := some {}
  deriving DecidableEq, Repr

/-- A call to the file system that fails while a segment is written, and the reason it gives.
That a name is taken or cannot be used is not among these. -/
inductive Trouble where
  /-- Making the draft. -/
  | drafting (reason : String)
  /-- Filling the draft, which is left with some of the bytes. -/
  | filling (reason : String) (left : List UInt8)
  /-- Moving the draft to the choice of a number. -/
  | moving (number : Nat) (reason : String)
  deriving DecidableEq, Repr

namespace Writer

/-- The names that are tried for a segment: the name itself, then numbered ones. -/
def choice (name : List Char) : Nat → List Char
  | 0 => name
  | n + 1 => numbered name (n + 1)

/-- The last number that is tried. -/
def lastNumber : Nat := 10000

/-- The name of the choice of a number. -/
def choiceName (name : List Char) (n : Nat) : String := String.ofList (choice name n)

/-- The names of drafts, which are hidden and have no extension. -/
def draftName (n : Nat) : String := String.ofList (".tmp".toList ++ Decimal.digits n)

/-- A name for a draft that is free. -/
def spareName (files : Files) : String :=
  (((List.range (files.entries.length + 1)).map draftName).find? fun name =>
    !files.contains name).getD (draftName 0)

/-- What keeps the draft from being moved to the choice of a number, even if that is free. -/
def obstacle? (t : Option Trouble) (n : Nat) : Option String :=
  match t with
  | some (.moving number reason) => if number = n then some reason else none
  | _ => none

/-- Move the draft to one of the choices.  Gives the name and the directory with the file
in it. -/
def tryChoice (files : Files) (draft : String) (name : List Char) (t : Option Trouble) (n : Nat) :
    Except Directory.Fault (String × Files) :=
  match obstacle? t n with
  | some reason => .error (.other reason)
  | none => (files.move draft (choiceName name n)).map fun files => (choiceName name n, files)

/-- Move the draft to the first free choice from the `n`-th on, of which there are `more`
after that one. -/
def placeFrom (files : Files) (draft : String) (name : List Char) (t : Option Trouble) :
    (more n : Nat) → Except Directory.Fault (String × Files)
  | 0, n => tryChoice files draft name t n
  | more + 1, n =>
    match tryChoice files draft name t n with
    | .error .taken => placeFrom files draft name t more (n + 1)
    | result => result

/-- Move the draft to the first free choice. -/
def place (files : Files) (draft : String) (name : List Char) (t : Option Trouble) :
    Except Directory.Fault (String × Files) :=
  placeFrom files draft name t lastNumber 0

/-- Make a draft of a file and move it to the first free choice.  If anything goes wrong, the
draft is removed. -/
def settle (files : Files) (name : List Char) (content : List UInt8) (t : Option Trouble) :
    Except Directory.Fault String × Files :=
  let draft := spareName files
  match t with
  | some (.drafting reason) => (.error (.other reason), files)
  | some (.filling reason left) =>
    (.error (.other reason), (files.put draft (.file left)).erase draft)
  | t =>
    let drafted := files.put draft (.file content)
    match place drafted draft name t with
    | .error fault => (.error fault, drafted.erase draft)
    | .ok (name, files) => (.ok name, files)

/-- Write a segment of a stream while a call to the file system fails. -/
def attempt (w : Writer) (title : String) (segment : Snapshot) (t : Option Trouble) :
    Except Breakdown (Except Error Artifact × Writer) := do
  let (answer, generator) := Generator.generate ⟨w.named⟩ ⟨w.template, title, segment.start⟩
  let name ← answer
  let w := { w with named := generator.made }
  match w.files with
  | none => return (.error (.io Directory.Fault.taken.text), w)
  | some files =>
    let (result, files) := settle files name.toList segment.bytes t
    let w := { w with files := some files }
    match result with
    | .error fault => return (.error (.io fault.text), w)
    | .ok name => return (.ok ⟨Path.join w.directory name, segment.bytes.length⟩, w)

/-- Write a segment of a stream. -/
def write (w : Writer) (title : String) (segment : Snapshot) :
    Except Breakdown (Except Error Artifact × Writer) :=
  w.attempt title segment none

/-- Remove a file of the directory. -/
def remove (w : Writer) (name : String) : Except Error Unit × Writer :=
  match w.files with
  | none => (.error (.io Directory.Fault.noFolder.text), w)
  | some files =>
    match files.remove name with
    | .error fault => (.error (.io fault.text), w)
    | .ok files => (.ok (), { w with files := some files })

/-- Remove the file of a segment. -/
def discard (w : Writer) (a : Artifact) : Except Error Unit × Writer :=
  w.remove (String.ofList ((Path.fileName? a.path.toList).getD []))

end Writer

end Segment
end StreamCatalog
