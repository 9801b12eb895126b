import StreamCatalog.Command.Run
import StreamCatalog.Directory

/-!
# A machine known by its files

A command asks little of its machine, so a machine can be given by the files of the
working directory and nothing else.  There is nothing to be found elsewhere but the file
that every machine has and that is always empty, and no address but the machine's own to
listen at.

A path is followed from folder to folder.  Empty components and single dots stay where
they are, but only in a folder; two dots go up.  What lies above the working directory
is a folder without entries.
-/

namespace StreamCatalog
namespace Command

/-- The files of a working directory, by the components of their paths. -/
structure Workplace where
  files : List (List String × String)

namespace Workplace

open Directory (Fault)

/-- The components of a path, empty ones included. -/
def components (path : String) : List String := (Text.split '/' path.toList).map String.ofList

/-- Files given by their paths. -/
def ofFiles (files : List (String × String)) : Workplace :=
  ⟨files.map fun (path, text) =>
    ((components path).filter fun part => part ≠ "" ∧ part ≠ ".", text)⟩

/-- Where a path leads. -/
inductive Place where
  | file (text : String)
  /-- A folder, by the components that lead there. -/
  | folder (path : List String)
  /-- A folder by the components that lead there from the root. -/
  | system (path : List String)
  /-- A folder above the working directory. -/
  | above
  deriving DecidableEq, Repr

/-- The files that every machine has, by the components of their paths from the root. -/
def systemFiles : List (List String × String) := [(["dev", "null"], "")]

/-- What a list of files has at a path: a file, or the folder that it makes of the path if
one of them is inside. -/
def find (files : List (List String × String)) (toFolder : List String → Place)
    (path : List String) : Except Fault Place :=
  match files.lookup path with
  | some text => .ok (.file text)
  | none =>
    if files.any fun f => path.isPrefixOf f.1 then .ok (toFolder path) else .error .missing

/-- One step of a path. -/
def enter (w : Workplace) (place : Place) (part : String) : Except Fault Place :=
  match place with
  | .file _ => .error .noFolder
  | .folder path =>
    if part = "" ∨ part = "." then .ok place
    else if part = ".." then .ok (if path = [] then .above else .folder path.dropLast)
    else if Directory.longestName < part.utf8ByteSize then .error .nameTooLong
    else find w.files .folder (path ++ [part])
  | .system path =>
    if part = "" ∨ part = "." then .ok place
    else if part = ".." then .ok (.system path.dropLast)
    else if Directory.longestName < part.utf8ByteSize then .error .nameTooLong
    else find systemFiles .system (path ++ [part])
  | .above =>
    if part = "" ∨ part = "." ∨ part = ".." then .ok .above
    else if Directory.longestName < part.utf8ByteSize then .error .nameTooLong
    else .error .missing

/-- The longest path, in bytes. -/
def longestPath : Nat := 4095

/-- Why a path cannot be followed at all. -/
def refusal? (path : String) : Option Fault :=
  if path.toList.contains '\x00' then some .nulInName
  else if longestPath < path.utf8ByteSize then some .nameTooLong
  else none

/-- Where a path starts. -/
def startOf (path : String) : Place := if path.startsWith "/" then .system [] else .folder []

/-- Where a path leads from the working directory. -/
def follow (w : Workplace) (path : String) : Except Fault Place :=
  match refusal? path with
  | some fault => .error fault
  | none =>
    if path = "" then .error .missing else (components path).foldlM w.enter (startOf path)

/-- The text of a file, or why it cannot be read. -/
def readFile (w : Workplace) (path : String) : Except String String :=
  match w.follow path with
  | .ok (.file text) => .ok text
  | .ok _ => .error Fault.isFolder.text
  | .error fault => .error fault.text

/-- Is there anything at a path? -/
def isThere (w : Workplace) (path : String) : Bool := (w.follow path).isOk

/-- Go on to a folder that may have to be made first.  Only a file is in the way. -/
def makeEntry (w : Workplace) (place : Place) (part : String) : Except Fault Place :=
  match place, w.enter place part with
  | .folder path, .error .missing => .ok (.folder (path ++ [part]))
  | .system path, .error .missing => .ok (.system (path ++ [part]))
  | .above, .error .missing => .ok .above
  | _, result => result

/-- Make the folder at a path and those above it, and tell what is there then.  A path
that ends in a single dot names what is inside its last folder, so that folder is not
made but has to be there. -/
def makeAll (w : Workplace) (path : String) : Except Fault Place := do
  let given := (components path).filter (· ≠ "")
  let parts := given.filter (· ≠ ".")
  match refusal? path with
  | some fault => .error fault
  | none =>
    let parent ← parts.dropLast.foldlM w.makeEntry (startOf path)
    match parts.getLast? with
    | none => .ok parent
    | some part =>
      if given.getLast? = some "." then [part, "."].foldlM w.enter parent
      else w.makeEntry parent part

/-- Make a directory and those above it. -/
def makeFolder (w : Workplace) (path : String) : Except String Unit :=
  match w.makeAll path with
  | .ok (.file _) => .error Fault.taken.text
  | .ok _ => .ok ()
  | .error fault => .error fault.text

/-- Is an address one of every machine's own? -/
def isOwn : Config.Host → Bool
  | .short bytes => bytes.head? = some 127 || bytes.all (· = 0)
  | .long groups _ => groups.dropLast.all (· = 0) && groups.getLastD 0 ≤ 1

/-- Listen at an address. -/
def listen (a : Config.Address) : Except String Unit :=
  if isOwn a.host then .ok () else .error "Cannot assign requested address (os error 99)"

/-- A workplace as a machine. -/
def machine (w : Workplace) : Machine Id where
  makeFolder := w.makeFolder
  listen := listen
  readFile := w.readFile
  isThere := w.isThere

end Workplace

end Command
end StreamCatalog
