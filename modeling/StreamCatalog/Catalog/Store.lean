import StreamCatalog.Catalog.Codec
import StreamCatalog.Directory
import StreamCatalog.Error

/-!
# Record stores

A store keeps records by their identifiers.  A new record is created, a known one is
updated, and neither does the other's work.  There are two stores behind one set of
operations: one keeps records in memory, the other as a file for each record.

## The files

A record is first written to a draft beside its file and then moved into place, so
its file is never half written.  Whether a record exists is decided by its file
alone; a draft left behind by a failure is overwritten by the next one.

An operation on files makes several calls, and any of them may fail.  `Trouble` says
which call fails and why, and what a failing write leaves in the draft.
-/

namespace StreamCatalog
namespace Catalog

/-- A call to the file system that fails, and the reason it gives. -/
inductive Trouble where
  /-- Asking whether the file is there. -/
  | looking (reason : String)
  /-- Writing the draft, which may be left with some content. -/
  | writing (reason : String) (left : Option (List UInt8))
  /-- Moving the draft into place. -/
  | moving (reason : String)
  /-- Reading the file. -/
  | reading (reason : String)
  deriving DecidableEq, Repr

/-- A record that is there already. -/
def alreadyExists (id : Id) : Error := .store ("record " ++ id.text ++ " already exists")

/-- A record that is not there. -/
def notFound (id : Id) : Error := .notFound "record" id.text

/-! ## Records in files -/

/-- A directory of record files. -/
abbrev RecordFolder : Type := Directory (List UInt8)

namespace RecordFolder

/-- The file of a record. -/
def fileName (id : Id) : String := id.text ++ ".json"

/-- The draft of a record. -/
def draftName (id : Id) : String := id.text ++ ".json.tmp"

/-- Move a draft into place. -/
def publish (d : RecordFolder) (id : Id) (t : Option Trouble) : Except Error Unit × RecordFolder :=
  match t with
  | some (.moving reason) => (.error (.io reason), d)
  | _ =>
    match Directory.rename d (draftName id) (fileName id) with
    | .ok d => (.ok (), d)
    | .error f => (.error (.io f.text), d)

/-- Write a record as a draft and move it into place. -/
def save (d : RecordFolder) (r : Record) (t : Option Trouble) : Except Error Unit × RecordFolder :=
  match t with
  | some (.writing reason left) =>
    (.error (.io reason),
      (left.bind fun bytes => (Directory.write d (draftName r.id) bytes).toOption).getD d)
  | t =>
    match Directory.write d (draftName r.id) r.bytes with
    | .ok d => publish d r.id t
    | .error f => (.error (.io f.text), d)

/-- Keep a new record. -/
def create (d : RecordFolder) (r : Record) (t : Option Trouble) :
    Except Error Unit × RecordFolder :=
  match t with
  | some (.looking reason) => (.error (.io reason), d)
  | t =>
    if Directory.contains d (fileName r.id) then (.error (alreadyExists r.id), d) else save d r t

/-- Replace a known record. -/
def update (d : RecordFolder) (r : Record) (t : Option Trouble) :
    Except Error Unit × RecordFolder :=
  match t with
  | some (.looking reason) => (.error (.io reason), d)
  | t =>
    if Directory.contains d (fileName r.id) then save d r t else (.error (notFound r.id), d)

/-- Look up a record. -/
def get (d : RecordFolder) (id : Id) (t : Option Trouble) : Except Error (Option Record) :=
  match t with
  | some (.reading reason) => .error (.io reason)
  | _ =>
    match Directory.read d (fileName id) with
    | .error .missing => .ok none
    | .error f => .error (.io f.text)
    | .ok bytes =>
      match Record.ofBytes? bytes with
      | some r => .ok (some r)
      | none => .error (.store ("no record in " ++ fileName id))

end RecordFolder

/-! ## Records in memory -/

/-- Records in memory. -/
abbrev RecordList : Type := List Record

namespace RecordList

/-- Look up a record. -/
def get? (rs : RecordList) (id : Id) : Option Record := rs.find? fun r => r.id = id

/-- Keep a new record. -/
def create (rs : RecordList) (r : Record) : Except Error Unit × RecordList :=
  if (get? rs r.id).isSome then (.error (alreadyExists r.id), rs) else (.ok (), rs ++ [r])

/-- Replace a known record. -/
def update (rs : RecordList) (r : Record) : Except Error Unit × RecordList :=
  if (get? rs r.id).isSome then (.ok (), rs.map fun q => if q.id = r.id then r else q)
  else (.error (notFound r.id), rs)

end RecordList

/-! ## Either -/

/-- A record store. -/
inductive Store where
  | memory (records : RecordList)
  | files (folder : RecordFolder)

namespace Store

/-- Keep a new record. -/
def create (s : Store) (r : Record) : Except Error Unit × Store :=
  match s with
  | .memory rs => ((RecordList.create rs r).1, .memory (RecordList.create rs r).2)
  | .files d => ((RecordFolder.create d r none).1, .files (RecordFolder.create d r none).2)

/-- Replace a known record. -/
def update (s : Store) (r : Record) : Except Error Unit × Store :=
  match s with
  | .memory rs => ((RecordList.update rs r).1, .memory (RecordList.update rs r).2)
  | .files d => ((RecordFolder.update d r none).1, .files (RecordFolder.update d r none).2)

/-- Is the identifier taken?  A file that holds no record takes its own as well. -/
def contains (s : Store) (id : Id) : Bool :=
  match s with
  | .memory rs => (RecordList.get? rs id).isSome
  | .files d => Directory.contains d (RecordFolder.fileName id)

/-- Look up a record. -/
def get (s : Store) (id : Id) : Except Error (Option Record) :=
  match s with
  | .memory rs => .ok (RecordList.get? rs id)
  | .files d => RecordFolder.get d id none

end Store

end Catalog
end StreamCatalog
