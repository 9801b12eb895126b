import StreamCatalog.Config.Basic
import StreamCatalog.Toml.Reader

/-!
# Reading a configuration

Each section of a configuration is a table of fields.  A section may also be an array,
which gives its fields by position.  What is missing keeps its default, and what is
not known is ignored; a value of the wrong kind is a fault.
-/

namespace StreamCatalog
namespace Config

open Toml (Value)

/-- A text. -/
def asText : Value → Option String
  | .string s => some s
  | _ => none

/-- A number that is not negative. -/
def asCount : Value → Option Nat
  | .integer (.ofNat n) => some n
  | _ => none

/-- A number with or without a point. -/
def asFloat : Value → Option Float
  | .float x => some x
  | .integer n =>
    let x := Decimal.nearest n.natAbs 0
    some (if n < 0 then -x else x)
  | _ => none

/-- The value that a section gives to one of its fields, which is known by its name
and by its position.  A date where a section should be gives no field a value. -/
def fieldOf (position : Nat) (name : String) : Value → Option (Option Value)
  | .table _ entries => some (entries.lookup name)
  | .array _ items => some items[position]?
  | .moment => some none
  | _ => none

/-- A field of a section, or its default. -/
def field {α : Type} (default : α) (decode : Value → Option α) (position : Nat) (name : String)
    (v : Value) : Except Fault α :=
  match fieldOf position name v with
  | none => .error .wrongKind
  | some none => .ok default
  | some (some x) =>
    match decode x with
    | some a => .ok a
    | none => .error .wrongKind

/-- The section on the stream. -/
def readStream (v : Value) : Except Fault Stream := do
  let d : Stream := {}
  return ⟨← field d.uri asText 0 "uri" v, ← field d.title asText 1 "title" v,
    ← field d.maxDatagramSize asCount 2 "max_datagram_size" v⟩

/-- The section on rollovers. -/
def readRollover (v : Value) : Except Fault Rollover := do
  let d : Rollover := {}
  return ⟨← field d.elapsedSeconds (fun x => (asCount x).map some) 0 "elapsed_secs" v,
    ← field d.megabytes (fun x => (asCount x).map some) 1 "megabytes" v,
    ← field d.checkIntervalMillis asCount 2 "check_interval_ms" v⟩

/-- The section on segment files. -/
def readOutput (v : Value) : Except Fault Output := do
  let d : Output := {}
  return ⟨← field d.segmentDirectory asText 0 "segment_dir" v,
    ← field d.filenameTemplate asText 1 "filename_template" v⟩

/-- The section on records. -/
def readStore (v : Value) : Except Fault Store := do
  let d : Store := {}
  return ⟨← field d.recordDirectory asText 0 "record_dir" v⟩

/-- The section on footprints. -/
def readFootprints (v : Value) : Except Fault Footprints := do
  let d : Footprints := {}
  return ⟨← field d.tolerance (fun x => (asFloat x).map some) 0 "simplify_tolerance" v⟩

/-- A section of a document.  One that is missing has no entries. -/
def sectionOf (document : Toml.Entries) (name : String) : Value :=
  (document.lookup name).getD (.table .implied [])

/-- The configuration that a text denotes. -/
def read (text : String) : Except Fault Config := do
  match Toml.read text with
  | none => throw .malformed
  | some document =>
    return { stream := ← readStream (sectionOf document "stream")
             rollover := ← readRollover (sectionOf document "rollover")
             output := ← readOutput (sectionOf document "output")
             store := ← readStore (sectionOf document "store")
             geometry := ← readFootprints (sectionOf document "geometry") }

/-- The configuration in a file, if it can be used.  `content` is what reading the
file gave: its text, or why it could not be read. -/
def load (path : String) (content : Except String String) : Except Fault Config := do
  match content with
  | .error reason => throw (.unreadableFile path reason)
  | .ok text =>
    let c ← read text
    c.check
    return c

end Config
end StreamCatalog
