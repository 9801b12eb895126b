import StreamCatalog.Catalog.Record
import StreamCatalog.Footprint.Operator
import StreamCatalog.Wkt.Builder
import StreamCatalog.Wkt.Reader

/-!
# Updating the record of a stream

Whenever a segment gets a record, the record of the whole stream takes notice of it:
it lists the segment's identifier, its time span grows to cover the segment's, and
its footprint takes in the segment's.

Each of these is an updater of its own.  None of them fails: what cannot be used in
either record is passed over.
-/

namespace StreamCatalog
namespace Catalog

/-- Reduce geometries to the text of a footprint; no text if nothing is left of
them. -/
def locationText? (op : Footprint.Operator) (members : List Geometry) :
    Except Breakdown (Option String) := do
  let reduced ← op.apply (.collection members)
  let text := (Wkt.Builder.addGeometry {} reduced).render
  return if text.isEmpty then none else some text

/-- The leaves of the geometry in a location; none if it holds no geometry. -/
def leavesAt (location : Option String) : List Geometry :=
  match location with
  | none => []
  | some text =>
    match Wkt.parse text with
    | .ok g => g.leaves
    | .error _ => []

/-- What a stream's record learns from a segment's. -/
inductive Updater where
  /-- The segment's identifier. -/
  | derived
  /-- An earlier start. -/
  | temporalStart
  /-- A later end. -/
  | temporalEnd
  /-- A larger footprint. -/
  | location (op : Footprint.Operator)
  /-- Several, one after the other. -/
  | list (updaters : List Updater)

namespace Updater

/-- The name of an updater. -/
def name : Updater → String
  | .derived => "derived-association"
  | .temporalStart => "temporal-start"
  | .temporalEnd => "temporal-end"
  | .location _ => "location"
  | .list _ => "list"

/-- The updaters of a list; of any other updater none. -/
def parts : Updater → List Updater
  | .list us => us
  | _ => []

/-- What a stream's record learns unless something else is wanted. -/
def standard (op : Footprint.Operator) : Updater :=
  .list [.derived, .temporalStart, .temporalEnd, .location op]

/-- A list of updaters by their names. -/
def describe (u : Updater) : String :=
  "UpdaterList \x7b updaters: [" ++
    ", ".intercalate (u.parts.map fun p => Text.quote p.name) ++ "] \x7d"

/-- List a segment's identifier. -/
def addDerived (parent child : Record) : Record :=
  parent.setAll Name.derived ((parent.values? Name.derived).getD [] ++ [.text child.id.text])

/-- Take over a segment's point in time, unless the one that is there is at least as
good. -/
def takeTime (name : String) (good : Time.Instant → Time.Instant → Bool)
    (parent child : Record) : Record :=
  match child.timestamp? name with
  | none => parent
  | some t =>
    match parent.timestamp? name with
    | some current => if good current t then parent else parent.set name (.timestamp t)
    | none => parent.set name (.timestamp t)

/-- Take in a segment's footprint. -/
def addLocation (op : Footprint.Operator) (parent child : Record) : Except Breakdown Record := do
  match child.text? Name.location with
  | none => return parent
  | some text =>
    match leavesAt (parent.text? Name.location) ++ leavesAt (some text) with
    | [] => return parent
    | members =>
      match ← locationText? op members with
      | some place => return parent.set Name.location (.text place)
      | none => return parent

mutual

/-- The stream's record after a segment's. -/
def apply (parent child : Record) : Updater → Except Breakdown Record
  | .derived => .ok (addDerived parent child)
  | .temporalStart =>
    .ok (takeTime Name.temporalStart (fun current t => decide (current ≤ t)) parent child)
  | .temporalEnd =>
    .ok (takeTime Name.temporalEnd (fun current t => decide (t ≤ current)) parent child)
  | .location op => addLocation op parent child
  | .list updaters => applyAll parent child updaters

/-- The stream's record after several updaters. -/
def applyAll (parent child : Record) : List Updater → Except Breakdown Record
  | [] => .ok parent
  | u :: us =>
    match apply parent child u with
    | .ok parent => applyAll parent child us
    | .error e => .error e

end

end Updater

end Catalog
end StreamCatalog
