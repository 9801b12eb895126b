import StreamCatalog.Engine.Basic

/-!
# Rolling over

A check asks whether a segment is due and, if so, makes one:

1. a snapshot of the buffer is taken;
2. the snapshot is written as a file;
3. the segment gets a record;
4. the stream's record takes notice of it and is stored;
5. the hook for a finished segment is told;
6. the snapshot's bytes leave the buffer, which opens the next period;
7. the hook for a new period is told.

A failure of step 2 or 3 ends the check with the bytes still in the buffer, so that a
later check makes another attempt.  A file that got no record is discarded.  Once the
segment has its record it is *committed*: a failure to store the stream's record no
longer keeps anything back, it only leaves that record *dirty*, and every later check
begins by storing it again.
-/

namespace StreamCatalog
namespace Engine

open Catalog (Id Record)
open Segment (Artifact Snapshot)

/-- A segment that has its record. -/
structure Commit where
  segment : Snapshot
  artifact : Artifact
  /-- The record of the segment. -/
  child : Record
  /-- The identifier of the stream's record. -/
  parent : Id
  /-- Did the buffer let go of its bytes? -/
  isReleased : Bool

/-- What a check comes to. -/
inductive Turn where
  /-- No segment is due. -/
  | notReady
  /-- The stream has been shut down. -/
  | terminated
  /-- The segment could not be written. -/
  | deferred (cause : Error)
  /-- The segment got no record. -/
  | rejected (cause : Error)
  /-- There is a new segment.  Storing the stream's record went as told. -/
  | committed (commit : Commit) (stored : Except Error Unit)

/-- The failure that a caller sees, if a check is one for it. -/
def Turn.error? : Turn → Option Error
  | .rejected cause => some cause
  | .committed _ (.error cause) => some cause
  | _ => none

/-- The segment that a check has made. -/
def Turn.commit? : Turn → Option Commit
  | .committed commit _ => some commit
  | _ => none

/-! ## The records -/

/-- The largest size that a record can hold. -/
def largestSize : Nat := 9223372036854775807

/-- The footprint of a segment. -/
def Setup.location? (e : Setup) (segment : Snapshot) : Except Breakdown (Option String) :=
  match e.source with
  | none => .ok none
  | some source =>
    match source segment with
    | [] => .ok none
    | frames => Catalog.locationText? e.operator frames

/-- The record of a segment, without its footprint. -/
def plainChild (id : Id) (segment : Snapshot) (a : Artifact) (now : Time.Instant) : Record :=
  Record.blank id
    |>.set Catalog.Name.title (.text a.title)
    |>.set Catalog.Name.resourceUri (.text a.uri)
    |>.set Catalog.Name.resourceSize (.integer (Int64.ofNat (min a.size largestSize)))
    |>.set Catalog.Name.mediaType (.text Catalog.transportStream)
    |>.set Catalog.Name.created (.timestamp now)
    |>.set Catalog.Name.temporalStart (.timestamp segment.start)
    |>.set Catalog.Name.temporalEnd (.timestamp segment.finish)

/-- The record of a segment. -/
def Setup.childRecord (e : Setup) (id : Id) (segment : Snapshot) (a : Artifact)
    (now : Time.Instant) : Except Breakdown Record := do
  match ← e.location? segment with
  | some place => return (plainChild id segment a now).set Catalog.Name.location (.text place)
  | none => return plainChild id segment a now

/-- The record of a stream of which no segment is known. -/
def Setup.newParent (e : Setup) (id : Id) (now : Time.Instant) : Record :=
  Record.blank id
    |>.set Catalog.Name.title (.text e.stream.title)
    |>.set Catalog.Name.resourceUri (.text e.stream.uri)
    |>.set Catalog.Name.mediaType (.text Catalog.transportStream)
    |>.set Catalog.Name.created (.timestamp now)

namespace State

/-! ## The steps -/

/-- Write a segment.  An outage comes before a name is made and uses up no number; where
`Segment.Writer.attempt` fails, a name has been made. -/
def write (e : Setup) (s : State) (segment : Snapshot) :
    Except Breakdown (Except Error Artifact × State) := do
  let outages := { s.outages with writing := s.outages.writing.tail }
  match nextOutage s.outages.writing with
  | some cause => return (.error cause, { s with outages })
  | none =>
    let (result, writer) ← s.writer.write e.stream.title segment
    return (result, { s with writer, outages })

/-- Discard a segment that got no record.  If that fails, its file stays. -/
def discard (s : State) (a : Artifact) : State :=
  let outages := { s.outages with discarding := s.outages.discarding.tail }
  match nextOutage s.outages.discarding with
  | some _ => { s with outages }
  | none => { s with writer := (s.writer.discard a).2, outages }

/-- Store the record of a segment. -/
def storeChild (s : State) (child : Record) : Except Error Unit × State :=
  let outages := { s.outages with child := s.outages.child.tail }
  { s with outages }.request .create child (nextOutage s.outages.child)

/-- What storing the stream's record asks of the store: to create it if the store has never
accepted it, to update it otherwise. -/
def parentRequest (s : State) : Request := if s.isStored then .update else .create

/-- Offer the stream's record to the store. -/
def offerParent (s : State) (r : Record) : Except Error Unit × State :=
  let outages := { s.outages with parent := s.outages.parent.tail }
  { s with outages }.request s.parentRequest r (nextOutage s.outages.parent)

/-- Store the stream's record.  Every failure is one of the store. -/
def storeParent (s : State) : Except Error Unit × State :=
  match s.record with
  | none => (.ok (), { s with isDirty := false })
  | some r =>
    match s.offerParent r with
    | (.ok _, s) => (.ok (), { s with isStored := true, isDirty := false })
    | (.error cause, s) => (.error cause.asStore, { s with isDirty := true })

/-- Store the stream's record if there is anything new in it.  If that fails, it stays
dirty. -/
def retryParent (s : State) : State := if s.isDirty then s.storeParent.2 else s

/-- The stream's record takes notice of a segment's.  The first segment makes it. -/
def learn (e : Setup) (s : State) (child : Record) : Except Breakdown (Record × State) := do
  let (parent, s) : Record × State :=
    match s.record with
    | some parent => (parent, s)
    | none => (e.newParent (e.newId s.idsUsed) s.now, { s with idsUsed := s.idsUsed + 1 })
  let record ← Catalog.Updater.apply parent child e.updater
  return (record, { s with record := some record, isDirty := true })

/-- Drop a segment's bytes from the buffer and open the next period, and tell whether
the buffer let go of them. -/
def release (s : State) (segment : Snapshot) : Bool × State :=
  match s.buffer.release? segment s.now with
  | some buffer => (true, { s with buffer })
  | none => (false, s)

/-- Tell the hook for a new period. -/
def tellCreated (e : Setup) (s : State) : State :=
  s.tell e .created s.buffer.period s.buffer.start none

/-! ## The whole -/

/-- What follows once a segment has its record. -/
def commit (e : Setup) (during : Meanwhile) (s : State) (segment : Snapshot) (a : Artifact)
    (child : Record) : Except Breakdown (Turn × State) := do
  let (parent, s) ← s.learn e child
  let (stored, s) := s.storeParent
  let s := (s.pass (during .storing)).tell e .ended segment.period segment.start (some a)
  let (isReleased, s) := s.release segment
  return (.committed ⟨segment, a, child, parent.id, isReleased⟩ stored,
    (s.pass (during .released)).tellCreated e)

/-- What follows once a segment has been written. -/
def catalog (e : Setup) (during : Meanwhile) (s : State) (segment : Snapshot) (a : Artifact) :
    Except Breakdown (Turn × State) := do
  let child ← e.childRecord (e.newId s.idsUsed) segment a s.now
  let (stored, s) := { s with idsUsed := s.idsUsed + 1 }.storeChild child
  let s := s.pass (during .cataloging)
  match stored with
  | .error cause => return (.rejected cause.asStore, s.discard a)
  | .ok _ => s.commit e during segment a child

/-- Make a segment of the buffer. -/
def rollOver (e : Setup) (during : Meanwhile) (s : State) : Except Breakdown (Turn × State) := do
  let segment := s.buffer.snapshot s.now
  let (written, s) ← (s.pass (during .writing)).write e segment
  match written with
  | .error cause => return (.deferred cause, s)
  | .ok a => s.catalog e during segment a

/-- Is there anything in the buffer, and a segment due?  Forcing makes every segment
due. -/
def isReady (e : Setup) (s : State) (forced : Bool) : Bool :=
  let stats := s.buffer.stats s.now
  stats.size ≠ 0 && (forced || e.condition.isMet stats)

/-- Make a segment if one is due. -/
def check (e : Setup) (forced : Bool) (during : Meanwhile) (s : State) :
    Except Breakdown (Turn × State) := do
  if s.isClosed then return (.terminated, s)
  let s := s.retryParent.pass (during .retrying)
  if s.isReady e forced then
    let (turn, s) ← ((s.enter .finalizing).pass (during .decided)).rollOver e during
    return (turn, s.enter .active)
  else return (.notReady, s)

end State

end Engine
end StreamCatalog
