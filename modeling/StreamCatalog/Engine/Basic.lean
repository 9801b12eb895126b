import StreamCatalog.Catalog.Store
import StreamCatalog.Catalog.Updater
import StreamCatalog.Engine.Hook
import StreamCatalog.Footprint.Source
import StreamCatalog.Segment.Condition
import StreamCatalog.Segment.Writer

/-!
# The engine of a stream

An engine decides when the buffer becomes a segment, has the segment written, and
keeps the catalog up to date: one record for every segment, and one for the stream,
its *parent*, which lists them all.

This module holds what an engine is made from and what it remembers.

## The end of a stream

That a stream has been shut down stands in two places: checks go by a flag of their own
(`isClosed`), whatever takes in data goes by the phase.  An engine in which the two
contradict each other cannot be made (`agrees`).

## What lies outside

An engine depends on things that it does not control.  They are part of its input.

* The clock shows what it is set to.  It is one clock for the buffer and for the catalog.  An
  engine may be given a clock of its own, apart from that of its buffer; of all that is
  described here, only when a record was made (`Catalog.Name.created`) is read off it.
* New identifiers come from a supply, which is asked for one after the other.
* Writing and discarding segments and calling the record store may fail, even where
  the directory and the store themselves would not.  `Outages` holds what is to fail.
  A call that fails so does nothing.  In particular, an outage of writing uses up no number
  of the template, while a writer that fails on its own has made a name by then.
* While a segment is made, data may arrive and the clock may move on; see `Moment`.
-/

namespace StreamCatalog
namespace Engine

open Catalog (Id Record)
open Segment (Artifact Snapshot)
open Time (Instant)

/-- How far a stream has come. -/
inductive Phase where
  /-- Nothing has happened yet. -/
  | created
  /-- Data is taken in. -/
  | active
  /-- A segment is being written and cataloged. -/
  | finalizing
  /-- The stream has been shut down, for good. -/
  | terminated
  deriving DecidableEq, Repr

/-- The name of a phase. -/
def Phase.name : Phase → String
  | .created => "created"
  | .active => "active"
  | .finalizing => "finalizing"
  | .terminated => "terminated"

/-- Calls that fail, of each kind: one entry for each call to come, with its failure
if it has one.  Calls beyond the last entry go ahead. -/
structure Outages where
  /-- Writing a segment. -/
  writing : List (Option Error) := []
  /-- Discarding a segment. -/
  discarding : List (Option Error) := []
  /-- Storing the record of a segment. -/
  child : List (Option Error) := []
  /-- Storing the record of the stream. -/
  parent : List (Option Error) := []
  deriving DecidableEq, Repr

/-- The failure of the next call, if it fails. -/
def nextOutage (outages : List (Option Error)) : Option Error := outages.head?.join

/-- What is asked of the record store. -/
inductive Request where
  | create
  | update
  deriving DecidableEq, Repr

/-- A call to the record store. -/
structure StoreCall where
  request : Request
  id : Id
  /-- Was the identifier taken when the call was made? -/
  wasTaken : Bool
  succeeded : Bool
  deriving DecidableEq, Repr

/-- The record of a stream, and how it stands with the store. -/
structure Parent where
  record : Record
  isStored : Bool
  isDirty : Bool
  deriving DecidableEq, Repr

/-- What an engine is made from. -/
structure Setup where
  stream : Identity
  /-- When a segment is due. -/
  condition : Segment.Condition
  /-- How footprints are reduced. -/
  operator : Footprint.Operator := .footprint none
  /-- What the stream's record learns from a segment's; `none` for the standard. -/
  learning : Option Catalog.Updater := none
  /-- Where the footprints of a segment come from. -/
  source : Option Footprint.Source := none
  hooks : Hooks := .none
  /-- The supply of identifiers. -/
  newId : Nat → Id

/-- What the stream's record learns from a segment's. -/
def Setup.updater (e : Setup) : Catalog.Updater := e.learning.getD (.standard e.operator)

/-- What an engine remembers, together with what it works on. -/
structure State where
  /-- Has the stream been shut down?  Checks and shutdowns ask this and not the phase. -/
  isClosed : Bool := false
  phase : Phase
  /-- What the clock shows, to the buffer and to the catalog alike. -/
  now : Instant
  buffer : Segment.Buffer
  writer : Segment.Writer
  store : Catalog.Store
  /-- The stream's record, from the first segment on. -/
  record : Option Record := none
  /-- Has the store ever accepted the stream's record? -/
  isStored : Bool := false
  /-- Does the stream's record hold anything that the store has not accepted? -/
  isDirty : Bool := false
  /-- The number of identifiers used so far. -/
  idsUsed : Nat := 0
  outages : Outages := {}
  /-- The calls to the record store, first to last. -/
  calls : List StoreCall := []
  /-- The hooks that were invoked, first to last. -/
  notices : List Notice := []
  /-- The flag and the phase say the same. -/
  agrees : isClosed = true ↔ phase = .terminated

namespace State

/-- An engine to which nothing has happened, and the calls that are to fail. -/
def start (now : Instant) (writer : Segment.Writer) (store : Catalog.Store)
    (outages : Outages := {}) : State :=
  { phase := .created, now, buffer := .empty now, writer, store, outages
    agrees := iff_of_false Bool.false_ne_true Phase.noConfusion }

/-- The stream's record as it stands. -/
def parent (s : State) : Option Parent := s.record.map fun r => ⟨r, s.isStored, s.isDirty⟩

/-- A stream that has not been shut down can go on in any other phase. -/
theorem agrees_of_goesOn (s : State) {p : Phase}
    (goesOn : s.phase ≠ .terminated ∧ p ≠ .terminated) : s.isClosed = true ↔ p = .terminated :=
  iff_of_false (mt s.agrees.mp goesOn.1) goesOn.2

/-- Go on in another phase, unless the stream has been shut down. -/
def enter (s : State) (p : Phase) : State :=
  if goesOn : s.phase ≠ .terminated ∧ p ≠ .terminated then
    { s with phase := p, agrees := s.agrees_of_goesOn goesOn }
  else s

/-- End the stream. -/
def close (s : State) : State :=
  { s with isClosed := true, phase := .terminated, agrees := iff_of_true rfl rfl }

/-- Tell the hook for an occasion about a period. -/
def tell (e : Setup) (s : State) (occasion : Occasion) (period : Nat) (start : Instant)
    (segment : Option Artifact) : State :=
  { s with
    notices := e.hooks.invoke s.notices
      ⟨occasion, e.stream, s.parent.map fun p => p.record.id, period, start, segment⟩ }

/-- Call the record store. -/
def request (s : State) (request : Request) (r : Record) (outage : Option Error) :
    Except Error Unit × State :=
  let answer : Except Error Unit × Catalog.Store :=
    match outage, request with
    | some cause, _ => (.error cause, s.store)
    | none, .create => s.store.create r
    | none, .update => s.store.update r
  (answer.1, { s with
    store := answer.2
    calls := s.calls ++ [⟨request, r.id, s.store.contains r.id, answer.1.isOk⟩] })

end State

/-- Something that happens while the engine works. -/
inductive Happening where
  /-- Data arrives. -/
  | arrival (data : List UInt8)
  /-- The clock shows another time. -/
  | clock (now : Instant)
  deriving DecidableEq, Repr

/-- When something can happen while the engine works. -/
inductive Moment where
  /-- While the stream's record is stored again, before the buffer is looked at. -/
  | retrying
  /-- After the decision that a segment is due. -/
  | decided
  /-- While the segment is written. -/
  | writing
  /-- While the segment's record is stored. -/
  | cataloging
  /-- While the stream's record is stored. -/
  | storing
  /-- After the segment's bytes have left the buffer. -/
  | released
  deriving DecidableEq, Repr

/-- What happens at each moment. -/
abbrev Meanwhile : Type := Moment → List Happening

/-- Nothing happens. -/
def Meanwhile.quiet : Meanwhile := fun _ => []

/-- Let something happen. -/
def State.suffer (s : State) : Happening → State
  | .arrival data => { s with buffer := s.buffer.write data }
  | .clock now => { s with now }

/-- Let several things happen. -/
def State.pass (s : State) (happenings : List Happening) : State := happenings.foldl suffer s

end Engine
end StreamCatalog
