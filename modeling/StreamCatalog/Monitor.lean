import StreamCatalog.Config.Basic
import StreamCatalog.Engine.Run

/-!
# Monitoring a stream

A monitor runs the engine of a configured stream: every datagram that comes in is
taken in, every tick of the check interval makes a check, and stopping makes a last
segment of what is left before the stream is shut down.

Before a monitor can start, the configuration has to be usable, the directory of
records has to be there or be made, and the machine has to listen at the stream's
address.  The first of these that fails is why the monitor does not start.  The
directory of segments is made only when a segment is written.
-/

namespace StreamCatalog

/-- What a monitor asks of the machine before it starts.  Either may fail, with the
reason that the machine gives. -/
structure Host (m : Type → Type) where
  /-- Make a directory and those above it, unless they are there. -/
  makeFolder : String → m (Except String Unit)
  /-- Listen for datagrams at an address. -/
  listen : Config.Address → m (Except String Unit)

/-- A stream that is monitored. -/
structure Monitor where
  setup : Engine.Setup
  state : Engine.State
  /-- Longer datagrams are cut. -/
  maxDatagramSize : Nat

namespace Monitor

/-- Do what has to be done before a monitor starts. -/
def prepare {m : Type → Type} [Monad m] (host : Host m) (c : Config) : m (Except Error Unit) := do
  match c.check, c.stream.address with
  | .error fault, _ | _, .error fault => return .error fault.error
  | .ok _, .ok address =>
    match ← host.makeFolder c.store.recordDirectory with
    | .error reason => return .error (.io reason)
    | .ok _ => return (← host.listen address).mapError .io

/-- The engine of a configured stream. -/
def setupOf (c : Config) (newId : Nat → Catalog.Id) : Engine.Setup :=
  { stream := ⟨c.stream.uri, c.stream.title⟩
    condition := c.rollover.condition
    operator := .footprint c.geometry.tolerance
    newId }

/-- Start a monitor on what the directories hold.  There are no segment files if
something else stands in place of their directory. -/
def start (c : Config) (newId : Nat → Catalog.Id) (now : Time.Instant)
    (segments : Option Segment.Files) (records : Catalog.RecordFolder) : Monitor :=
  let setup := setupOf c newId
  let writer : Segment.Writer :=
    { directory := c.output.segmentDirectory, template := c.output.filenameTemplate
      files := segments }
  { setup, state := ((Engine.State.start now writer (.files records)).init setup).2
    maxDatagramSize := c.stream.maxDatagramSize }

/-- Take in a datagram. -/
def receive (m : Monitor) (datagram : List UInt8) : Monitor :=
  { m with state := (m.state.ingest (datagram.take m.maxDatagramSize)).2 }

/-- What a monitor makes of a check. -/
inductive Reaction where
  /-- There will be no further ticks. -/
  | stop
  | goOn
  /-- The check failed, and the next one may mend it. -/
  | retry (cause : Error)
  /-- The check failed in a way that no later one mends. -/
  | complain (cause : Error)
  deriving DecidableEq, Repr

/-- What a monitor makes of a check that came to a turn. -/
def reaction : Engine.Turn → Reaction
  | .terminated => .stop
  | turn =>
    match turn.error? with
    | none => .goOn
    | some cause => if cause.isRetryable then .retry cause else .complain cause

/-- Make a check.  If it breaks down, there are no further ticks.  The monitor is still there and
will be stopped some time, but what its engine is like by then is not described. -/
def tick (m : Monitor) : Except Breakdown Monitor := do
  let (_, state) ← m.state.check m.setup false .quiet
  return { m with state }

/-- Make a last segment and shut the stream down.  If the last check breaks down, the stream is
not shut down. -/
def stop (m : Monitor) : Except Breakdown Monitor := do
  let (_, state) ← m.state.check m.setup true .quiet
  return { m with state := state.shutdown m.setup }

end Monitor
end StreamCatalog
