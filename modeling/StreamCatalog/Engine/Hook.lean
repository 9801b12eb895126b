import StreamCatalog.Catalog.Id
import StreamCatalog.Error
import StreamCatalog.Segment.Artifact
import StreamCatalog.Time.Instant

/-!
# Lifecycle hooks

Whoever runs a stream may be told of three occasions: a period has begun, a segment
has been finished, the stream has been shut down.  A hook only watches.  However it
ends, the stream goes on as if it had ended well; all that is kept of it is whether
it did.
-/

namespace StreamCatalog
namespace Engine

/-- What a stream is called and where it comes from. -/
structure Identity where
  uri : String
  title : String
  deriving DecidableEq, Repr

/-- What a hook can be told of. -/
inductive Occasion where
  /-- A period has begun. -/
  | created
  /-- A segment has been finished. -/
  | ended
  /-- The stream has been shut down. -/
  | shutdown
  deriving DecidableEq, Repr

/-- What a hook is told. -/
structure Event where
  occasion : Occasion
  stream : Identity
  /-- The record of the stream, once there is one. -/
  parent : Option Catalog.Id
  /-- The finished period for `ended`, the current one otherwise. -/
  period : Nat
  start : Time.Instant
  /-- The finished segment, for `ended` only. -/
  segment : Option Segment.Artifact
  deriving DecidableEq, Repr

/-- How a hook ends. -/
inductive Ending where
  | well
  | failed (cause : Error)
  /-- It broke off without an answer. -/
  | broken
  deriving DecidableEq, Repr

/-- Did the hook end well? -/
def Ending.isWell : Ending → Bool
  | .well => true
  | _ => false

/-- The hooks of a stream. -/
structure Hooks where
  /-- Is there a hook for this occasion? -/
  isInstalled : Occasion → Bool
  /-- How the hook ends that is invoked as the `n`-th, counted from zero. -/
  ending : Nat → Ending

/-- No hooks. -/
def Hooks.none : Hooks := ⟨fun _ => false, fun _ => .well⟩

/-- A hook that has been invoked. -/
structure Notice where
  event : Event
  /-- Did it end well? -/
  endedWell : Bool
  deriving DecidableEq, Repr

/-- Tell the hook for an occasion, if there is one. -/
def Hooks.invoke (h : Hooks) (notices : List Notice) (event : Event) : List Notice :=
  if h.isInstalled event.occasion then
    notices ++ [⟨event, (h.ending notices.length).isWell⟩]
  else notices

end Engine
end StreamCatalog
