import StreamCatalog.Config.Address
import StreamCatalog.Decimal.Layout
import StreamCatalog.Error
import StreamCatalog.Segment.Condition
import StreamCatalog.Text.Blank

/-!
# Configuration

A configuration says which stream is received, when a segment is closed, and where
segments and records go.  Everything has a default, so an empty configuration can be
used.

`check` finds the first thing that makes a configuration unusable; `warnings` lists
what is allowed but probably not meant.
-/

namespace StreamCatalog
namespace Config

/-- Why a configuration cannot be used. -/
inductive Fault where
  /-- The file could not be read. -/
  | unreadableFile (path : String) (reason : String)
  /-- The text is no configuration document. -/
  | malformed
  /-- A value of the document is of the wrong kind. -/
  | wrongKind
  | wrongScheme (uri : String)
  | badAddress (uri : String)
  | noDatagrams
  | noCheckInterval
  | noThreshold
  | blankTemplate
  | badTolerance (tolerance : Float)

/-- The text of a fault. -/
def Fault.text : Fault → String
  | .unreadableFile path reason => "failed to read config file " ++ path ++ ": " ++ reason
  | .malformed => "config parse error: not a configuration document"
  | .wrongKind => "config parse error: a value of the wrong kind"
  | .wrongScheme uri => "stream.uri must start with udp://, got " ++ uri
  | .badAddress uri => "stream.uri " ++ uri ++ " is not host:port: invalid socket address syntax"
  | .noDatagrams => "stream.max_datagram_size cannot be 0"
  | .noCheckInterval => "rollover.check_interval_ms cannot be 0"
  | .noThreshold => "rollover needs at least one of elapsed_secs or megabytes"
  | .blankTemplate => "output.filename_template is empty"
  | .badTolerance tolerance =>
    "geometry.simplify_tolerance must be a non-negative number, got " ++ Decimal.plain tolerance

/-- A fault as callers see it. -/
def Fault.error (f : Fault) : Error := .config f.text

/-- Which stream is received, and how. -/
structure Stream where
  uri : String := "udp://127.0.0.1:50000"
  title : String := "mpegts-stream"
  /-- Longer datagrams are cut. -/
  maxDatagramSize : Nat := 65536

/-- When a segment is closed: at the first threshold that is reached. -/
structure Rollover where
  elapsedSeconds : Option Nat := some 60
  megabytes : Option Nat := some 10
  checkIntervalMillis : Nat := 1000

/-- Where segment files go and what they are called. -/
structure Output where
  segmentDirectory : String := "./segments"
  filenameTemplate : String :=
    "mpegts-stream-%\x7bdate=%Y-%m-%d_%H-%M-%S\x7d-%\x7bcount\x7d"

/-- Where records go. -/
structure Store where
  recordDirectory : String := "./records"

/-- How footprints are reduced. -/
structure Footprints where
  /-- The area below which a vertex is dropped. -/
  tolerance : Option Float := none

end Config

/-- A configuration. -/
structure Config where
  stream : Config.Stream := {}
  rollover : Config.Rollover := {}
  output : Config.Output := {}
  store : Config.Store := {}
  geometry : Config.Footprints := {}

namespace Config

/-- The address in the stream's uri.  Slashes at its end do not count. -/
def Stream.address (s : Stream) : Except Fault Address :=
  let scheme := "udp://".toList
  let cs := s.uri.toList
  if scheme.isPrefixOf cs then
    let rest := ((cs.drop scheme.length).reverse.dropWhile (· = '/')).reverse
    match Address.read? rest with
    | some a => .ok a
    | none => .error (.badAddress s.uri)
  else .error (.wrongScheme s.uri)

/-- The threshold on time, as a length of time. -/
def Rollover.elapsed (r : Rollover) : Option Time.Span :=
  r.elapsedSeconds.map fun n => .ofParts n 0

/-- The threshold on bytes. -/
def Rollover.bytes (r : Rollover) : Option Nat := r.megabytes.map Segment.Condition.megabytes

/-- The time between two checks. -/
def Rollover.checkInterval (r : Rollover) : Time.Span := ⟨r.checkIntervalMillis * 1000000⟩

/-- When a segment is due. -/
def Rollover.condition (r : Rollover) : Segment.Condition :=
  .ofThresholds r.elapsedSeconds r.megabytes

/-- A tolerance that footprints can be reduced with. -/
def isTolerance (x : Float) : Bool := x.isFinite && !(x < 0.0)

/-- The first thing that makes a configuration unusable, if there is one. -/
def check (c : Config) : Except Fault Unit := do
  let _ ← c.stream.address
  if c.stream.maxDatagramSize = 0 then throw .noDatagrams
  if c.rollover.checkIntervalMillis = 0 then throw .noCheckInterval
  if c.rollover.elapsedSeconds.isNone && c.rollover.megabytes.isNone then throw .noThreshold
  if Text.allBlank c.output.filenameTemplate then throw .blankTemplate
  match c.geometry.tolerance with
  | some t => if isTolerance t then return () else throw (.badTolerance t)
  | none => return ()

/-- Does a template have anything that looks like a placeholder? -/
def hasPlaceholder : List Char → Bool
  | '%' :: '\x7b' :: _ => true
  | _ :: cs => hasPlaceholder cs
  | [] => false

/-- What is allowed but probably not meant. -/
def warnings (c : Config) : List String :=
  (if Text.allBlank c.stream.title then
    ["stream.title is empty; records will have a blank title"] else []) ++
  (if c.rollover.elapsedSeconds = some 0 then
    ["rollover.elapsed_secs is 0; every check with data will roll over"] else []) ++
  (if c.rollover.megabytes = some 0 then
    ["rollover.megabytes is 0; every check with data will roll over"] else []) ++
  (if hasPlaceholder c.output.filenameTemplate.toList then []
  else ["output.filename_template has no placeholders; segments after the first get a " ++
    "numeric suffix"])

end Config
end StreamCatalog
