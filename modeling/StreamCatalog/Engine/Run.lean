import StreamCatalog.Engine.Cycle

/-!
# The life of a stream

A stream is initialized, takes in data, is checked again and again, and is shut down
in the end.  It may also be used before it is initialized.  After the shutdown
nothing changes any more.

A run is a sequence of calls, each with its reply.  Everything that can be called is a
`Call`, so that statements about every use of an engine are statements about every
list of calls.

## Where a run ends

A check can break down (`Breakdown`), and a run has no calls after one that does.  The engine
is not lost then.  It is left in the middle of the check, still finalizing, maybe with a file
that has no record, or with a segment's record stored while the stream's own is gone from
memory; and whoever owns it may go on calling it.  What becomes of such an engine is not
described.

So what is said of runs, as in `accord_of_run`, `lineage_of_run`, `custody_of_run` and all
statements like them, is said of calls that all give an answer.  When a call breaks down, the
calls before it are a run of their own, and it holds up to there.  It says nothing about what
comes after.
-/

namespace StreamCatalog
namespace Engine

namespace State

/-- Begin the first period.  Only the first time does anything. -/
def init (e : Setup) (s : State) : Except Error Unit × State :=
  if s.isClosed then (.error (.rollover "init" "stream has been shut down"), s)
  else if s.phase = .created then (.ok (), (s.enter .active).tellCreated e)
  else (.ok (), s)

/-- Take in data, and tell whether it was taken. -/
def ingest (s : State) (data : List UInt8) : Bool × State :=
  if s.phase = .terminated then (false, s)
  else (true, { s with buffer := s.buffer.write data })

/-- Shut the stream down.  What is left in the buffer stays there; the stream's record
gets a last chance to be stored. -/
def shutdown (e : Setup) (s : State) : State :=
  if s.isClosed then s
  else
    let s := s.close.retryParent
    s.tell e .shutdown s.buffer.period s.buffer.start none

end State

/-! ## Calls and replies -/

/-- What can be asked of an engine. -/
inductive Call where
  | init
  | ingest (data : List UInt8)
  /-- Make a segment if one is due. -/
  | check (during : Meanwhile)
  /-- Make a segment of whatever there is. -/
  | flush (during : Meanwhile)
  | shutdown
  /-- Not asked of the engine: the clock shows another time. -/
  | clock (now : Time.Instant)

/-- What an engine answers. -/
inductive Reply where
  | done (result : Except Error Unit)
  | accepted (taken : Bool)
  | turned (turn : Turn)

/-- The segment that the call has made. -/
def Reply.commit? : Reply → Option Commit
  | .turned turn => turn.commit?
  | _ => none

/-- Make a call. -/
def State.step (e : Setup) (s : State) : Call → Except Breakdown (Reply × State)
  | .init => .ok (.done (s.init e).1, (s.init e).2)
  | .ingest data => .ok (.accepted (s.ingest data).1, (s.ingest data).2)
  | .check during => (s.check e false during).map fun (turn, s) => (.turned turn, s)
  | .flush during => (s.check e true during).map fun (turn, s) => (.turned turn, s)
  | .shutdown => .ok (.done (.ok ()), s.shutdown e)
  | .clock now => .ok (.done (.ok ()), { s with now })

/-- Make several calls.  If one of them breaks down, there is no state to go on from. -/
def State.run (e : Setup) (s : State) : List Call → Except Breakdown (List Reply × State)
  | [] => .ok ([], s)
  | call :: calls => do
    let (reply, s) ← s.step e call
    let (replies, s) ← s.run e calls
    return (reply :: replies, s)

/-! ## Description -/

/-- The name of a phase, as a description has it. -/
def Phase.label : Phase → String
  | .created => "Created"
  | .active => "Active"
  | .finalizing => "Finalizing"
  | .terminated => "Terminated"

/-- An engine in one line.  `action` names whatever writes the segments. -/
def describe (e : Setup) (s : State) (action : String) : String :=
  let installed (o : Occasion) : String := if e.hooks.isInstalled o then "true" else "false"
  "RolloverEngine \x7b stream: StreamInfo \x7b uri: " ++ Text.quote e.stream.uri ++
    ", title: " ++ Text.quote e.stream.title ++ " \x7d, state: " ++ s.phase.label ++
    ", action: " ++ Text.quote action ++ ", updater: " ++ Text.quote e.updater.name ++
    ", plugins: Plugins \x7b creation: " ++ installed .created ++
    ", end: " ++ installed .ended ++ ", shutdown: " ++ installed .shutdown ++ " \x7d, .. \x7d"

end Engine
end StreamCatalog
