import StreamCatalog.Proofs.Engine.Course

/-!
# No byte is lost and none is kept twice

A segment is made of a copy of the buffer, and its bytes leave the buffer only after the
segment has its record.  Data arrives all the while.  So bytes could get lost when the
buffer lets go of more than was copied, or end up in two segments when it refuses to let
go at all.

Neither happens.  Between the copy and the release the buffer only grows at its end, so
that the segment is still what it begins with, and no other segment is released in the
meantime, so that the segment still belongs to the current period: this is
`buffer_releasing`.  From it follows what a single check does to the buffer
(`Course.bytes`), what a single call does (`Served.bytes`), and the balance of a whole
run, `releasedBytes_append_bytes`.
-/

namespace StreamCatalog
namespace Engine

open Catalog (Record)
open Segment (Artifact Snapshot Buffer)

/-! ## What is taken in and what is released -/

/-- The moments that a check has gone through when it comes to a turn. -/
def Turn.moments : Turn → List Moment
  | .terminated => []
  | .notReady => [.retrying]
  | .deferred _ => [.retrying, .decided, .writing]
  | .rejected _ => [.retrying, .decided, .writing, .cataloging]
  | .committed _ _ => [.retrying, .decided, .writing, .cataloging, .storing, .released]

/-- The data that arrives during a check, in order. -/
def Turn.arrivals (turn : Turn) (during : Meanwhile) : List (List UInt8) :=
  turn.moments.flatMap fun moment => Engine.arrivals (during moment)

/-- The data that is taken in by a call, or while it is served. -/
def Call.taken (call : Call) (reply : Reply) : List (List UInt8) :=
  match call, reply with
  | .ingest data, .accepted true => [data]
  | .check during, .turned turn => turn.arrivals during
  | .flush during, .turned turn => turn.arrivals during
  | _, _ => []

/-- The bytes of the segments that the buffer has let go of. -/
def releasedBytes (commits : List Commit) : List UInt8 :=
  (commits.filter Commit.isReleased).flatMap fun c => c.segment.bytes

theorem releasedBytes_append (first second : List Commit) :
    releasedBytes (first ++ second) = releasedBytes first ++ releasedBytes second := by
  rw [releasedBytes, List.filter_append, List.flatMap_append]
  rfl

/-! ## The buffer in the course of a check -/

namespace State

variable {e : Setup} {during : Meanwhile} {s : State}

theorem buffer_looking (s : State) (during : Meanwhile) :
    (s.looking during).buffer = (arrivals (during .retrying)).foldl Buffer.write s.buffer := by
  rw [looking, buffer_pass, buffer_retryParent]

theorem buffer_copying (s : State) (during : Meanwhile) :
    (s.copying during).buffer = (arrivals during.early).foldl Buffer.write s.buffer := by
  rw [copying, buffer_pass, buffer_enter, buffer_looking, Meanwhile.early, arrivals_append,
    List.foldl_append]

theorem bytes_segment (s : State) (during : Meanwhile) :
    (s.segment during).bytes = s.buffer.bytes ++ (arrivals during.early).flatten := by
  rw [segment, Buffer.bytes_snapshot, buffer_copying, Buffer.foldl_write]

@[simp] theorem period_segment (s : State) (during : Meanwhile) :
    (s.segment during).period = s.buffer.period := by
  rw [segment, Buffer.snapshot, buffer_copying, Buffer.foldl_write]

/-- Up to the moment when a segment has been written, whether that worked or not, the buffer has
only taken in what arrived. -/
theorem buffer_of_written {result : Except Error Artifact} {w : State}
    (written : (s.writing during).write e (s.segment during) = .ok (result, w)) :
    w.buffer = (arrivals (during.early ++ during .writing)).foldl Buffer.write s.buffer := by
  rw [buffer_of_write written, writing, buffer_pass, buffer_copying, arrivals_append,
    List.foldl_append]

/-- A segment is due only of a buffer that holds something, and the buffer only grows
before it is copied. -/
theorem bytes_segment_ne_nil {forced : Bool}
    (ready : (s.looking during).isReady e forced = true) : (s.segment during).bytes ≠ [] := by
  intro empty
  have size : (s.looking during).buffer.bytes = [] := by
    rw [bytes_segment, Meanwhile.early, arrivals_append, List.flatten_append,
      ← List.append_assoc] at empty
    rw [buffer_looking, Buffer.foldl_write]
    exact List.append_eq_nil_iff.mp empty |>.1
  rw [isReady, Buffer.stats, size] at ready
  exact absurd ready (by simp)

/-- When a segment is to be released, the buffer is what it was when the segment was
copied, and behind that what has arrived since. -/
theorem buffer_releasing {a : Artifact} {w c l : State} {child parent : Record}
    (written : (s.writing during).write e (s.segment during) = .ok (.ok a, w))
    (stored : w.cataloging.storeChild child = (.ok (), c))
    (learned : (c.pass (during .cataloging)).learn e child = .ok (parent, l)) :
    (l.releasing e during (s.segment during) a).buffer =
      (arrivals during.late).foldl Buffer.write (s.copying during).buffer := by
  rw [releasing, buffer_tell, buffer_pass, buffer_storeParent, buffer_of_learn learned, buffer_pass,
    buffer_of_storeChild stored, buffer_of_write written, writing, buffer_pass, Meanwhile.late,
    arrivals_append, arrivals_append, List.foldl_append, List.foldl_append]

/-- **The buffer lets go of every committed segment**, and what remains is exactly what has
arrived since the segment was copied. -/
theorem release_releasing {a : Artifact} {w c l : State} {child parent : Record}
    (written : (s.writing during).write e (s.segment during) = .ok (.ok a, w))
    (stored : w.cataloging.storeChild child = (.ok (), c))
    (learned : (c.pass (during .cataloging)).learn e child = .ok (parent, l)) :
    (l.releasing e during (s.segment during) a).release (s.segment during) =
      (true, { l.releasing e during (s.segment during) a with
        buffer := ⟨(arrivals during.late).flatten, (arrivals during.late).length,
          s.buffer.period + 1, (l.releasing e during (s.segment during) a).now⟩ }) := by
  have period : (s.copying during).buffer.period = s.buffer.period := by
    rw [buffer_copying, Buffer.foldl_write]
  rw [release, buffer_releasing written stored learned, segment, Buffer.release?_foldl_write, period]

end State

/-! ## The balance of a check, of a call and of a run -/

namespace Course

variable {e : Setup} {forced : Bool} {during : Meanwhile} {s s' : State} {turn : Turn}

/-- A check that commits no segment does nothing to the buffer: it takes in what arrives. -/
theorem buffer_of_none (course : Course e forced during s turn s') (idle : turn.commit? = none) :
    s'.buffer = (turn.arrivals during).foldl Buffer.write s.buffer := by
  cases course with
  | terminated => rfl
  | notReady =>
    rw [State.buffer_looking]
    simp [Turn.arrivals, Turn.moments]
  | deferred _ _ failed =>
    rw [State.buffer_enter, State.buffer_of_written failed]
    simp [Turn.arrivals, Turn.moments, Meanwhile.early, arrivals_append]
  | rejected _ _ written _ failed =>
    rw [State.buffer_enter, State.buffer_discard, State.buffer_pass,
      State.buffer_of_storeChild failed, State.buffer_of_written written, ← List.foldl_append]
    simp [Turn.arrivals, Turn.moments, Meanwhile.early, arrivals_append]
  | committed => exact nomatch idle

/-- A committed segment holds something, belongs to the period that the check began in,
and is released. -/
theorem of_commit? (course : Course e forced during s turn s') {commit : Commit}
    (made : turn.commit? = some commit) :
    commit.isReleased = true ∧ commit.segment.bytes ≠ [] ∧
      commit.segment.period = s.buffer.period := by
  cases course with
  | terminated | notReady | deferred | rejected => cases made
  | committed running ready written described stored learned =>
    cases made
    have released := State.release_releasing written stored learned
    refine ⟨?_, State.bytes_segment_ne_nil ready, State.period_segment s during⟩
    rw [released]

/-- A check opens the next period exactly if it commits a segment. -/
theorem period (course : Course e forced during s turn s') :
    s'.buffer.period = s.buffer.period + turn.commit?.toList.length := by
  cases made : turn.commit? with
  | none =>
    rw [course.buffer_of_none made, Buffer.foldl_write]
    rfl
  | some commit =>
    cases course with
    | terminated | notReady | deferred | rejected => exact nomatch made
    | committed running ready written described stored learned =>
      rw [State.buffer_enter, State.reopened, State.buffer_tellCreated, State.buffer_pass,
        State.release_releasing written stored learned, Buffer.foldl_write]
      rfl

/-- What a check releases, and behind it what it leaves in the buffer, is what was in the
buffer before and behind it what has arrived. -/
theorem bytes (course : Course e forced during s turn s') :
    releasedBytes turn.commit?.toList ++ s'.buffer.bytes =
      s.buffer.bytes ++ (turn.arrivals during).flatten := by
  cases made : turn.commit? with
  | none =>
    rw [course.buffer_of_none made, Buffer.foldl_write]
    rfl
  | some commit =>
    cases course with
    | terminated | notReady | deferred | rejected => exact nomatch made
    | @committed a w child c parent l running ready written described stored learned =>
      cases made
      have released := State.release_releasing written stored learned
      have left : ((l.reopened e during (s.segment during) a).enter .active).buffer.bytes =
          (arrivals during.late).flatten ++ (arrivals (during .released)).flatten := by
        rw [State.buffer_enter, State.reopened, State.buffer_tellCreated, State.buffer_pass,
          released, Buffer.foldl_write]
      rw [left]
      simp [releasedBytes, released, State.bytes_segment, Turn.arrivals, Turn.moments,
        Meanwhile.early, Meanwhile.late, arrivals_append]

end Course

namespace State

@[simp] theorem buffer_init (e : Setup) (s : State) : (s.init e).2.buffer = s.buffer := by
  unfold init
  split
  · rfl
  · split
    · rw [buffer_tellCreated, buffer_enter]
    · rfl

@[simp] theorem buffer_shutdown (e : Setup) (s : State) : (s.shutdown e).buffer = s.buffer := by
  unfold shutdown
  split
  · rfl
  · rw [buffer_tell, buffer_retryParent, close]

end State

namespace Served

variable {e : Setup} {s s' : State} {call : Call} {reply : Reply}

/-- A call that commits no segment does nothing to the buffer: it takes in what there is. -/
theorem buffer_of_none (served : Served e s call reply s') (idle : reply.commit? = none) :
    s'.buffer = (call.taken reply).foldl Buffer.write s.buffer := by
  cases served with
  | init => exact State.buffer_init e s
  | ingest data =>
    unfold State.ingest
    split <;> rfl
  | check course => exact course.buffer_of_none idle
  | flush course => exact course.buffer_of_none idle
  | shutdown => exact State.buffer_shutdown e s
  | clock now => rfl

/-- What a call releases, and behind it what it leaves in the buffer, is what was in the
buffer before and behind it what the call has taken in. -/
theorem bytes (served : Served e s call reply s') :
    releasedBytes reply.commit?.toList ++ s'.buffer.bytes =
      s.buffer.bytes ++ (call.taken reply).flatten := by
  cases served with
  | init =>
    show (s.init e).2.buffer.bytes = s.buffer.bytes ++ []
    rw [State.buffer_init, List.append_nil]
  | ingest data =>
    show (s.ingest data).2.buffer.bytes = _
    unfold State.ingest
    split
    · exact (List.append_nil _).symm
    · show s.buffer.bytes ++ data = s.buffer.bytes ++ [data].flatten
      rw [List.flatten_singleton]
  | check course => exact course.bytes
  | flush course => exact course.bytes
  | shutdown =>
    show (s.shutdown e).buffer.bytes = s.buffer.bytes ++ []
    rw [State.buffer_shutdown, List.append_nil]
  | clock now => exact (List.append_nil _).symm

/-- A call opens the next period exactly if it commits a segment. -/
theorem period (served : Served e s call reply s') :
    s'.buffer.period = s.buffer.period + reply.commit?.toList.length := by
  cases served with
  | init => exact congrArg Buffer.period (State.buffer_init e s)
  | ingest data =>
    unfold State.ingest
    split <;> rfl
  | check course => exact course.period
  | flush course => exact course.period
  | shutdown => exact congrArg Buffer.period (State.buffer_shutdown e s)
  | clock now => rfl

/-- A segment that a call commits holds something, belongs to the period that the call
began in, and is released. -/
theorem of_commit? (served : Served e s call reply s') {commit : Commit}
    (made : reply.commit? = some commit) :
    commit.isReleased = true ∧ commit.segment.bytes ≠ [] ∧
      commit.segment.period = s.buffer.period := by
  cases served with
  | init | ingest | shutdown | clock => cases made
  | check course => exact course.of_commit? made
  | flush course => exact course.of_commit? made

end Served

/-- A run that commits no segment does nothing to the buffer: it takes in what there is. -/
theorem State.buffer_of_run {e : Setup} {calls : List Call} {replies : List Reply} {s s' : State}
    (ran : s.run e calls = .ok (replies, s')) (idle : replies.filterMap Reply.commit? = []) :
    s'.buffer =
      ((calls.zip replies).flatMap fun x => x.1.taken x.2).foldl Buffer.write s.buffer := by
  rw [← State.committed_zip ran] at idle
  refine State.run_induction (motive := fun history t => State.committed history = [] →
    t.buffer = (history.flatMap fun x => x.1.taken x.2).foldl Buffer.write s.buffer)
    ?_ (fun _ => rfl) ran idle
  intro history t call reply t' before served idle
  rw [State.committed_concat, List.append_eq_nil_iff] at idle
  have none : reply.commit? = none := Option.toList_eq_nil_iff.mp idle.2
  rw [served.buffer_of_none none, before idle.1, List.flatMap_append, List.foldl_append,
    List.flatMap_singleton]

/-- The period of the buffer counts the committed segments. -/
theorem period_eq_length {e : Setup} {now : Time.Instant} {writer : Segment.Writer}
    {store : Catalog.Store} {outages : Outages} {calls : List Call} {replies : List Reply}
    {s : State}
    (ran : (State.start now writer store outages).run e calls = .ok (replies, s)) :
    s.buffer.period = (replies.filterMap Reply.commit?).length := by
  refine State.run_keeps (motive := fun commits t => t.buffer.period = commits.length) ?_ rfl ran
  intro commits s call reply s' counted served
  rw [served.period, counted, List.length_append]

/-- **What goes in comes out, once and in order.**  In every run, whatever fails and
whenever data arrives, the bytes of the segments that were released, followed by those
still in the buffer, are the bytes that were taken in.  Every committed segment holds
something, and the buffer never refuses to let go of one. -/
theorem releasedBytes_append_bytes (e : Setup) (now : Time.Instant) (writer : Segment.Writer)
    (store : Catalog.Store) (outages : Outages) (calls : List Call) {replies : List Reply}
    {s : State}
    (ran : (State.start now writer store outages).run e calls = .ok (replies, s)) :
    releasedBytes (replies.filterMap Reply.commit?) ++ s.buffer.bytes =
        ((calls.zip replies).flatMap fun x => x.1.taken x.2).flatten ∧
      ∀ commit ∈ replies.filterMap Reply.commit?,
        commit.isReleased = true ∧ commit.segment.bytes ≠ [] := by
  constructor
  · rw [← State.committed_zip ran]
    refine State.run_induction (motive := fun history t =>
      releasedBytes (State.committed history) ++ t.buffer.bytes =
        (history.flatMap fun x => x.1.taken x.2).flatten) ?_ rfl ran
    intro history s call reply s' balance served
    rw [State.committed_concat, releasedBytes_append, List.append_assoc, served.bytes,
      ← List.append_assoc, balance, List.flatMap_append, List.flatten_append, List.flatMap_singleton]
  · refine State.forall_commit_of_run ?_ ran
    intro _ _ _ _ commit served made
    obtain ⟨released, holding, -⟩ := served.of_commit? made
    exact ⟨released, holding⟩

theorem releasedBytes_append_bytes_harbor :
    ∃ replies s, harborStart.run harbor harborCalls = .ok (replies, s) ∧
      (replies.filterMap Reply.commit?).length = 1 ∧
      releasedBytes (replies.filterMap Reply.commit?) ++ s.buffer.bytes =
        ((harborCalls.zip replies).flatMap fun x => x.1.taken x.2).flatten ∧
      ∀ commit ∈ replies.filterMap Reply.commit?,
        commit.isReleased = true ∧ commit.segment.bytes ≠ [] := by
  obtain ⟨replies, s, ran, one, -⟩ := harbor_runs
  exact ⟨replies, s, ran, one, releasedBytes_append_bytes harbor _ _ _ _ harborCalls ran⟩

end Engine
end StreamCatalog
