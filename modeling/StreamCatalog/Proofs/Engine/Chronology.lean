import Mathlib.Data.List.Chain
import StreamCatalog.Proofs.Engine.Announcements
import StreamCatalog.Proofs.Engine.Setbacks
import StreamCatalog.Proofs.Engine.Timeline

/-!
# Time spans in the catalog

The record of a segment tells when the segment begins and when it ends, and the record of the
stream tells it of the whole stream.  A segment begins when its period does, that is when the
segment before it was released, and it ends when the buffer is copied.  Both readings are made
by different calls, and between them a segment may be given up several times; but a segment that
is given up leaves no trace in the catalog, and its period just goes on.

So if the clock is steady, the spans of the segments come one after the other, and none begins
before the last one has ended.  The stream's record learns the spans one by one and by nothing
but comparisons.  That it tells the start of the first segment and the end of the last one is no
accident of its updaters: each new segment starts too late to move the start and ends late
enough to move the end.

`Chronology` says all this of a state, and `chronology_of_run` proves it of all states that a run
with the standard updaters can lead to.
-/

namespace StreamCatalog
namespace Engine

open Catalog (Id Record)
open Segment (Artifact Buffer Snapshot)
open Time (Instant)

/-! ## Spans -/

/-- Does the record tell this time span? -/
structure Spans (r : Record) (start finish : Instant) : Prop where
  start : r.values? Catalog.Name.temporalStart = some [.timestamp start]
  finish : r.values? Catalog.Name.temporalEnd = some [.timestamp finish]

theorem spans_plainChild (id : Id) (segment : Snapshot) (a : Artifact) (now : Instant) :
    Spans (plainChild id segment a now) segment.start segment.finish := by
  unfold plainChild
  constructor
  · rw [Record.values?_set, if_neg (by decide), Record.values?_set, if_pos rfl]
  · rw [Record.values?_set, if_pos rfl]

/-- The record of a segment tells when the segment begins and ends. -/
theorem spans_of_childRecord {e : Setup} {id : Id} {segment : Snapshot} {a : Artifact}
    {now : Instant} {child : Record} (h : e.childRecord id segment a now = .ok child) :
    Spans child segment.start segment.finish := by
  obtain ⟨start, finish⟩ := spans_plainChild id segment a now
  constructor
  · rw [values?_childRecord_of_ne h (by decide), start]
  · rw [values?_childRecord_of_ne h (by decide), finish]

theorem Course.spans {e : Setup} {forced : Bool} {during : Meanwhile} {s s' : State} {turn : Turn}
    (course : Course e forced during s turn s') {commit : Commit}
    (made : turn.commit? = some commit) :
    Spans commit.child commit.segment.start commit.segment.finish := by
  cases course with
  | terminated | notReady | deferred | rejected => cases made
  | committed _ _ _ described _ _ =>
    cases made
    exact spans_of_childRecord described

namespace Served

variable {e : Setup} {s s' : State} {call : Call} {reply : Reply} {commit : Commit}

/-- The record of every segment that a call commits tells its time span. -/
theorem spans (served : Served e s call reply s') (made : reply.commit? = some commit) :
    Spans commit.child commit.segment.start commit.segment.finish := by
  cases served with
  | init | ingest | shutdown | clock => cases made
  | check course => exact course.spans made
  | flush course => exact course.spans made

/-- **The times of a committed segment.**  It begins when its period began, and the next period
begins after it has ended. -/
theorem times (served : Served e s call reply s') (made : reply.commit? = some commit)
    (steady : Steady s.now (call.happenings reply)) :
    commit.segment.start = s.buffer.start ∧ s.now ≤ commit.segment.finish ∧
      commit.segment.finish ≤ s'.buffer.start ∧ s'.buffer.start ≤ s'.now := by
  obtain ⟨copied, reopened⟩ := served.rolled made
  rw [served.happenings_of_commit? made] at steady
  rw [served.now, served.happenings_of_commit? made, copied, reopened, Buffer.foldl_write,
    Buffer.foldl_write, clockAfter_append, clockAfter_append]
  refine ⟨rfl, steady.left.left.le_clockAfter, steady.left.right.le_clockAfter, ?_⟩
  have released := steady.right.le_clockAfter
  rw [clockAfter_append] at released
  exact released

end Served

/-! ## The chronology -/

/-- What the catalog tells of times, given the segments committed so far. -/
structure Chronology (commits : List Commit) (s : State) : Prop where
  /-- The record of each segment tells when it begins and ends. -/
  spans : ∀ c ∈ commits, Spans c.child c.segment.start c.segment.finish
  /-- No segment ends before it begins, ... -/
  ordered : ∀ c ∈ commits, c.segment.start ≤ c.segment.finish
  /-- ... or begins before the last one has ended. -/
  chain : commits.IsChain fun c d => c.segment.finish ≤ d.segment.start
  /-- The stream begins with its first segment and ends with its last one. -/
  stream : ∀ first ∈ commits.head?, ∀ last ∈ commits.getLast?,
    ∃ p, s.record = some p ∧ Spans p first.segment.start last.segment.finish

/-- How the present goes with the chronology. -/
structure Present (commits : List Commit) (s : State) : Prop where
  chronology : Chronology commits s
  /-- All segments have ended before the present period, ... -/
  past : ∀ c ∈ commits, c.segment.finish ≤ s.buffer.start
  /-- ... and that has begun. -/
  begun : s.buffer.start ≤ s.now
  unknown : commits = [] → s.record = none

namespace Present

variable {e : Setup} {commits : List Commit} {s s' : State} {call : Call} {reply : Reply}

/-- A call that commits nothing leaves the chronology alone. -/
theorem idle (present : Present commits s) (served : Served e s call reply s')
    (none : reply.commit? = none) (steady : Steady s.now (call.happenings reply)) :
    Present commits s' := by
  have posted := served.posted
  rw [none] at posted
  have record : s'.record = s.record := posted.record_of_none
  have start : s'.buffer.start = s.buffer.start := by
    rw [served.buffer_of_none none, Buffer.foldl_write]
  refine {
    chronology := { present.chronology with stream := ?_ }
    past := ?_
    begun := ?_
    unknown := ?_ }
  · rw [record]
    exact present.chronology.stream
  · rw [start]
    exact present.past
  · rw [start, served.now]
    exact Instant.le_trans present.begun steady.le_clockAfter
  · rw [record]
    exact present.unknown

/-- **The stream's span grows with every segment.** -/
theorem stream_concat (present : Present commits s) (standard : e.learning = none)
    {before after : Ledger} {commit : Commit} (posted : Posted e before (some commit) after)
    (record : before.record = s.record)
    (spans : Spans commit.child commit.segment.start commit.segment.finish)
    (later : s.buffer.start ≤ commit.segment.start)
    (ordered : commit.segment.start ≤ commit.segment.finish) :
    ∀ first ∈ (commits ++ [commit]).head?,
      ∃ p, after.record = some p ∧ Spans p first.segment.start commit.segment.finish := by
  have updater : e.updater = .standard e.operator := by rw [Setup.updater, standard]; rfl
  obtain ⟨old, new, held, applied, known, -⟩ := posted.learned
  rw [updater] at applied
  rw [record] at held
  intro first here
  refine ⟨new, known, ?_⟩
  cases commits with
  | nil =>
    -- The first segment gives the stream its span.
    obtain ⟨-, id, now, rfl⟩ := held.resolve_left fun there => by
      rw [present.unknown rfl] at there
      exact nomatch there
    cases here
    exact (Catalog.Updater.times_of_apply_standard none none
      (values?_newParent e id now (by decide)) (values?_newParent e id now (by decide))
      spans.start spans.finish applied).elim .mk
  | cons c cs =>
    cases here
    have nonempty : first :: cs ≠ [] := List.cons_ne_nil first cs
    obtain ⟨p, has, span⟩ := present.chronology.stream first rfl ((first :: cs).getLast nonempty)
      (List.getLast?_eq_some_getLast nonempty)
    obtain rfl : old = p := by
      rcases held with there | ⟨nothing, -⟩
      · exact Option.some.inj (there.symm.trans has)
      · exact absurd (nothing.symm.trans has) (Option.some_ne_none p).symm
    -- A later one starts too late to move the start ...
    have notEarlier : first.segment.start ≤ commit.segment.start :=
      Instant.le_trans (present.chronology.ordered first List.mem_cons_self)
        (Instant.le_trans (present.past first List.mem_cons_self) later)
    -- ... and ends late enough to move the end.
    have lastEnd := Instant.le_trans (present.past _ (List.getLast_mem nonempty))
      (Instant.le_trans later ordered)
    obtain ⟨start, finish⟩ := Catalog.Updater.times_of_apply_standard (some _) (some _)
      span.start span.finish spans.start spans.finish applied
    refine ⟨?_, ?_⟩
    · rw [start, Option.elim_some, if_pos notEarlier]
    · rw [finish, Option.elim_some]
      split
      · rename_i notLater
        rw [Instant.le_antisymm notLater lastEnd]
      · rfl

/-- A segment that is committed comes after all others. -/
theorem committed (present : Present commits s) (standard : e.learning = none)
    (served : Served e s call reply s') {commit : Commit} (made : reply.commit? = some commit)
    (steady : Steady s.now (call.happenings reply)) : Present (commits ++ [commit]) s' := by
  obtain ⟨start, copied, reopened, goesOn⟩ := served.times made steady
  have spans := served.spans made
  have posted := served.posted
  rw [made] at posted
  have later : s.buffer.start ≤ commit.segment.start := by
    rw [start]
    exact Instant.le_refl _
  have ordered : commit.segment.start ≤ commit.segment.finish := by
    rw [start]
    exact Instant.le_trans present.begun copied
  have stream := present.stream_concat standard posted rfl spans later ordered
  refine {
    chronology :=
      { spans := forall_mem_concat present.chronology.spans spans
        ordered := forall_mem_concat present.chronology.ordered ordered
        chain := ?_
        stream := ?_ }
    past := ?_
    begun := goesOn
    unknown := ?_ }
  · refine List.isChain_append.mpr ⟨present.chronology.chain, List.isChain_singleton _, ?_⟩
    intro last there next here
    cases here
    exact Instant.le_trans (present.past last (List.mem_of_mem_getLast? there)) later
  · intro first here last there
    rw [List.getLast?_concat] at there
    cases there
    exact stream first here
  · refine forall_mem_concat ?_ reopened
    intro c member
    exact Instant.le_trans (present.past c member)
      (Instant.le_trans later (Instant.le_trans ordered reopened))
  · intro empty
    exact absurd empty (List.append_ne_nil_of_right_ne_nil _ (List.cons_ne_nil _ _))

theorem served (present : Present commits s) (standard : e.learning = none)
    (served : Served e s call reply s') (steady : Steady s.now (call.happenings reply)) :
    Present (commits ++ reply.commit?.toList) s' := by
  cases made : reply.commit? with
  | none =>
    rw [Option.toList_none, List.append_nil]
    exact present.idle served made steady
  | some commit => exact present.committed standard served made steady

end Present

/-- **Spans come one after the other.**  In every run with the standard updaters and a steady
clock, whatever fails, the records of the committed segments tell spans that do not overlap, and
the record of the stream tells the span from the start of the first to the end of the last. -/
theorem chronology_of_run {e : Setup} {now : Instant} {writer : Segment.Writer}
    {store : Catalog.Store} {outages : Outages} {calls : List Call} {replies : List Reply}
    {s : State} (standard : e.learning = none)
    (ran : (State.start now writer store outages).run e calls = .ok (replies, s))
    (steady : Steady now (happenings (calls.zip replies))) :
    Chronology (replies.filterMap Reply.commit?) s := by
  rw [← State.committed_zip ran]
  have start : Present [] (State.start now writer store outages) :=
    { chronology :=
        { spans := List.forall_mem_nil _
          ordered := List.forall_mem_nil _
          chain := .nil
          stream := fun _ here => nomatch here }
      past := List.forall_mem_nil _
      begun := Instant.le_refl now
      unknown := fun _ => rfl }
  refine Present.chronology (State.run_induction_of_steady
    (motive := fun history t => Present (State.committed history) t) ?_ start ran steady)
  intro history t call reply t' present _ served steady
  rw [State.committed_concat]
  exact present.served standard served steady

/-- Time passes while a segment is written. -/
def slowly : Meanwhile
  | .decided => [.clock (atSecond 5)]
  | .writing => [.arrival [3], .clock (atSecond 7)]
  | _ => []

/-- A second segment is due and comes to nothing twice. -/
def tideCalls : List Call :=
  [.ingest [1, 2], .check slowly, .ingest [4], .check .quiet, .clock (atSecond 8), .check .quiet,
    .clock (atSecond 9), .check .quiet]

theorem chronology_of_run_stormy :
    ∃ replies s, stormyStart.run harbor tideCalls = .ok (replies, s) ∧
      (replies.filterMap Reply.commit?).map (fun c => (c.segment.start, c.segment.finish)) =
        [(atSecond 0, atSecond 5), (atSecond 7, atSecond 9)] ∧
      Chronology (replies.filterMap Reply.commit?) s := by
  have checked : ((stormyStart.run harbor tideCalls).toOption.any fun x =>
      decide ((x.1.filterMap Reply.commit?).map (fun c => (c.segment.start, c.segment.finish)) =
        [(atSecond 0, atSecond 5), (atSecond 7, atSecond 9)]) &&
      decide (Steady .epoch (happenings (tideCalls.zip x.1)))) = true := by decide +kernel
  obtain ⟨⟨replies, s⟩, ran, good⟩ := exists_of_any checked
  rw [Bool.and_eq_true, decide_eq_true_eq, decide_eq_true_eq] at good
  exact ⟨replies, s, ran, good.1, chronology_of_run rfl ran good.2⟩

end Engine
end StreamCatalog
