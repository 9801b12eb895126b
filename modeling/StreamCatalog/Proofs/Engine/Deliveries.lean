import StreamCatalog.Proofs.Engine.Chronology

/-!
# When the content of a segment arrived

The record of a segment tells a time span.  Does it cover the content, that is, did every
delivery of the segment arrive within the span?

Its end always does, for the span ends when the buffer is copied and nothing can arrive in a
copy.  Its start does not.  What arrives while a segment is written and cataloged stays in the
buffer and goes into the next segment, but the next period begins only afterwards, when the
segment is released.  If the clock goes on in between, the next segment holds data from before
its start: `not_forall_spans_cover`.

So the deliveries of a segment are of two kinds.  Those that were *carried* over arrived while
the segment before was being made; they are older than the span, though not as old as the end of
the segment before.  All others are *fresh*, and the span covers them.  `division` tells which is
which, from the history alone, and `coverage_of_run` proves that it tells the truth.  The first
segment has nothing carried, and neither has any that follows a segment during whose making
nothing arrived; of those the span covers the whole content.
-/

namespace StreamCatalog
namespace Engine

open Segment (Buffer Snapshot)
open Time (Instant)

/-! ## Deliveries -/

/-- Data that arrived, and what the clock showed then. -/
structure Delivery where
  data : List UInt8
  time : Instant
  deriving DecidableEq, Repr

/-- The deliveries among what happens, if the clock shows `now` in the beginning. -/
def deliveries (now : Instant) : List Happening → List Delivery
  | [] => []
  | .arrival data :: rest => ⟨data, now⟩ :: deliveries now rest
  | .clock later :: rest => deliveries later rest

theorem deliveries_append (now : Instant) (first second : List Happening) :
    deliveries now (first ++ second) =
      deliveries now first ++ deliveries (clockAfter now first) second := by
  induction first generalizing now with
  | nil => rfl
  | cons h rest ih =>
    cases h with
    | arrival data =>
      rw [List.cons_append, deliveries, deliveries, ih]
      rfl
    | clock later => rw [List.cons_append, deliveries, deliveries, ih, clockAfter_clock]

theorem map_data_deliveries (now : Instant) (happenings : List Happening) :
    (deliveries now happenings).map Delivery.data = arrivals happenings := by
  induction happenings generalizing now with
  | nil => rfl
  | cons h rest ih =>
    cases h with
    | arrival data =>
      rw [deliveries, List.map_cons, ih]
      rfl
    | clock later => exact ih later

/-- While a steady clock goes on, deliveries arrive between its first reading and its last. -/
theorem time_of_mem_deliveries {now : Instant} {happenings : List Happening}
    (steady : Steady now happenings) :
    ∀ d ∈ deliveries now happenings, now ≤ d.time ∧ d.time ≤ clockAfter now happenings := by
  induction happenings generalizing now with
  | nil => exact List.forall_mem_nil _
  | cons h rest ih =>
    cases h with
    | arrival data =>
      exact List.forall_mem_cons.mpr ⟨⟨now.le_refl, steady.le_clockAfter⟩, ih steady⟩
    | clock later =>
      obtain ⟨ahead, goesOn⟩ := List.pairwise_cons.mp steady
      rw [clockAfter_clock]
      intro d member
      obtain ⟨after, before⟩ := ih goesOn d member
      exact ⟨Instant.le_trans (ahead later List.mem_cons_self) after, before⟩

/-- Do these deliveries make up the bytes, one for each write? -/
structure MakeUp (deliveries : List Delivery) (bytes : List UInt8) (writes : Nat) : Prop where
  bytes : (deliveries.map Delivery.data).flatten = bytes
  writes : deliveries.length = writes

/-- What arrives is appended. -/
theorem MakeUp.append {held : List Delivery} {b : Buffer} (makeUp : MakeUp held b.bytes b.writes)
    (now : Instant) (happenings : List Happening) :
    MakeUp (held ++ deliveries now happenings)
      ((arrivals happenings).foldl Buffer.write b).bytes
      ((arrivals happenings).foldl Buffer.write b).writes := by
  rw [Buffer.foldl_write]
  constructor
  · rw [List.map_append, List.flatten_append, makeUp.bytes, map_data_deliveries]
  · rw [List.length_append, makeUp.writes, ← map_data_deliveries now, List.length_map]

/-! ## The division of the deliveries -/

/-- The segments that were committed in a history, each with the call that did it. -/
def makings (history : List (Call × Reply)) : List (Call × Commit) :=
  history.filterMap fun x => x.2.commit?.map fun commit => (x.1, commit)

theorem makings_concat (history : List (Call × Reply)) (call : Call) (reply : Reply) :
    makings (history ++ [(call, reply)]) =
      makings history ++ (reply.commit?.map fun commit => (call, commit)).toList := by
  rw [makings, List.filterMap_append]
  cases made : reply.commit? with
  | none => simp [made, makings]
  | some commit => simp [made, makings]

/-- A committed segment with its deliveries. -/
structure Share where
  /-- The call that committed it. -/
  call : Call
  commit : Commit
  /-- Those that arrived while the segment before was being made. -/
  carried : List Delivery
  /-- Those that have arrived since the period began. -/
  fresh : List Delivery

/-- All deliveries of a segment, in order. -/
def Share.deliveries (share : Share) : List Delivery := share.carried ++ share.fresh

/-- How deliveries are divided among segments. -/
structure Division where
  shares : List Share := []
  /-- What no segment has yet and arrived while the last one was being made. -/
  carried : List Delivery := []
  /-- What no segment has yet and has arrived since the period began. -/
  fresh : List Delivery := []

namespace Division

/-- The deliveries that no segment has yet. -/
def rest (d : Division) : List Delivery := d.carried ++ d.fresh

/-- The division behind a call.  If the call commits a segment, the segment gets what is there
when the buffer is copied, and what arrives before it is released is carried over. -/
def next (d : Division) (now : Instant) (call : Call) (reply : Reply) : Division :=
  match reply.commit? with
  | none => { d with fresh := d.fresh ++ deliveries now (call.happenings reply) }
  | some commit =>
    let copied := clockAfter now call.meanwhile.early
    { shares :=
        d.shares ++ [⟨call, commit, d.carried, d.fresh ++ deliveries now call.meanwhile.early⟩]
      carried := deliveries copied call.meanwhile.late
      fresh := deliveries (clockAfter copied call.meanwhile.late) (call.meanwhile .released) }

theorem next_of_none (d : Division) (now : Instant) (call : Call) {reply : Reply}
    (none : reply.commit? = none) : d.next now call reply =
      { d with fresh := d.fresh ++ deliveries now (call.happenings reply) } := by
  rw [next, none]

theorem next_of_commit? (d : Division) (now : Instant) (call : Call) {reply : Reply}
    {commit : Commit} (made : reply.commit? = some commit) : d.next now call reply =
      ⟨d.shares ++ [⟨call, commit, d.carried, d.fresh ++ deliveries now call.meanwhile.early⟩],
        deliveries (clockAfter now call.meanwhile.early) call.meanwhile.late,
        deliveries (clockAfter (clockAfter now call.meanwhile.early) call.meanwhile.late)
          (call.meanwhile .released)⟩ := by
  rw [next, made]

/-- The division behind several calls. -/
def after (d : Division) (now : Instant) : List (Call × Reply) → Division
  | [] => d
  | (call, reply) :: later =>
    (d.next now call reply).after (clockAfter now (call.happenings reply)) later

theorem after_concat (d : Division) (now : Instant) (history : List (Call × Reply)) (call : Call)
    (reply : Reply) :
    d.after now (history ++ [(call, reply)]) =
      (d.after now history).next (clockAfter now (happenings history)) call reply := by
  induction history generalizing d now with
  | nil => rfl
  | cons x later ih =>
    have shown : clockAfter now (happenings (x :: later)) =
        clockAfter (clockAfter now (x.1.happenings x.2)) (happenings later) :=
      clockAfter_append now _ _
    rw [shown]
    exact ih _ _

end Division

/-- How the deliveries of a history are divided among its segments. -/
def division (now : Instant) (history : List (Call × Reply)) : Division :=
  Division.after {} now history

/-! ## What a span covers -/

/-- How a segment's span covers its deliveries. -/
structure Share.Covered (share : Share) : Prop where
  /-- They are the content of the segment. -/
  content : MakeUp share.deliveries share.commit.segment.bytes share.commit.segment.writes
  /-- The segment's record tells its span, ... -/
  spans : Spans share.commit.child share.commit.segment.start share.commit.segment.finish
  /-- ... which covers what is fresh, ... -/
  fresh : ∀ d ∈ share.fresh,
    share.commit.segment.start ≤ d.time ∧ d.time ≤ share.commit.segment.finish
  /-- ... and begins after what was carried over. -/
  carried : ∀ d ∈ share.carried, d.time ≤ share.commit.segment.start

/-- How a segment's deliveries follow those of the segment before. -/
structure Share.Follows (before share : Share) : Prop where
  /-- What was carried over is what arrived while the segment before was being made, ... -/
  late : share.carried = Engine.deliveries before.commit.segment.finish before.call.meanwhile.late
  /-- ... and that was after its end. -/
  after : ∀ d ∈ share.carried, before.commit.segment.finish ≤ d.time

/-- How the spans of all segments of a history cover their deliveries. -/
structure Coverage (now : Instant) (history : List (Call × Reply)) (d : Division) (s : State) :
    Prop where
  /-- The segments are the committed ones. -/
  makings : d.shares.map (fun share => (share.call, share.commit)) = makings history
  /-- They have got all deliveries, in order, but for those in the buffer. -/
  complete : d.shares.flatMap Share.deliveries ++ d.rest = deliveries now (happenings history)
  rest : MakeUp d.rest s.buffer.bytes s.buffer.writes
  covered : ∀ share ∈ d.shares, share.Covered
  /-- Nothing was carried into the first segment, ... -/
  first : ∀ share ∈ d.shares.head?, share.carried = []
  /-- ... and into any other one only what came too late for the one before. -/
  chain : d.shares.IsChain Share.Follows

/-- What can be said besides of the deliveries that no segment has yet. -/
structure Pending (now : Instant) (history : List (Call × Reply)) (d : Division) (s : State) :
    Prop where
  coverage : Coverage now history d s
  begun : s.buffer.start ≤ s.now
  fresh : ∀ p ∈ d.fresh, s.buffer.start ≤ p.time ∧ p.time ≤ s.now
  carried : ∀ p ∈ d.carried, p.time ≤ s.buffer.start
  first : d.shares = [] → d.carried = []
  /-- The next segment will follow the last one. -/
  last : ∀ share ∈ d.shares.getLast?, ∀ next : Share, next.carried = d.carried →
    share.Follows next

namespace Pending

variable {e : Setup} {now : Instant} {history : List (Call × Reply)} {d : Division} {s s' : State}
  {call : Call} {reply : Reply}

/-- What arrives after the clock has shown `s.now` is as fresh as what has arrived before. -/
theorem fresh_append (pending : Pending now history d s) {happenings : List Happening}
    (steady : Steady s.now happenings) :
    ∀ p ∈ d.fresh ++ deliveries s.now happenings,
      s.buffer.start ≤ p.time ∧ p.time ≤ clockAfter s.now happenings := by
  intro p member
  rcases List.mem_append.mp member with before | here
  · obtain ⟨after, until_now⟩ := pending.fresh p before
    exact ⟨after, Instant.le_trans until_now steady.le_clockAfter⟩
  · obtain ⟨after, before⟩ := time_of_mem_deliveries steady p here
    exact ⟨Instant.le_trans pending.begun after, before⟩

/-- The deliveries of a longer history. -/
theorem complete_concat (pending : Pending now history d s)
    (shown : s.now = clockAfter now (happenings history)) :
    deliveries now (happenings (history ++ [(call, reply)])) =
      d.shares.flatMap Share.deliveries ++ d.carried ++
        (d.fresh ++ deliveries s.now (call.happenings reply)) := by
  rw [happenings_concat, deliveries_append, ← pending.coverage.complete, ← shown, Division.rest]
  simp only [List.append_assoc]

/-- Without a new segment, what arrives is fresh. -/
theorem idle (pending : Pending now history d s)
    (shown : s.now = clockAfter now (happenings history)) (served : Served e s call reply s')
    (none : reply.commit? = none) (steady : Steady s.now (call.happenings reply)) :
    Pending now (history ++ [(call, reply)]) (d.next s.now call reply) s' := by
  have buffer := served.buffer_of_none none
  rw [← arrivals_happenings] at buffer
  have start : s'.buffer.start = s.buffer.start := by rw [buffer, Buffer.foldl_write]
  rw [d.next_of_none s.now call none]
  refine {
    coverage := { pending.coverage with
      makings := ?_
      complete := ?_
      rest := ?_ }
    begun := ?_
    fresh := ?_
    carried := ?_
    first := pending.first
    last := pending.last }
  · rw [makings_concat, none, Option.map_none, Option.toList_none, List.append_nil]
    exact pending.coverage.makings
  · rw [pending.complete_concat shown, Division.rest, List.append_assoc]
  · rw [Division.rest, ← List.append_assoc, buffer]
    exact pending.coverage.rest.append s.now (call.happenings reply)
  · rw [start, served.now]
    exact Instant.le_trans pending.begun steady.le_clockAfter
  · rw [start, served.now]
    exact pending.fresh_append steady
  · rw [start]
    exact pending.carried

/-- The span of a new segment covers what was fresh. -/
theorem covered (pending : Pending now history d s) (served : Served e s call reply s')
    {commit : Commit} (made : reply.commit? = some commit)
    (steady : Steady s.now call.meanwhile.early)
    (start : commit.segment.start = s.buffer.start) : Share.Covered
      ⟨call, commit, d.carried, d.fresh ++ deliveries s.now call.meanwhile.early⟩ := by
  have copied := (served.rolled made).1
  have finish : commit.segment.finish = clockAfter s.now call.meanwhile.early := by
    rw [copied, Buffer.snapshot]
  refine ⟨?_, served.spans made, ?_, ?_⟩
  · rw [Share.deliveries, ← List.append_assoc, copied]
    exact pending.coverage.rest.append s.now call.meanwhile.early
  · rw [start, finish]
    exact pending.fresh_append steady
  · rw [start]
    exact pending.carried

/-- A new segment gets what has been there, and what arrives late is carried over. -/
theorem committed (pending : Pending now history d s)
    (shown : s.now = clockAfter now (happenings history)) (served : Served e s call reply s')
    {commit : Commit} (made : reply.commit? = some commit)
    (steady : Steady s.now (call.happenings reply)) :
    Pending now (history ++ [(call, reply)]) (d.next s.now call reply) s' := by
  obtain ⟨copied, reopened⟩ := served.rolled made
  obtain ⟨start, -, -, goesOn⟩ := served.times made steady
  have happened := served.happenings_of_commit? made
  rw [happened] at steady
  have finish : commit.segment.finish = clockAfter s.now call.meanwhile.early := by
    rw [copied, Buffer.snapshot]
  have opened : s'.buffer.start =
      clockAfter (clockAfter s.now call.meanwhile.early) call.meanwhile.late := by
    rw [reopened, Buffer.foldl_write]
  have late := time_of_mem_deliveries steady.left.right
  rw [d.next_of_commit? s.now call made]
  refine {
    coverage :=
      { makings := ?_
        complete := ?_
        rest := ?_
        covered := forall_mem_concat pending.coverage.covered
          (pending.covered served made steady.left.left start)
        first := ?_
        chain := ?_ }
    begun := goesOn
    fresh := ?_
    carried := ?_
    first := ?_
    last := ?_ }
  · rw [makings_concat, made, List.map_append, pending.coverage.makings]
    rfl
  · rw [pending.complete_concat shown, happened, deliveries_append, deliveries_append,
      clockAfter_append, List.flatMap_append, List.flatMap_singleton, Division.rest,
      Share.deliveries]
    simp only [List.append_assoc]
  · rw [Division.rest, reopened]
    refine MakeUp.append ⟨?_, ?_⟩ _ _
    · rw [map_data_deliveries]
    · rw [← map_data_deliveries, List.length_map]
  · intro share here
    cases before : d.shares with
    | nil =>
      rw [before] at here
      cases here
      exact pending.first before
    | cons _ shares =>
      rw [before] at here
      cases here
      exact pending.coverage.first share (by rw [before]; rfl)
  · refine List.isChain_append.mpr ⟨pending.coverage.chain, List.isChain_singleton _, ?_⟩
    intro last there share here
    cases here
    exact pending.last last there _ rfl
  · rw [opened, served.now, happened, clockAfter_append, clockAfter_append]
    refine time_of_mem_deliveries ?_
    rw [← clockAfter_append]
    exact steady.right
  · rw [opened]
    exact fun p member => (late p member).2
  · intro empty
    exact absurd empty (List.append_ne_nil_of_right_ne_nil _ (List.cons_ne_nil _ _))
  · intro share here following same
    rw [List.getLast?_concat] at here
    cases here
    refine ⟨?_, ?_⟩
    · rw [same, finish]
    · rw [same, finish]
      exact fun p member => (late p member).1

end Pending

/-- **What the spans in the catalog cover.**  In every run with a steady clock, whatever fails and
whenever data arrives, each delivery is in one segment or still in the buffer.  A segment's span
covers all of its deliveries but those that were carried over; these arrived before its start, yet
not before the end of the segment before it. -/
theorem coverage_of_run {e : Setup} {now : Instant} {writer : Segment.Writer}
    {store : Catalog.Store} {outages : Outages} {calls : List Call} {replies : List Reply}
    {s : State} (ran : (State.start now writer store outages).run e calls = .ok (replies, s))
    (steady : Steady now (happenings (calls.zip replies))) :
    Coverage now (calls.zip replies) (division now (calls.zip replies)) s := by
  have start : Pending now [] (division now []) (State.start now writer store outages) :=
    { coverage :=
        { makings := rfl
          complete := rfl
          rest := ⟨rfl, rfl⟩
          covered := List.forall_mem_nil _
          first := fun _ here => nomatch here
          chain := .nil }
      begun := now.le_refl
      fresh := List.forall_mem_nil _
      carried := List.forall_mem_nil _
      first := fun _ => rfl
      last := fun _ here => nomatch here }
  refine Pending.coverage (State.run_induction_of_steady
    (motive := fun history t => Pending now history (division now history) t) ?_ start ran steady)
  intro history t call reply t' pending shown served steady
  rw [division, Division.after_concat]
  rw [show clockAfter now (happenings history) = t.now from shown.symm]
  cases made : reply.commit? with
  | none => exact pending.idle shown served made steady
  | some commit => exact pending.committed shown served made steady

/-! ## A delivery that is too early -/

/-- A stream with an empty directory and an empty store, in which everything works. -/
def pondStart : State :=
  .start .epoch { directory := "segments", template := "seg", files := some {} } (.files {})

/-- While the first segment is written, data arrives and then five seconds pass. -/
def pondCalls : List Call :=
  [.ingest [1, 2],
    .check fun
      | .writing => [.arrival [3], .clock (atSecond 5)]
      | _ => [],
    .flush .quiet]

/-- The second segment has a delivery from the first second, but its record has it begin five
seconds later. -/
theorem pond_runs : ∃ replies s second, pondStart.run harbor pondCalls = .ok (replies, s) ∧
    Steady .epoch (happenings (pondCalls.zip replies)) ∧
    (division .epoch (pondCalls.zip replies)).shares.getLast? = some second ∧
    second.carried = [⟨[3], .epoch⟩] ∧ Spans second.commit.child (atSecond 5) (atSecond 5) := by
  have checked : ((pondStart.run harbor pondCalls).toOption.any fun x =>
      decide (Steady .epoch (happenings (pondCalls.zip x.1))) &&
      (division .epoch (pondCalls.zip x.1)).shares.getLast?.any fun second =>
        decide (second.carried = [⟨[3], .epoch⟩] ∧
          second.commit.child.values? Catalog.Name.temporalStart =
            some [.timestamp (atSecond 5)] ∧
          second.commit.child.values? Catalog.Name.temporalEnd =
            some [.timestamp (atSecond 5)])) = true := by decide +kernel
  obtain ⟨⟨replies, s⟩, ran, good⟩ := exists_of_any checked
  rw [Bool.and_eq_true, decide_eq_true_eq, Option.any_eq_true] at good
  obtain ⟨steady, second, last, good⟩ := good
  obtain ⟨early, start, finish⟩ := of_decide_eq_true good
  exact ⟨replies, s, second, ran, steady, last, early, start, finish⟩

theorem coverage_of_run_pond :
    ∃ replies s second, pondStart.run harbor pondCalls = .ok (replies, s) ∧
      (division .epoch (pondCalls.zip replies)).shares.getLast? = some second ∧
      second.carried = [⟨[3], .epoch⟩] ∧
      Coverage .epoch (pondCalls.zip replies) (division .epoch (pondCalls.zip replies)) s := by
  obtain ⟨replies, s, second, ran, steady, last, early, -⟩ := pond_runs
  exact ⟨replies, s, second, ran, last, early, coverage_of_run ran steady⟩

/-- **Not every span covers its content**, however steady the clock. -/
theorem not_forall_spans_cover :
    ¬ ∀ (e : Setup) (now : Instant) (writer : Segment.Writer) (store : Catalog.Store)
        (outages : Outages) (calls : List Call) (replies : List Reply) (s : State),
      (State.start now writer store outages).run e calls = .ok (replies, s) →
      Steady now (happenings (calls.zip replies)) →
      ∀ share ∈ (division now (calls.zip replies)).shares, ∀ d ∈ share.deliveries,
        ∀ start finish, Spans share.commit.child start finish →
          start ≤ d.time ∧ d.time ≤ finish := by
  intro covers
  obtain ⟨replies, s, second, ran, steady, last, early, spans⟩ := pond_runs
  have member : second ∈ (division .epoch (pondCalls.zip replies)).shares :=
    List.mem_of_mem_getLast? last
  have held : ⟨[3], .epoch⟩ ∈ second.deliveries := by
    rw [Share.deliveries, early]
    exact List.mem_append_left _ List.mem_cons_self
  have late : atSecond 5 ≤ .epoch :=
    (covers harbor .epoch _ _ _ pondCalls replies s ran steady second member _ held _ _ spans).1
  exact absurd late (by decide +kernel)

end Engine
end StreamCatalog
