import StreamCatalog.Proofs.Engine.Closing
import StreamCatalog.Proofs.Engine.Setbacks
import StreamCatalog.Proofs.Engine.Timeline
import StreamCatalog.Proofs.Segment.Thresholds

/-!
# A segment that is due stays due

An attempt to make a segment can fail, and then the period goes on.  Nothing reminds the engine
of what it was about to do: the next check looks at the buffer like any other.  It will find the
segment due all the same, if the condition is made of thresholds, for meanwhile the buffer has
only taken in data and the period has only got older.

The latter is a matter of the clock.  If it went backward, the period could become too young
again; and the time between two readings may shrink when one of them lies in a leap second.  So
the clock has to be civil (`Civil`).

What follows from this for runs is `attempts_of_run`: after a setback, every check is another
attempt, until the segment is committed or the stream is shut down.
-/

namespace StreamCatalog
namespace Engine

open Segment (Buffer Condition Stats)
open Time (Instant)

/-! ## Attempts -/

/-- Has the check tried to make a segment? -/
def Turn.isAttempt : Turn → Bool
  | .deferred _ => true
  | .rejected _ => true
  | .committed _ _ => true
  | _ => false

/-- Has the check tried to make a segment in vain? -/
def Turn.isSetback : Turn → Bool
  | .deferred _ => true
  | .rejected _ => true
  | _ => false

namespace Course

variable {e : Setup} {forced : Bool} {during : Meanwhile} {s s' : State} {turn : Turn}

/-- Only a segment that is due can be given up, and the buffer keeps it. -/
theorem of_isSetback (course : Course e forced during s turn s') (setback : turn.isSetback = true) :
    s.phase ≠ .terminated ∧ (s.looking during).isReady e forced = true ∧ turn.commit? = none ∧
      ∃ rest, turn.moments = .retrying :: rest := by
  cases course with
  | terminated | notReady | committed => exact nomatch setback
  | deferred running ready => exact ⟨running, ready, rfl, _, rfl⟩
  | rejected running ready => exact ⟨running, ready, rfl, _, rfl⟩

/-- If a segment is due, the check tries to make it. -/
theorem isAttempt_of_ready (course : Course e forced during s turn s')
    (running : s.phase ≠ .terminated) (ready : (s.looking during).isReady e forced = true) :
    turn.isAttempt = true := by
  cases course with
  | terminated ended => exact absurd ended running
  | notReady _ idle =>
    rw [ready] at idle
    exact nomatch idle
  | deferred | rejected | committed => rfl

end Course

namespace State

variable {e : Setup}

/-- A segment that is due of a buffer stays due while data is taken in and the period gets
older. -/
theorem isReady_of_atMost {s t : State} {forced : Bool} (builtIn : e.condition.isBuiltIn = true)
    (more : (s.buffer.stats s.now).AtMost (t.buffer.stats t.now))
    (ready : s.isReady e forced = true) : t.isReady e forced = true := by
  rw [isReady, Bool.and_eq_true, decide_eq_true_eq] at ready ⊢
  obtain ⟨holding, due⟩ := ready
  refine ⟨fun empty => holding (Nat.le_zero.mp (empty ▸ more.size)), ?_⟩
  rw [Bool.or_eq_true] at due ⊢
  exact due.imp_right (Condition.isMet_mono more e.condition builtIn)

/-- **A segment that was due in a setback is due in every later check**, as long as nothing is
committed and the stream is not shut down. -/
theorem isReady_of_setback {now : Instant} {first during : Meanwhile} {turn : Turn} {s t u : State}
    {before : List Happening} {calls : List Call} {replies : List Reply}
    (builtIn : e.condition.isBuiltIn = true) (shown : s.now = clockAfter now before)
    (begun : s.buffer.start ∈ now :: readings before)
    (course : Course e false first s turn t) (setback : turn.isSetback = true)
    (ran : t.run e calls = .ok (replies, u)) (idle : replies.filterMap Reply.commit? = [])
    (civil : Civil now (before ++ turn.happenings first ++ happenings (calls.zip replies) ++
      during .retrying)) :
    (u.looking during).isReady e false = true := by
  obtain ⟨-, ready, none, rest, moments⟩ := course.of_isSetback setback
  refine isReady_of_atMost builtIn ?_ ready
  -- The clock, first at the setback and then at the present check.
  have atSetback : (s.looking first).now = clockAfter now (before ++ first .retrying) := by
    rw [now_looking, shown, clockAfter_append]
  have here : (u.looking during).now = clockAfter now (before ++ turn.happenings first ++
      happenings (calls.zip replies) ++ during .retrying) := by
    rw [now_looking, (clock_of_run ran).1, course.now, shown]
    simp only [clockAfter_append]
  have split : before ++ turn.happenings first ++ happenings (calls.zip replies) ++
      during .retrying = (before ++ first .retrying) ++ (rest.flatMap first ++
        happenings (calls.zip replies) ++ during .retrying) := by
    rw [Turn.happenings, moments, List.flatMap_cons]
    simp only [List.append_assoc]
  -- The buffer, likewise.
  obtain ⟨data, buffer⟩ : ∃ data : List (List UInt8),
      (u.looking during).buffer = data.foldl Buffer.write (s.looking first).buffer := by
    refine ⟨rest.flatMap (fun moment => arrivals (first moment)) ++
      ((calls.zip replies).flatMap fun x => x.1.taken x.2) ++ arrivals (during .retrying), ?_⟩
    rw [buffer_looking, buffer_of_run ran idle, course.buffer_of_none none, Turn.arrivals, moments,
      List.flatMap_cons, buffer_looking, List.foldl_append, List.foldl_append, List.foldl_append]
  have start : (s.looking first).buffer.start = s.buffer.start := by
    rw [buffer_looking, Buffer.foldl_write]
  rw [split] at civil here
  rw [buffer]
  refine Buffer.atMost_stats_write _ data ?_
  rw [start, atSetback, here, clockAfter_append now (before ++ first .retrying)]
  refine Instant.elapsedSince_mono ?_ civil.left.noLeap_clockAfter
    civil.right.noLeap_clockAfter civil.right.steady.le_clockAfter
  exact civil.left.left.noLeap _ begun

end State

/-- **The engine does not give up.**  Conditions made of thresholds, to which those of
configurations belong, stay met when nothing becomes less.  So if the clock is civil and a check
has tried in vain to make a segment, every later check is an attempt to make it again, until it is
committed or the stream is shut down. -/
theorem attempts_of_run :
    (∀ c : Condition, c.isBuiltIn = true →
      ∀ s t : Stats, s.AtMost t → c.isMet s = true → c.isMet t = true) ∧
    (∀ elapsedSeconds size, (Condition.ofThresholds elapsedSeconds size).isBuiltIn = true) ∧
    ∀ (e : Setup) (now : Instant) (writer : Segment.Writer) (store : Catalog.Store)
      (outages : Outages) (earlier later : List Call) (first during : Meanwhile)
      {replies answers : List Reply} {turn : Turn} {s t u : State},
      e.condition.isBuiltIn = true →
      (State.start now writer store outages).run e earlier = .ok (replies, s) →
      s.check e false first = .ok (turn, t) → turn.isSetback = true →
      t.run e later = .ok (answers, u) → later.any Call.isShutdown = false →
      answers.filterMap Reply.commit? = [] →
      Civil now (happenings (earlier.zip replies) ++ turn.happenings first ++
        happenings (later.zip answers) ++ during .retrying) →
      u.check e false during = u.attempt e during ∧
        ∀ {next : Turn} {v : State}, u.check e false during = .ok (next, v) →
          next.isAttempt = true := by
  refine ⟨fun c builtIn s t more => Condition.isMet_mono more c builtIn,
    Condition.isBuiltIn_ofThresholds, ?_⟩
  intro e now writer store outages earlier later first during replies answers turn s t u builtIn ran
    checked setback went goesOn idle civil
  have course := State.course_of_check checked
  have running : u.phase ≠ .terminated := by
    intro ended
    rw [State.phase_eq_terminated_of_run went, goesOn, course.phase_eq_terminated_iff] at ended
    exact ended.elim (course.of_isSetback setback).1 Bool.false_ne_true
  obtain ⟨shown, begun⟩ := State.clock_of_run ran
  have begun : s.buffer.start ∈ now :: readings (happenings (earlier.zip replies)) := by
    refine begun.elim (fun same => ?_) id
    rw [same]
    exact List.mem_cons_self
  have ready := State.isReady_of_setback builtIn shown begun course setback went idle civil
  exact ⟨State.check_of_ready running ready, fun made =>
    (State.course_of_check made).isAttempt_of_ready running ready⟩

/-- A stream whose segments are due when there were two writes and either the period has lasted
five seconds or a hundred bytes have come in. -/
def breakwater : Setup :=
  { harbor with condition := .allOf [.writes 2, .anyOf [.elapsed (.ofParts 5 0), .bytes 100]] }

/-- The first segment is committed, and data for a second one comes in. -/
def breakwaterCalls : List Call :=
  [.ingest [1], .ingest [2], .clock (atSecond 5), .check .quiet, .ingest [3], .ingest [4],
    .clock (atSecond 10)]

/-- The second segment cannot be written, and then its record cannot be stored. -/
theorem attempts_of_run_stormy :
    ∃ replies s turn t answers u, stormyStart.run breakwater breakwaterCalls = .ok (replies, s) ∧
      s.check breakwater false spray = .ok (turn, t) ∧
      t.run breakwater [.ingest [], .flush spray] = .ok (answers, u) ∧
      u.check breakwater false .quiet = u.attempt breakwater .quiet ∧
      ∀ {next v}, u.check breakwater false .quiet = .ok (next, v) → next.isAttempt = true := by
  have checked : ((stormyStart.run breakwater breakwaterCalls >>= fun x =>
      x.2.check breakwater false spray >>= fun y =>
      y.2.run breakwater [.ingest [], .flush spray] >>= fun z =>
      .ok (y.1.isSetback && (z.1.filterMap Reply.commit?).isEmpty &&
        decide (Civil .epoch (happenings (breakwaterCalls.zip x.1) ++ y.1.happenings spray ++
          happenings ([Call.ingest [], .flush spray].zip z.1) ++ Meanwhile.quiet .retrying)))
      ).toOption.any id) = true := by decide +kernel
  obtain ⟨good, all, rfl⟩ := exists_of_any checked
  obtain ⟨⟨replies, s⟩, ran, all⟩ := bind_eq_ok_iff.mp all
  obtain ⟨⟨turn, t⟩, tried, all⟩ := bind_eq_ok_iff.mp all
  obtain ⟨⟨answers, u⟩, went, all⟩ := bind_eq_ok_iff.mp all
  have facts := Except.ok.inj all
  simp only [Bool.and_eq_true, List.isEmpty_iff, decide_eq_true_eq] at facts
  obtain ⟨⟨setback, idle⟩, civil⟩ := facts
  refine ⟨replies, s, turn, t, answers, u, ran, tried, went, ?_⟩
  exact attempts_of_run.2.2 breakwater .epoch _ _ _ breakwaterCalls _ spray .quiet rfl ran tried
    setback went rfl idle civil

end Engine
end StreamCatalog
