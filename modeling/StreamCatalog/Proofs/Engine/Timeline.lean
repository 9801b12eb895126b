import StreamCatalog.Proofs.Engine.Conservation

/-!
# What the clock shows

The engine reads the clock at a few points of its work, and between two of them the clock may be
set.  So what the readings say about each other depends on how the clock goes, and that is part
of what happens to a stream from outside: `Call.happenings` lists, for a call and its reply,
everything that has happened by the time of the reply, and `happenings` lists it for a whole
history.

A clock is *steady* if it never shows an earlier time than before.  Then the readings are in the
order in which they were made.  A clock of *civil* time, moreover, never shows a leap second; only
then is a later reading also one from which more time has passed.

What the engine reads at each stage of a check is in the section on stages: always what the clock
was set to last.
-/

namespace StreamCatalog

/-- Away from leap seconds, more time has passed at a later reading. -/
theorem Time.Instant.elapsedSince_mono {start first second : Instant}
    (atStart : start.inLeapSecond = false) (atFirst : first.inLeapSecond = false)
    (atSecond : second.inLeapSecond = false) (later : first ≤ second) :
    (first.elapsedSince start).nanoseconds ≤ (second.elapsedSince start).nanoseconds := by
  have since (t : Instant) (noLeap : t.inLeapSecond = false) :
      t.since start = (t.seconds - start.seconds) * 1000000000 + (t.nanos - start.nanos) := by
    simp [Instant.since, atStart, noLeap]
  rw [elapsedSince, elapsedSince, since first atFirst, since second atSecond]
  simp only [inLeapSecond, decide_eq_false_iff_not] at atFirst atSecond
  rw [le_iff] at later
  show Int.toNat _ ≤ Int.toNat _
  omega

namespace Engine

open Catalog (Record)
open Segment (Artifact Snapshot Buffer)
open Time (Instant)

/-! ## Readings -/

/-- The time that the clock is set to. -/
def Happening.reading? : Happening → Option Instant
  | .arrival _ => none
  | .clock now => some now

/-- The times that the clock is set to, in order. -/
def readings (happenings : List Happening) : List Instant :=
  happenings.filterMap Happening.reading?

/-- What the clock shows in the end if it shows `now` in the beginning. -/
def clockAfter (now : Instant) (happenings : List Happening) : Instant :=
  (readings happenings).getLastD now

/-- The clock never goes backward. -/
def Steady (now : Instant) (happenings : List Happening) : Prop :=
  (now :: readings happenings).Pairwise (· ≤ ·)

instance (now : Instant) (happenings : List Happening) : Decidable (Steady now happenings) :=
  inferInstanceAs (Decidable (List.Pairwise _ _))

/-- The clock never goes backward and shows no leap second. -/
structure Civil (now : Instant) (happenings : List Happening) : Prop where
  steady : Steady now happenings
  noLeap : ∀ t ∈ now :: readings happenings, t.inLeapSecond = false

instance (now : Instant) (happenings : List Happening) : Decidable (Civil now happenings) :=
  decidable_of_iff (Steady now happenings ∧
      ∀ t ∈ now :: readings happenings, t.inLeapSecond = false)
    ⟨fun h => ⟨h.1, h.2⟩, fun h => ⟨h.steady, h.noLeap⟩⟩

section

variable {now : Instant} {first second : List Happening}

theorem readings_append (first second : List Happening) :
    readings (first ++ second) = readings first ++ readings second :=
  List.filterMap_append

theorem clockAfter_append (now : Instant) (first second : List Happening) :
    clockAfter now (first ++ second) = clockAfter (clockAfter now first) second := by
  simp only [clockAfter, readings_append, List.getLastD_eq_getLast?, List.getLast?_append]
  cases (readings second).getLast? <;> rfl

@[simp] theorem clockAfter_clock (now later : Instant) (rest : List Happening) :
    clockAfter now (.clock later :: rest) = clockAfter later rest :=
  List.getLastD_cons

theorem clockAfter_mem (now : Instant) (happenings : List Happening) :
    clockAfter now happenings ∈ now :: readings happenings :=
  List.getLastD_mem_cons

/-- From wherever one looks, the readings still to come are among all readings. -/
theorem sublist_of_append (now : Instant) (first second : List Happening) :
    (clockAfter now first :: readings second).Sublist (now :: readings (first ++ second)) := by
  rw [readings_append]
  exact (List.singleton_sublist.mpr (clockAfter_mem now first)).append (List.Sublist.refl _)

namespace Steady

theorem left (steady : Steady now (first ++ second)) : Steady now first := by
  rw [Steady, readings_append] at steady
  exact steady.sublist (List.sublist_append_left (now :: readings first) _)

theorem right (steady : Steady now (first ++ second)) : Steady (clockAfter now first) second :=
  List.Pairwise.sublist (sublist_of_append now first second) steady

/-- A steady clock shows no earlier time in the end. -/
theorem le_clockAfter (steady : Steady now first) : now ≤ clockAfter now first := by
  rcases List.mem_cons.mp (clockAfter_mem now first) with same | later
  · rw [same]
    exact now.le_refl
  · exact (List.pairwise_cons.mp steady).1 _ later

end Steady

namespace Civil

theorem left (civil : Civil now (first ++ second)) : Civil now first where
  steady := civil.steady.left
  noLeap t member := by
    refine civil.noLeap t ?_
    rw [readings_append]
    exact List.mem_append_left (readings second) member

theorem right (civil : Civil now (first ++ second)) : Civil (clockAfter now first) second where
  steady := civil.steady.right
  noLeap t member := civil.noLeap t ((sublist_of_append now first second).subset member)

theorem noLeap_clockAfter (civil : Civil now first) :
    (clockAfter now first).inLeapSecond = false :=
  civil.noLeap _ (clockAfter_mem now first)

end Civil

end

/-! ## What happens during a call -/

/-- What happens meanwhile if the call goes all the way. -/
def Call.meanwhile : Call → Meanwhile
  | .check during => during
  | .flush during => during
  | _ => .quiet

/-- What happens during a check until it comes to a turn. -/
def Turn.happenings (turn : Turn) (during : Meanwhile) : List Happening :=
  turn.moments.flatMap during

/-- What has happened by the time of the reply: data that was taken in, and the clock. -/
def Call.happenings (call : Call) (reply : Reply) : List Happening :=
  match call, reply with
  | .ingest data, .accepted true => [.arrival data]
  | .check during, .turned turn => turn.happenings during
  | .flush during, .turned turn => turn.happenings during
  | .clock now, _ => [.clock now]
  | _, _ => []

/-- What has happened in a history. -/
def happenings (history : List (Call × Reply)) : List Happening :=
  history.flatMap fun x => x.1.happenings x.2

theorem Turn.happenings_of_commit? {turn : Turn} {commit : Commit}
    (made : turn.commit? = some commit) (during : Meanwhile) :
    turn.happenings during = during.early ++ during.late ++ during .released := by
  cases turn with
  | notReady | terminated | deferred | rejected => exact nomatch made
  | committed => simp [happenings, moments, Meanwhile.early, Meanwhile.late]

theorem happenings_concat (history : List (Call × Reply)) (call : Call) (reply : Reply) :
    happenings (history ++ [(call, reply)]) = happenings history ++ call.happenings reply := by
  rw [happenings, List.flatMap_append, List.flatMap_singleton]
  rfl

/-- All the data that is taken in is among what happens. -/
theorem arrivals_happenings (call : Call) (reply : Reply) :
    arrivals (call.happenings reply) = call.taken reply := by
  cases call with
  | ingest data =>
    cases reply with
    | accepted taken => cases taken <;> rfl
    | done | turned => rfl
  | check during | flush during =>
    cases reply with
    | turned turn => exact List.filterMap_flatMap
    | done | accepted => rfl
  | init | shutdown | clock => rfl

/-! ## Stages -/

namespace State

variable {e : Setup} {during : Meanwhile} {s : State}

@[simp] theorem now_pass (s : State) (happenings : List Happening) :
    (s.pass happenings).now = clockAfter s.now happenings := by
  induction happenings generalizing s with
  | nil => rfl
  | cons h hs ih =>
    rw [show s.pass (h :: hs) = (s.suffer h).pass hs from rfl, ih]
    cases h with
    | arrival data => rfl
    | clock later => exact (clockAfter_clock s.now later hs).symm

theorem now_looking (s : State) (during : Meanwhile) :
    (s.looking during).now = clockAfter s.now (during .retrying) := by
  rw [looking, now_pass, now_retryParent]

theorem now_copying (s : State) (during : Meanwhile) :
    (s.copying during).now = clockAfter s.now during.early := by
  rw [copying, now_pass, now_enter, now_looking, Meanwhile.early, clockAfter_append]

/-- A segment is what the buffer holds after it has taken in what arrives early. -/
theorem segment_eq (s : State) (during : Meanwhile) :
    s.segment during =
      ((arrivals during.early).foldl Buffer.write s.buffer).snapshot
        (clockAfter s.now during.early) := by
  rw [segment, buffer_copying, now_copying]

theorem now_of_written {result : Except Error Artifact} {w : State}
    (written : (s.writing during).write e (s.segment during) = .ok (result, w)) :
    w.now = clockAfter (s.copying during).now (during .writing) := by
  rw [now_of_write written, writing, now_pass]

/-- What the clock shows when a segment is released. -/
theorem now_releasing {a : Artifact} {w c l : State} {child parent : Record}
    (written : (s.writing during).write e (s.segment during) = .ok (.ok a, w))
    (stored : w.cataloging.storeChild child = (.ok (), c))
    (learned : (c.pass (during .cataloging)).learn e child = .ok (parent, l)) :
    (l.releasing e during (s.segment during) a).now =
      clockAfter (clockAfter s.now during.early) during.late := by
  rw [releasing, now_tell, now_pass, now_storeParent, now_of_learn learned, now_pass,
    now_of_storeChild stored, now_of_written written, now_copying, Meanwhile.late,
    clockAfter_append, clockAfter_append]

@[simp] theorem now_init (e : Setup) (s : State) : (s.init e).2.now = s.now := by
  unfold init
  split
  · rfl
  · split
    · rw [now_tellCreated, now_enter]
    · rfl

@[simp] theorem now_ingest (s : State) (data : List UInt8) : (s.ingest data).2.now = s.now := by
  unfold ingest
  split <;> rfl

@[simp] theorem now_shutdown (e : Setup) (s : State) : (s.shutdown e).now = s.now := by
  unfold shutdown
  split
  · rfl
  · rw [now_tell, now_retryParent, close]

end State

namespace Course

variable {e : Setup} {forced : Bool} {during : Meanwhile} {s s' : State} {turn : Turn}

/-- **The engine does not set the clock.**  Behind a check it shows what it was set to
meanwhile. -/
theorem now (course : Course e forced during s turn s') :
    s'.now = clockAfter s.now (turn.happenings during) := by
  cases course with
  | terminated => rfl
  | notReady =>
    rw [State.now_looking]
    simp [Turn.happenings, Turn.moments]
  | deferred _ _ failed =>
    rw [State.now_enter, State.now_of_written failed, State.now_copying, ← clockAfter_append]
    simp [Turn.happenings, Turn.moments, Meanwhile.early]
  | rejected _ _ written _ failed =>
    rw [State.now_enter, State.now_discard, State.now_pass, State.now_of_storeChild failed,
      State.now_of_written written, State.now_copying, ← clockAfter_append, ← clockAfter_append]
    simp [Turn.happenings, Turn.moments, Meanwhile.early]
  | committed _ _ written _ stored learned =>
    rw [State.now_enter, State.reopened, State.now_tellCreated, State.now_pass, State.now_release,
      State.now_releasing written stored learned, Turn.happenings_of_commit? rfl,
      clockAfter_append, clockAfter_append]

/-- **What becomes of the buffer when a segment is committed.**  The segment is what the buffer
holds when it is copied, and ends then.  The next period begins when the segment is released,
with what has arrived late. -/
theorem rolled (course : Course e forced during s turn s') {commit : Commit}
    (made : turn.commit? = some commit) :
    commit.segment = ((arrivals during.early).foldl Buffer.write s.buffer).snapshot
        (clockAfter s.now during.early) ∧
      s'.buffer = (arrivals (during .released)).foldl Buffer.write
        ⟨(arrivals during.late).flatten, (arrivals during.late).length, s.buffer.period + 1,
          clockAfter (clockAfter s.now during.early) during.late⟩ := by
  cases course with
  | terminated | notReady | deferred | rejected => exact nomatch made
  | committed _ _ written _ stored learned =>
    cases made
    refine ⟨State.segment_eq s during, ?_⟩
    rw [State.buffer_enter, State.reopened, State.buffer_tellCreated, State.buffer_pass,
      State.release_releasing written stored learned, State.now_releasing written stored learned]

end Course

namespace Served

variable {e : Setup} {s s' : State} {call : Call} {reply : Reply}

theorem now (served : Served e s call reply s') :
    s'.now = clockAfter s.now (call.happenings reply) := by
  cases served with
  | init => exact State.now_init e s
  | ingest data =>
    rw [State.now_ingest]
    cases (s.ingest data).1 <;> rfl
  | check course => exact course.now
  | flush course => exact course.now
  | shutdown => exact State.now_shutdown e s
  | clock now => rfl

/-- What happens during a call that commits a segment. -/
theorem happenings_of_commit? (served : Served e s call reply s') {commit : Commit}
    (made : reply.commit? = some commit) :
    call.happenings reply =
      call.meanwhile.early ++ call.meanwhile.late ++ call.meanwhile .released := by
  cases served with
  | init | ingest | shutdown | clock => exact nomatch made
  | @check during turn _ _ => exact turn.happenings_of_commit? made during
  | @flush during turn _ _ => exact turn.happenings_of_commit? made during

theorem rolled (served : Served e s call reply s') {commit : Commit}
    (made : reply.commit? = some commit) :
    commit.segment = ((arrivals call.meanwhile.early).foldl Buffer.write s.buffer).snapshot
        (clockAfter s.now call.meanwhile.early) ∧
      s'.buffer = (arrivals (call.meanwhile .released)).foldl Buffer.write
        ⟨(arrivals call.meanwhile.late).flatten, (arrivals call.meanwhile.late).length,
          s.buffer.period + 1,
          clockAfter (clockAfter s.now call.meanwhile.early) call.meanwhile.late⟩ := by
  cases served with
  | init | ingest | shutdown | clock => exact nomatch made
  | check course => exact course.rolled made
  | flush course => exact course.rolled made

/-- A period that is opened begins at what the clock shows then. -/
theorem start_cases (served : Served e s call reply s') :
    s'.buffer.start = s.buffer.start ∨
      ∃ before after, call.happenings reply = before ++ after ∧
        s'.buffer.start = clockAfter s.now before := by
  cases made : reply.commit? with
  | none =>
    rw [served.buffer_of_none made, Buffer.foldl_write]
    exact Or.inl rfl
  | some commit =>
    refine Or.inr ⟨_, _, served.happenings_of_commit? made, ?_⟩
    rw [(served.rolled made).2, Buffer.foldl_write, clockAfter_append]

end Served

/-! ## Runs -/

namespace State

variable {e : Setup} {calls : List Call} {replies : List Reply} {s s' : State}

/-- **What the clock shows behind a run** is what it was set to last.  Every period begins when
the first one did, or at one of the readings since. -/
theorem clock_of_run (ran : s.run e calls = .ok (replies, s')) :
    s'.now = clockAfter s.now (happenings (calls.zip replies)) ∧
      (s'.buffer.start = s.buffer.start ∨
        s'.buffer.start ∈ s.now :: readings (happenings (calls.zip replies))) := by
  refine run_induction (motive := fun history t => t.now = clockAfter s.now (happenings history) ∧
    (t.buffer.start = s.buffer.start ∨ t.buffer.start ∈ s.now :: readings (happenings history)))
    ?_ ⟨rfl, Or.inl rfl⟩ ran
  rintro history t call reply t' ⟨shown, begun⟩ served
  rw [happenings_concat, served.now, shown, clockAfter_append]
  refine ⟨rfl, ?_⟩
  rcases served.start_cases with same | ⟨before, after, happened, opened⟩
  · rw [same]
    refine begun.imp_right fun member => ?_
    rw [readings_append]
    exact List.mem_append_left (readings (call.happenings reply)) member
  · rw [opened, shown, happened, ← clockAfter_append, ← List.append_assoc, readings_append]
    exact Or.inr (List.mem_append_left (readings after) (clockAfter_mem s.now _))

/-- **What every call keeps under a steady clock, every run keeps under one.** -/
theorem run_induction_of_steady {motive : List (Call × Reply) → State → Prop}
    (next : ∀ {history t call reply t'}, motive history t →
      t.now = clockAfter s.now (happenings history) → Served e t call reply t' →
      Steady t.now (call.happenings reply) → motive (history ++ [(call, reply)]) t')
    (start : motive [] s) (ran : s.run e calls = .ok (replies, s'))
    (steady : Steady s.now (happenings (calls.zip replies))) : motive (calls.zip replies) s' := by
  suffices general : s'.now = clockAfter s.now (happenings (calls.zip replies)) ∧
      motive (calls.zip replies) s' from general.2
  refine run_induction (motive := fun history t => Steady s.now (happenings history) →
    t.now = clockAfter s.now (happenings history) ∧ motive history t)
    ?_ (fun _ => ⟨rfl, start⟩) ran steady
  intro history t call reply t' before served steady
  rw [happenings_concat] at steady ⊢
  obtain ⟨shown, kept⟩ := before steady.left
  refine ⟨by rw [served.now, shown, clockAfter_append], next kept shown served ?_⟩
  rw [shown]
  exact steady.right

end State

/-- A time of the first day, for streams to look at. -/
def atSecond (n : Nat) : Instant := Instant.epoch.advance (.ofParts n 0)

end Engine
end StreamCatalog
