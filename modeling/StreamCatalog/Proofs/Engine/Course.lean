import StreamCatalog.Engine.Run
import StreamCatalog.Proofs.Outcomes

/-!
# The course of a check

A check passes through several stages and can end behind most of them.  What it has
done by then is read off here, once, from its definition: `Course` has one
constructor for every way in which a check can end, and each constructor names the
states in between and the results that led on to the next stage.  All that is said
elsewhere about checks is a case analysis on `Course`.

## Frames

A stage works on a few components of the state and leaves all others as they are.
Four groups of components matter to what follows:

* the buffer, which only arrivals and the release of a segment change;
* the clock, which the engine only reads;
* the writer with its directory, which only writing and discarding a segment change;
* the catalog, that is the store, the stream's record, the calls made to the store
  and the identifiers in use.

## Runs

A run is a sequence of calls.  What every call keeps, every run keeps: `run_induction`
states this for properties of the state and of the whole history of calls and
replies, and `run_keeps` for properties of the state and of the segments committed so
far.
-/

namespace StreamCatalog
namespace Engine

open Catalog (Record)
open Segment (Artifact Snapshot)

/-- What holds of all earlier elements and of the last one holds of all. -/
theorem forall_mem_concat {α : Type} {P : α → Prop} {xs : List α} {x : α}
    (earlier : ∀ y ∈ xs, P y) (last : P x) : ∀ y ∈ xs ++ [x], P y := by
  intro y member
  rcases List.mem_append.mp member with before | here
  · exact earlier y before
  · rw [List.mem_singleton.mp here]
    exact last

/-- Images stay different when one is added that is different from all. -/
theorem nodup_map_concat {α β : Type} {f : α → β} {xs : List α} {x : α}
    (apart : (xs.map f).Nodup) (new : ∀ y ∈ xs, f y ≠ f x) : ((xs ++ [x]).map f).Nodup := by
  rw [List.map_append, List.nodup_append]
  refine ⟨apart, List.pairwise_singleton _ _, ?_⟩
  intro a before b here
  obtain ⟨y, member, rfl⟩ := List.mem_map.mp before
  rw [List.mem_singleton.mp here]
  exact new y member

namespace State

/-! ## The stages -/

/-- The state in which a check decides whether a segment is due. -/
def looking (s : State) (during : Meanwhile) : State := s.retryParent.pass (during .retrying)

/-- The state in which the buffer is copied for a segment. -/
def copying (s : State) (during : Meanwhile) : State :=
  ((s.looking during).enter .finalizing).pass (during .decided)

/-- The segment that a check makes of a state. -/
def segment (s : State) (during : Meanwhile) : Snapshot :=
  (s.copying during).buffer.snapshot (s.copying during).now

/-- The state in which that segment is written. -/
def writing (s : State) (during : Meanwhile) : State := (s.copying during).pass (during .writing)

/-- The state that storing the record of a segment starts from. -/
def cataloging (s : State) : State := { s with idsUsed := s.idsUsed + 1 }

/-- The state in which the buffer lets go of a segment. -/
def releasing (e : Setup) (s : State) (during : Meanwhile) (segment : Snapshot) (a : Artifact) :
    State :=
  (s.storeParent.2.pass (during .storing)).tell e .ended segment.period segment.start (some a)

/-- The state behind a committed segment. -/
def reopened (e : Setup) (s : State) (during : Meanwhile) (segment : Snapshot) (a : Artifact) :
    State :=
  (((s.releasing e during segment a).release segment).2.pass (during .released)).tellCreated e

end State

/-- How a check can end, and what has happened by then. -/
inductive Course (e : Setup) (forced : Bool) (during : Meanwhile) (s : State) :
    Turn → State → Prop where
  /-- The stream has been shut down. -/
  | terminated (ended : s.phase = .terminated) : Course e forced during s .terminated s
  /-- No segment is due. -/
  | notReady (running : s.phase ≠ .terminated) (idle : (s.looking during).isReady e forced = false) :
      Course e forced during s .notReady (s.looking during)
  /-- The segment cannot be written. -/
  | deferred {cause : Error} {w : State} (running : s.phase ≠ .terminated)
      (ready : (s.looking during).isReady e forced = true)
      (failed : (s.writing during).write e (s.segment during) = .ok (.error cause, w)) :
      Course e forced during s (.deferred cause) (w.enter .active)
  /-- The segment gets no record. -/
  | rejected {a : Artifact} {w : State} {child : Record} {cause : Error} {c : State}
      (running : s.phase ≠ .terminated) (ready : (s.looking during).isReady e forced = true)
      (written : (s.writing during).write e (s.segment during) = .ok (.ok a, w))
      (described : e.childRecord (e.newId w.idsUsed) (s.segment during) a w.now = .ok child)
      (failed : w.cataloging.storeChild child = (.error cause, c)) :
      Course e forced during s (.rejected cause.asStore)
        (((c.pass (during .cataloging)).discard a).enter .active)
  /-- The segment is committed. -/
  | committed {a : Artifact} {w : State} {child : Record} {c : State} {parent : Record} {l : State}
      (running : s.phase ≠ .terminated) (ready : (s.looking during).isReady e forced = true)
      (written : (s.writing during).write e (s.segment during) = .ok (.ok a, w))
      (described : e.childRecord (e.newId w.idsUsed) (s.segment during) a w.now = .ok child)
      (stored : w.cataloging.storeChild child = (.ok (), c))
      (learned : (c.pass (during .cataloging)).learn e child = .ok (parent, l)) :
      Course e forced during s
        (.committed ⟨s.segment during, a, child, parent.id,
            ((l.releasing e during (s.segment during) a).release (s.segment during)).1⟩
          l.storeParent.1)
        ((l.reopened e during (s.segment during) a).enter .active)

namespace State

/-- What follows a written segment: its record is made and offered to the store, and
the answer decides between discarding the segment and committing it. -/
theorem cases_of_catalog {e : Setup} {during : Meanwhile} {s s' : State} {segment : Snapshot}
    {a : Artifact} {turn : Turn} (h : s.catalog e during segment a = .ok (turn, s')) :
    ∃ child c, e.childRecord (e.newId s.idsUsed) segment a s.now = .ok child ∧
      ((∃ cause, s.cataloging.storeChild child = (.error cause, c) ∧
          turn = .rejected cause.asStore ∧ s' = (c.pass (during .cataloging)).discard a) ∨
        (s.cataloging.storeChild child = (.ok (), c) ∧
          (c.pass (during .cataloging)).commit e during segment a child = .ok (turn, s'))) := by
  unfold catalog at h
  obtain ⟨child, described, h⟩ := bind_eq_ok_iff.mp h
  rcases stored : s.cataloging.storeChild child with ⟨result, c⟩
  rw [cataloging] at stored
  rw [stored] at h
  refine ⟨child, c, described, ?_⟩
  cases result with
  | error cause =>
    cases h
    exact Or.inl ⟨cause, stored, rfl, rfl⟩
  | ok _ => exact Or.inr ⟨stored, h⟩

/-- **Every check takes one of these courses.** -/
theorem course_of_check {e : Setup} {forced : Bool} {during : Meanwhile} {s s' : State}
    {turn : Turn} (h : s.check e forced during = .ok (turn, s')) : Course e forced during s turn s' := by
  unfold check at h
  split at h
  · rename_i closed
    cases h
    exact .terminated (s.agrees.mp closed)
  · rename_i goesOn
    have running : s.phase ≠ .terminated := mt s.agrees.mpr goesOn
    dsimp only at h
    split at h
    · rename_i ready
      obtain ⟨⟨t, r⟩, rolled, h⟩ := bind_eq_ok_iff.mp h
      cases h
      unfold rollOver at rolled
      obtain ⟨⟨result, w⟩, written, rolled⟩ := bind_eq_ok_iff.mp rolled
      cases result with
      | error cause =>
        cases rolled
        exact .deferred running ready written
      | ok a =>
        obtain ⟨child, c, described, ⟨cause, failed, rfl, rfl⟩ | ⟨stored, rolled⟩⟩ :=
          cases_of_catalog rolled
        · exact .rejected running ready written described failed
        · obtain ⟨⟨parent, l⟩, learned, rolled⟩ := bind_eq_ok_iff.mp rolled
          cases rolled
          exact .committed running ready written described stored learned
    · rename_i idle
      cases h
      exact .notReady running (Bool.eq_false_iff.mpr idle)

/-! ## What arrives -/

end State

/-- The data of an arrival. -/
def Happening.data? : Happening → Option (List UInt8)
  | .arrival data => some data
  | .clock _ => none

/-- The data that arrives, in order. -/
def arrivals (happenings : List Happening) : List (List UInt8) :=
  happenings.filterMap Happening.data?

theorem arrivals_append (first second : List Happening) :
    arrivals (first ++ second) = arrivals first ++ arrivals second :=
  List.filterMap_append

/-- What happens during a check before the buffer is copied. -/
def Meanwhile.early (during : Meanwhile) : List Happening := during .retrying ++ during .decided

/-- What happens during a check between the copy of the buffer and the release of the segment. -/
def Meanwhile.late (during : Meanwhile) : List Happening :=
  during .writing ++ during .cataloging ++ during .storing

namespace State

/-- Outside the engine only the buffer and the clock can change, and the buffer only by
writes of what arrives. -/
theorem pass_eq (s : State) (happenings : List Happening) :
    ∃ now, s.pass happenings =
      { s with buffer := (arrivals happenings).foldl Segment.Buffer.write s.buffer, now } := by
  induction happenings generalizing s with
  | nil => exact ⟨s.now, rfl⟩
  | cons h hs ih =>
    obtain ⟨now, eq⟩ := ih (s.suffer h)
    refine ⟨now, ?_⟩
    rw [show s.pass (h :: hs) = (s.suffer h).pass hs from rfl, eq]
    cases h <;> rfl

/-- As long as the stream runs, what arrives is taken in like any other data. -/
theorem suffer_arrival {s : State} (running : s.phase ≠ .terminated) (data : List UInt8) :
    s.ingest data = (true, s.suffer (.arrival data)) :=
  if_neg running

/-! ## What a stage leaves alone -/

variable {e : Setup} {s s' : State} {segment : Snapshot}

theorem storeChild_eq {child : Record} {result : Except Error Unit}
    (h : s.cataloging.storeChild child = (result, s')) : ∃ store calls outage, s' =
      { s with store, calls, outages := { s.outages with child := outage },
               idsUsed := s.idsUsed + 1 } := by
  have after : (s.cataloging.storeChild child).2 = s' := by rw [h]
  rw [← after]
  exact ⟨_, _, _, rfl⟩

theorem storeParent_eq (s : State) :
    ∃ store calls outage isStored isDirty, s.storeParent.2 =
      { s with store, calls, outages := { s.outages with parent := outage },
               isStored, isDirty } := by
  unfold storeParent
  split
  · exact ⟨_, _, _, _, _, rfl⟩
  · rename_i r _
    rcases offered : s.offerParent r with ⟨result, t⟩
    have frame : t = (s.offerParent r).2 := by rw [offered]
    cases result <;> exact ⟨_, _, _, _, _, by rw [frame]; rfl⟩

theorem retryParent_eq (s : State) :
    ∃ store calls outage isStored isDirty, s.retryParent =
      { s with store, calls, outages := { s.outages with parent := outage },
               isStored, isDirty } := by
  unfold retryParent
  split
  · exact s.storeParent_eq
  · exact ⟨_, _, _, _, _, rfl⟩

theorem write_eq {result : Except Error Artifact} (h : s.write e segment = .ok (result, s')) :
    ∃ writer outage, s' = { s with writer, outages := { s.outages with writing := outage } } := by
  unfold write at h
  dsimp only at h
  split at h
  · cases h
    exact ⟨_, _, rfl⟩
  · obtain ⟨⟨answer, writer⟩, -, h⟩ := bind_eq_ok_iff.mp h
    cases h
    exact ⟨_, _, rfl⟩

theorem discard_eq (s : State) (a : Artifact) :
    ∃ writer outage,
      s.discard a = { s with writer, outages := { s.outages with discarding := outage } } := by
  unfold discard
  dsimp only
  split <;> exact ⟨_, _, rfl⟩

theorem learn_eq {child r : Record} (h : s.learn e child = .ok (r, s')) :
    ∃ record idsUsed isDirty, s' = { s with record, idsUsed, isDirty } := by
  unfold learn at h
  obtain ⟨record, -, h⟩ := bind_eq_ok_iff.mp h
  cases h
  split <;> exact ⟨_, _, _, rfl⟩

theorem release_eq (s : State) (segment : Snapshot) :
    ∃ buffer, (s.release segment).2 = { s with buffer } := by
  unfold release
  split <;> exact ⟨_, rfl⟩

theorem enter_eq (s : State) (p : Phase) :
    ∃ phase agrees, s.enter p = { s with phase, agrees } := by
  unfold enter
  split
  · rename_i goesOn
    exact ⟨p, s.agrees_of_goesOn goesOn, rfl⟩
  · exact ⟨s.phase, s.agrees, rfl⟩

/-! ### The buffer -/

@[simp] theorem buffer_pass (s : State) (happenings : List Happening) :
    (s.pass happenings).buffer = (arrivals happenings).foldl Segment.Buffer.write s.buffer := by
  obtain ⟨_, eq⟩ := s.pass_eq happenings
  rw [eq]

@[simp] theorem buffer_enter (s : State) (p : Phase) : (s.enter p).buffer = s.buffer := by
  obtain ⟨_, _, eq⟩ := s.enter_eq p
  rw [eq]

@[simp] theorem buffer_tell (s : State) (o : Occasion) (n : Nat) (t : Time.Instant)
    (a : Option Artifact) : (s.tell e o n t a).buffer = s.buffer := rfl

@[simp] theorem buffer_tellCreated (s : State) : (s.tellCreated e).buffer = s.buffer := rfl

@[simp] theorem buffer_storeParent (s : State) : s.storeParent.2.buffer = s.buffer := by
  obtain ⟨_, _, _, _, _, eq⟩ := s.storeParent_eq
  rw [eq]

@[simp] theorem buffer_retryParent (s : State) : s.retryParent.buffer = s.buffer := by
  obtain ⟨_, _, _, _, _, eq⟩ := s.retryParent_eq
  rw [eq]

@[simp] theorem buffer_discard (s : State) (a : Artifact) : (s.discard a).buffer = s.buffer := by
  obtain ⟨_, _, eq⟩ := s.discard_eq a
  rw [eq]

theorem buffer_of_write {result : Except Error Artifact}
    (h : s.write e segment = .ok (result, s')) : s'.buffer = s.buffer := by
  obtain ⟨_, _, rfl⟩ := write_eq h
  rfl

theorem buffer_of_storeChild {child : Record} {result : Except Error Unit}
    (h : s.cataloging.storeChild child = (result, s')) : s'.buffer = s.buffer := by
  obtain ⟨_, _, _, rfl⟩ := storeChild_eq h
  rfl

theorem buffer_of_learn {child r : Record} (h : s.learn e child = .ok (r, s')) :
    s'.buffer = s.buffer := by
  obtain ⟨_, _, _, rfl⟩ := learn_eq h
  rfl

/-! ### The clock -/

@[simp] theorem now_enter (s : State) (p : Phase) : (s.enter p).now = s.now := by
  obtain ⟨_, _, eq⟩ := s.enter_eq p
  rw [eq]

@[simp] theorem now_tell (s : State) (o : Occasion) (n : Nat) (t : Time.Instant)
    (a : Option Artifact) : (s.tell e o n t a).now = s.now := rfl

@[simp] theorem now_tellCreated (s : State) : (s.tellCreated e).now = s.now := rfl

@[simp] theorem now_storeParent (s : State) : s.storeParent.2.now = s.now := by
  obtain ⟨_, _, _, _, _, eq⟩ := s.storeParent_eq
  rw [eq]

@[simp] theorem now_retryParent (s : State) : s.retryParent.now = s.now := by
  obtain ⟨_, _, _, _, _, eq⟩ := s.retryParent_eq
  rw [eq]

@[simp] theorem now_discard (s : State) (a : Artifact) : (s.discard a).now = s.now := by
  obtain ⟨_, _, eq⟩ := s.discard_eq a
  rw [eq]

@[simp] theorem now_release (s : State) (segment : Snapshot) :
    (s.release segment).2.now = s.now := by
  obtain ⟨_, eq⟩ := s.release_eq segment
  rw [eq]

theorem now_of_write {result : Except Error Artifact}
    (h : s.write e segment = .ok (result, s')) : s'.now = s.now := by
  obtain ⟨_, _, rfl⟩ := write_eq h
  rfl

theorem now_of_storeChild {child : Record} {result : Except Error Unit}
    (h : s.cataloging.storeChild child = (result, s')) : s'.now = s.now := by
  obtain ⟨_, _, _, rfl⟩ := storeChild_eq h
  rfl

theorem now_of_learn {child r : Record} (h : s.learn e child = .ok (r, s')) :
    s'.now = s.now := by
  obtain ⟨_, _, _, rfl⟩ := learn_eq h
  rfl

end State

/-! ## Calls and runs -/

/-- How a call is served. -/
inductive Served (e : Setup) (s : State) : Call → Reply → State → Prop where
  | init : Served e s .init (.done (s.init e).1) (s.init e).2
  | ingest (data : List UInt8) : Served e s (.ingest data) (.accepted (s.ingest data).1)
      (s.ingest data).2
  | check {during : Meanwhile} {turn : Turn} {s' : State} (course : Course e false during s turn s') :
      Served e s (.check during) (.turned turn) s'
  | flush {during : Meanwhile} {turn : Turn} {s' : State} (course : Course e true during s turn s') :
      Served e s (.flush during) (.turned turn) s'
  | shutdown : Served e s .shutdown (.done (.ok ())) (s.shutdown e)
  | clock (now : Time.Instant) : Served e s (.clock now) (.done (.ok ())) { s with now }

namespace State

theorem served_of_step {e : Setup} {s s' : State} {call : Call} {reply : Reply}
    (h : s.step e call = .ok (reply, s')) : Served e s call reply s' := by
  cases call with
  | init => cases h; exact .init
  | ingest data => cases h; exact .ingest data
  | check during =>
    obtain ⟨⟨turn, t⟩, checked, same⟩ := map_eq_ok_iff.mp h
    cases same
    exact .check (course_of_check checked)
  | flush during =>
    obtain ⟨⟨turn, t⟩, checked, same⟩ := map_eq_ok_iff.mp h
    cases same
    exact .flush (course_of_check checked)
  | shutdown => cases h; exact .shutdown
  | clock now => cases h; exact .clock now

/-- A run begins with its first call. -/
theorem cases_of_run_cons {e : Setup} {s s' : State} {call : Call} {calls : List Call}
    {replies : List Reply} (h : s.run e (call :: calls) = .ok (replies, s')) :
    ∃ reply t rest, s.step e call = .ok (reply, t) ∧ t.run e calls = .ok (rest, s') ∧
      replies = reply :: rest := by
  rw [run] at h
  obtain ⟨⟨reply, t⟩, stepped, h⟩ := bind_eq_ok_iff.mp h
  obtain ⟨⟨rest, u⟩, ran, h⟩ := bind_eq_ok_iff.mp h
  cases h
  exact ⟨reply, t, rest, stepped, ran, rfl⟩

/-- **What every call keeps, every run keeps.**  The history holds the calls so far, each
with its reply. -/
theorem run_induction {e : Setup} {motive : List (Call × Reply) → State → Prop}
    (next : ∀ {history s call reply s'}, motive history s → Served e s call reply s' →
      motive (history ++ [(call, reply)]) s')
    {calls : List Call} {replies : List Reply} {s s' : State} (start : motive [] s)
    (ran : s.run e calls = .ok (replies, s')) : motive (calls.zip replies) s' := by
  suffices general : ∀ history, motive history s → motive (history ++ calls.zip replies) s' from
    general [] start
  clear start
  induction calls generalizing s replies with
  | nil =>
    intro history h
    cases ran
    rwa [List.zip_nil_left, List.append_nil]
  | cons call calls ih =>
    intro history h
    obtain ⟨reply, t, rest, stepped, later, rfl⟩ := cases_of_run_cons ran
    have kept := ih later _ (next h (served_of_step stepped))
    rwa [List.append_assoc, List.singleton_append] at kept

/-- Every call has one reply. -/
theorem length_of_run {e : Setup} {calls : List Call} {replies : List Reply} {s s' : State}
    (ran : s.run e calls = .ok (replies, s')) : replies.length = calls.length := by
  induction calls generalizing s replies with
  | nil => cases ran; rfl
  | cons call calls ih =>
    obtain ⟨_, _, _, -, later, rfl⟩ := cases_of_run_cons ran
    rw [List.length_cons, List.length_cons, ih later]

/-- A run can be continued by a call. -/
theorem run_concat {e : Setup} {calls : List Call} {replies : List Reply} {s t u : State}
    (ran : s.run e calls = .ok (replies, t)) {call : Call} {reply : Reply}
    (made : t.step e call = .ok (reply, u)) :
    s.run e (calls ++ [call]) = .ok (replies ++ [reply], u) := by
  induction calls generalizing s replies with
  | nil =>
    cases ran
    rw [List.nil_append, run, made]
    rfl
  | cons first calls ih =>
    obtain ⟨_, _, _, stepped, later, rfl⟩ := cases_of_run_cons ran
    have rest := ih later
    rw [List.cons_append, run, stepped]
    show (run _ _ _ >>= _) = _
    rw [rest]
    rfl

/-- The segments that were committed in a history. -/
def committed (history : List (Call × Reply)) : List Commit :=
  history.filterMap fun x => x.2.commit?

theorem committed_concat (history : List (Call × Reply)) (call : Call) (reply : Reply) :
    committed (history ++ [(call, reply)]) = committed history ++ reply.commit?.toList := by
  rw [committed, committed, List.filterMap_append]
  cases made : reply.commit? with
  | none => simp [made]
  | some commit => simp [made]

theorem committed_zip {e : Setup} {calls : List Call} {replies : List Reply} {s s' : State}
    (ran : s.run e calls = .ok (replies, s')) :
    committed (calls.zip replies) = replies.filterMap Reply.commit? := by
  calc committed (calls.zip replies)
      = ((calls.zip replies).map Prod.snd).filterMap Reply.commit? := by
        rw [List.filterMap_map]
        rfl
    _ = replies.filterMap Reply.commit? := by
        rw [List.map_snd_zip (Nat.le_of_eq (length_of_run ran))]

/-- What every call keeps together with the segments committed so far, every run keeps. -/
theorem run_keeps {e : Setup} {motive : List Commit → State → Prop}
    (next : ∀ {commits s call reply s'}, motive commits s → Served e s call reply s' →
      motive (commits ++ reply.commit?.toList) s')
    {calls : List Call} {replies : List Reply} {s s' : State} (start : motive [] s)
    (ran : s.run e calls = .ok (replies, s')) : motive (replies.filterMap Reply.commit?) s' := by
  rw [← committed_zip ran]
  refine run_induction (motive := fun history t => motive (committed history) t) ?_ start ran
  intro history s call reply s' h served
  rw [committed_concat]
  exact next h served

/-- What a call says of its reply holds of all replies of a run. -/
theorem forall_reply_of_run {e : Setup} {P : Reply → Prop}
    (each : ∀ {s call reply s'}, Served e s call reply s' → P reply)
    {calls : List Call} {replies : List Reply} {s s' : State}
    (ran : s.run e calls = .ok (replies, s')) : ∀ reply ∈ replies, P reply := by
  induction calls generalizing s replies with
  | nil =>
    cases ran
    exact fun _ none => absurd none List.not_mem_nil
  | cons call calls ih =>
    obtain ⟨first, t, rest, stepped, later, rfl⟩ := cases_of_run_cons ran
    intro reply member
    rcases List.mem_cons.mp member with rfl | member
    · exact each (served_of_step stepped)
    · exact ih later reply member

/-- What a call says of the segment that it commits holds of all segments of a run. -/
theorem forall_commit_of_run {e : Setup} {P : Commit → Prop}
    (each : ∀ {s call reply s' commit}, Served e s call reply s' → reply.commit? = some commit →
      P commit)
    {calls : List Call} {replies : List Reply} {s s' : State}
    (ran : s.run e calls = .ok (replies, s')) :
    ∀ commit ∈ replies.filterMap Reply.commit?, P commit := by
  intro commit member
  obtain ⟨reply, replied, made⟩ := List.mem_filterMap.mp member
  have all := forall_reply_of_run (P := fun reply => ∀ commit, reply.commit? = some commit → P commit)
    (fun served _ made => each served made) ran
  exact all reply replied commit made

end State

/-! ## A stream to look at

A short run, for seeing that what is said of runs is said of some: its first segment gets
no record, its second one does, but the stream's record is not accepted, and data keeps
arriving. -/

/-- A supply of identifiers that counts. -/
def countingId (n : Nat) : Catalog.Id := ⟨n % Nat.pow 16 32, Nat.mod_lt n (by decide)⟩

/-- A stream whose segments are due at two bytes. -/
def harbor : Setup where
  stream := ⟨"udp://127.0.0.1:50000", "harbor"⟩
  condition := .bytes 2
  newId := countingId

/-- A directory in which a name is taken, an empty store, and a failure of each kind of call
to it. -/
def harborStart : State :=
  .start .epoch
    { directory := "segments", template := "seg", files := some ⟨[("seg.ts", .file [0])]⟩ }
    (.files {}) { child := [some (.store "unavailable")], parent := [some (.io "disk full")] }

def harborCalls : List Call :=
  [.init, .ingest [1, 2],
    .check fun
      | .writing => [.arrival [3]]
      | _ => [],
    .ingest [4],
    .check fun
      | .decided => [.arrival [7]]
      | .storing => [.arrival [5]]
      | .released => [.arrival [6]]
      | _ => []]

theorem harbor_runs : ∃ replies s, harborStart.run harbor harborCalls = .ok (replies, s) ∧
    (replies.filterMap Reply.commit?).length = 1 ∧ s.idsUsed = 3 := by
  have checked : ((harborStart.run harbor harborCalls).toOption.any fun x =>
      (x.1.filterMap Reply.commit?).length = 1 && x.2.idsUsed = 3) = true := by decide +kernel
  obtain ⟨⟨replies, s⟩, ran, good⟩ := exists_of_any checked
  rw [Bool.and_eq_true, decide_eq_true_eq, decide_eq_true_eq] at good
  exact ⟨replies, s, ran, good⟩

end Engine
end StreamCatalog
