import StreamCatalog.Monitor
import StreamCatalog.Proofs.Engine.Conservation
import StreamCatalog.Proofs.Engine.Ledger

/-!
# Setbacks

An attempt to make a segment can fail at two points before anything is committed: the
segment cannot be written, or its record cannot be stored.  By then the check has already
done a good deal.  It may have stored the dirty record of the stream, it has entered the
finalizing phase, it may have written a file and used up an identifier.  `Undone` says
what of all this can still be seen afterwards: nothing but what arrived in the meantime,
and the record of the stream, if it was dirty and the store accepted it this time.

## What the caller is told

A segment that could not be written is not a failure of the check; the caller learns that it
was put off.  Every other failure comes from the store and reaches the caller as a failure
of the store, whatever the store itself called it.  Such failures may pass, so whoever
checks at every tick just goes on: `setback_of_run`.
-/

namespace StreamCatalog
namespace Engine

open Catalog (Id Record)
open Segment (Artifact Snapshot Buffer)

namespace State

/-! ## What an engine shows -/

/-- What an engine shows to whoever watches it: its phase and the hooks that it has
invoked. -/
def face (s : State) : Phase × List Notice := (s.phase, s.notices)

variable {e : Setup} {s s' : State} {segment : Snapshot}

@[simp] theorem face_pass (s : State) (happenings : List Happening) :
    (s.pass happenings).face = s.face := by
  obtain ⟨_, eq⟩ := s.pass_eq happenings
  rw [eq]
  rfl

@[simp] theorem face_retryParent (s : State) : s.retryParent.face = s.face := by
  obtain ⟨_, _, _, _, _, eq⟩ := s.retryParent_eq
  rw [eq]
  rfl

@[simp] theorem face_discard (s : State) (a : Artifact) : (s.discard a).face = s.face := by
  obtain ⟨_, _, eq⟩ := s.discard_eq a
  rw [eq]
  rfl

theorem face_of_write {result : Except Error Artifact}
    (h : s.write e segment = .ok (result, s')) : s'.face = s.face := by
  obtain ⟨_, _, rfl⟩ := write_eq h
  rfl

theorem face_of_storeChild {child : Record} {result : Except Error Unit}
    (h : s.cataloging.storeChild child = (result, s')) : s'.face = s.face := by
  obtain ⟨_, _, _, rfl⟩ := storeChild_eq h
  rfl

/-- As long as the stream has not been shut down, entering a phase shows. -/
theorem face_enter {p : Phase} (running : s.face.1 ≠ .terminated) (goesOn : p ≠ .terminated) :
    (s.enter p).face = (p, s.face.2) := by
  have passes : s.phase ≠ .terminated ∧ p ≠ .terminated := ⟨running, goesOn⟩
  rw [enter, dif_pos passes]
  rfl

/-- While a segment is written, the engine is finalizing and has told nobody. -/
theorem face_writing {during : Meanwhile} (running : s.phase ≠ .terminated) :
    (s.writing during).face = (.finalizing, s.notices) := by
  have looked : (s.looking during).face = s.face := by
    rw [looking, face_pass, face_retryParent]
  have still : (s.looking during).face.1 ≠ .terminated := by
    rw [looked]
    exact running
  rw [writing, copying, face_pass, face_pass, face_enter still Phase.noConfusion, looked]
  rfl

/-- An engine that was finalizing is active again. -/
theorem face_enter_active {notices : List Notice} (finalizing : s.face = (.finalizing, notices)) :
    (s.enter .active).face = (.active, notices) := by
  have running : s.face.1 ≠ .terminated := by
    rw [finalizing]
    exact fun same => Phase.noConfusion same
  rw [face_enter running Phase.noConfusion, finalizing]

/-! ## A dirty record is stored again -/

/-- All that storing a dirty record again can change of the store is that record. -/
theorem store_retryParent (s : State) :
    (∀ id, s.retryParent.store.get id = s.store.get id) ∨
      (s.isDirty = true ∧ s.retryParent.isDirty = false ∧ ∃ p, s.record = some p ∧
        ∀ id, s.retryParent.store.get id = if id = p.id then .ok (some p) else s.store.get id) := by
  unfold retryParent
  split
  · rename_i dirty
    cases known : s.record with
    | none =>
      have same : s.storeParent.2.store = s.store := by
        unfold storeParent
        rw [known]
      rw [same]
      exact Or.inl fun _ => rfl
    | some p =>
      obtain ⟨store, ok, called, posted⟩ := ledger_storeParent known
      have after : s.storeParent.2.store = store := congrArg Ledger.store posted
      have flag : s.storeParent.2.isDirty = !ok := congrArg Ledger.isDirty posted
      rw [after, flag]
      cases called with
      | failed same => exact Or.inl same
      | done _ found => exact Or.inr ⟨dirty, rfl, p, rfl, found⟩
  · exact Or.inl fun _ => rfl

/-! ## The two setbacks -/

/-- Why the segment of a check cannot be written, if it cannot. -/
def writingFailure? (e : Setup) (during : Meanwhile) (s : State) : Option Error :=
  match (s.writing during).write e (s.segment during) with
  | .ok (.error cause, _) => some cause
  | _ => none

/-- Why the segment of a check is written but its record cannot be stored, if that is so. -/
def catalogingFailure? (e : Setup) (during : Meanwhile) (s : State) : Option Error :=
  match (s.writing during).write e (s.segment during) with
  | .ok (.ok a, w) =>
    match e.childRecord (e.newId w.idsUsed) (s.segment during) a w.now with
    | .error _ => none
    | .ok child =>
      match (w.cataloging.storeChild child).1 with
      | .error cause => some cause
      | .ok _ => none
  | _ => none

/-- Is a segment due, and can it not be written? -/
structure FailsToWrite (e : Setup) (forced : Bool) (during : Meanwhile) (s : State)
    (cause : Error) : Prop where
  ready : (s.looking during).isReady e forced = true
  failed : s.writingFailure? e during = some cause

/-- Is a segment due and written, and can its record not be stored? -/
structure FailsToCatalog (e : Setup) (forced : Bool) (during : Meanwhile) (s : State)
    (cause : Error) : Prop where
  ready : (s.looking during).isReady e forced = true
  failed : s.catalogingFailure? e during = some cause

instance {forced : Bool} {during : Meanwhile} {cause : Error} :
    Decidable (s.FailsToWrite e forced during cause) :=
  decidable_of_iff ((s.looking during).isReady e forced = true ∧
      s.writingFailure? e during = some cause)
    ⟨fun h => ⟨h.1, h.2⟩, fun h => ⟨h.ready, h.failed⟩⟩

instance {forced : Bool} {during : Meanwhile} {cause : Error} :
    Decidable (s.FailsToCatalog e forced during cause) :=
  decidable_of_iff ((s.looking during).isReady e forced = true ∧
      s.catalogingFailure? e during = some cause)
    ⟨fun h => ⟨h.1, h.2⟩, fun h => ⟨h.ready, h.failed⟩⟩

theorem exists_of_writingFailure? {during : Meanwhile} {cause : Error}
    (failed : s.writingFailure? e during = some cause) :
    ∃ w, (s.writing during).write e (s.segment during) = .ok (.error cause, w) := by
  unfold writingFailure? at failed
  split at failed
  · rename_i w written
    rw [Option.some.inj failed] at written
    exact ⟨w, written⟩
  · exact nomatch failed

theorem exists_of_catalogingFailure? {during : Meanwhile} {cause : Error}
    (failed : s.catalogingFailure? e during = some cause) :
    ∃ a w child c, (s.writing during).write e (s.segment during) = .ok (.ok a, w) ∧
      e.childRecord (e.newId w.idsUsed) (s.segment during) a w.now = .ok child ∧
      w.cataloging.storeChild child = (.error cause, c) := by
  unfold catalogingFailure? at failed
  split at failed
  · rename_i a w written
    split at failed
    · exact nomatch failed
    · rename_i child described
      split at failed
      · rename_i refused
        rw [Option.some.inj failed] at refused
        exact ⟨a, w, child, _, written, described, Prod.ext refused rfl⟩
      · exact nomatch failed
  · exact nomatch failed

/-- What a setback leaves behind, given the data that has arrived meanwhile. -/
structure Undone (s s' : State) (arrived : List (List UInt8)) : Prop where
  /-- Every byte is still in the buffer, in front of what has arrived, ... -/
  bytes : s'.buffer.bytes = s.buffer.bytes ++ arrived.flatten
  /-- ... every write is counted, ... -/
  writes : s'.buffer.writes = s.buffer.writes + arrived.length
  /-- ... and the period goes on. -/
  period : s'.buffer.period = s.buffer.period
  start : s'.buffer.start = s.buffer.start
  /-- The stream's record has taken no notice. -/
  record : s'.record = s.record
  /-- No hook was told. -/
  notices : s'.notices = s.notices
  phase : s'.phase = .active
  /-- The store holds what it held, but for the stream's record if that was dirty. -/
  store : (∀ id, s'.store.get id = s.store.get id) ∨
    (s.isDirty = true ∧ s'.isDirty = false ∧ ∃ p, s.record = some p ∧
      ∀ id, s'.store.get id = if id = p.id then .ok (some p) else s.store.get id)

/-- A setback is undone if the buffer has only taken in what arrived, the engine shows
nothing, and the catalog is as it was after the dirty record was stored again. -/
theorem undone_of_frames {arrived : List (List UInt8)}
    (buffer : s'.buffer = arrived.foldl Buffer.write s.buffer)
    (face : s'.face = (.active, s.notices)) (record : s'.record = s.retryParent.record)
    (dirty : s'.isDirty = s.retryParent.isDirty)
    (store : ∀ id, s'.store.get id = s.retryParent.store.get id) : Undone s s' arrived := by
  rw [Buffer.foldl_write] at buffer
  rw [record_retryParent] at record
  refine {
    bytes := by rw [buffer]
    writes := by rw [buffer]
    period := by rw [buffer]
    start := by rw [buffer]
    record := record
    notices := congrArg Prod.snd face
    phase := congrArg Prod.fst face
    store := ?_ }
  rcases s.store_retryParent with same | ⟨was, is, p, known, found⟩
  · exact Or.inl fun id => (store id).trans (same id)
  · exact Or.inr ⟨was, dirty.trans is, p, known, fun id => (store id).trans (found id)⟩

/-! ## What becomes of the check -/

/-- An attempt to make a segment of what a check finds. -/
def attempt (e : Setup) (during : Meanwhile) (s : State) : Except Breakdown (Turn × State) :=
  ((s.copying during).rollOver e during).map fun (turn, s) => (turn, s.enter .active)

/-- A check in which a segment is due is an attempt to make it. -/
theorem check_of_ready {forced : Bool} {during : Meanwhile} (running : s.phase ≠ .terminated)
    (ready : (s.looking during).isReady e forced = true) :
    s.check e forced during = s.attempt e during := by
  unfold check
  rw [if_neg (mt s.agrees.mp running)]
  show (if (s.looking during).isReady e forced = true then _ else _) = _
  rw [if_pos ready, attempt]
  show ((s.copying during).rollOver e during >>= _) = _
  cases (s.copying during).rollOver e during <;> rfl

/-- A check in which a segment is due comes to what making it comes to. -/
theorem check_of_rollOver {forced : Bool} {during : Meanwhile} {turn : Turn}
    (running : s.phase ≠ .terminated) (ready : (s.looking during).isReady e forced = true)
    (rolled : (s.copying during).rollOver e during = .ok (turn, s')) :
    s.check e forced during = .ok (turn, s'.enter .active) := by
  rw [check_of_ready running ready, attempt, rolled]
  rfl

/-- **A segment that cannot be written is put off**, and nothing is left of the attempt. -/
theorem check_of_failsToWrite {forced : Bool} {during : Meanwhile} {cause : Error}
    (running : s.phase ≠ .terminated) (fails : s.FailsToWrite e forced during cause) :
    ∃ s', s.check e forced during = .ok (.deferred cause, s') ∧
      Undone s s' (Turn.arrivals (.deferred cause) during) := by
  obtain ⟨w, failed⟩ := exists_of_writingFailure? fails.failed
  have rolled : (s.copying during).rollOver e during = .ok (.deferred cause, w) := by
    show ((s.writing during).write e (s.segment during) >>= _) = _
    rw [failed]
    rfl
  have ledger : (w.enter .active).ledger = s.retryParent.ledger := by
    rw [ledger_enter, ledger_of_write failed, ledger_writing]
  refine ⟨_, check_of_rollOver running fails.ready rolled, undone_of_frames ?_ ?_ ?_ ?_ ?_⟩
  · rw [buffer_enter, buffer_of_written failed]
    simp [Turn.arrivals, Turn.moments, Meanwhile.early, arrivals_append]
  · refine face_enter_active ?_
    rw [face_of_write failed, face_writing running]
  · exact congrArg Ledger.record ledger
  · exact congrArg Ledger.isDirty ledger
  · intro id
    exact congrArg (fun l : Ledger => l.store.get id) ledger

/-- A written segment whose record cannot be stored is discarded. -/
theorem catalog_of_failed {during : Meanwhile} {a : Artifact} {w c : State} {child : Record}
    {cause : Error} (described : e.childRecord (e.newId w.idsUsed) segment a w.now = .ok child)
    (failed : w.cataloging.storeChild child = (.error cause, c)) :
    w.catalog e during segment a =
      .ok (.rejected cause.asStore, (c.pass (during .cataloging)).discard a) := by
  rw [cataloging] at failed
  unfold catalog
  rw [described]
  dsimp only [bind, Except.bind]
  rw [failed]
  rfl

/-- **A segment whose record cannot be stored is given up**, and nothing is left of the
attempt. -/
theorem check_of_failsToCatalog {forced : Bool} {during : Meanwhile} {cause : Error}
    (running : s.phase ≠ .terminated) (fails : s.FailsToCatalog e forced during cause) :
    ∃ s', s.check e forced during = .ok (.rejected cause.asStore, s') ∧
      Undone s s' (Turn.arrivals (.rejected cause.asStore) during) := by
  obtain ⟨a, w, child, c, written, described, failed⟩ := exists_of_catalogingFailure? fails.failed
  have rolled : (s.copying during).rollOver e during =
      .ok (.rejected cause.asStore, (c.pass (during .cataloging)).discard a) := by
    show ((s.writing during).write e (s.segment during) >>= _) = _
    rw [written]
    exact catalog_of_failed described failed
  obtain ⟨store, called, posted⟩ := w.cataloging.ledger_storeChild child
  rw [failed] at called posted
  have looked : w.ledger = s.retryParent.ledger := by
    rw [ledger_of_write written, ledger_writing]
  have ledger : (((c.pass (during .cataloging)).discard a).enter .active).ledger = c.ledger := by
    rw [ledger_enter, ledger_discard, ledger_pass]
  rw [posted] at ledger
  refine ⟨_, check_of_rollOver running fails.ready rolled, undone_of_frames ?_ ?_ ?_ ?_ ?_⟩
  · rw [buffer_enter, buffer_discard, buffer_pass, buffer_of_storeChild failed,
      buffer_of_written written, ← List.foldl_append]
    simp [Turn.arrivals, Turn.moments, Meanwhile.early, arrivals_append]
  · refine face_enter_active ?_
    rw [face_discard, face_pass, face_of_storeChild failed, face_of_write written,
      face_writing running]
  · exact (congrArg Ledger.record ledger).trans (congrArg Ledger.record looked)
  · exact (congrArg Ledger.isDirty ledger).trans (congrArg Ledger.isDirty looked)
  · intro id
    have here : (((c.pass (during .cataloging)).discard a).enter .active).store = store :=
      congrArg Ledger.store ledger
    have before : w.store = s.retryParent.store := congrArg Ledger.store looked
    rw [here, ← before]
    cases called with
    | failed same => exact same id

/-! ## The failures that callers see -/

/-- Storing the stream's record fails as the store does. -/
theorem storeParent_fst_error {failure : Error} (failed : s.storeParent.1 = .error failure) :
    ∃ cause : Error, failure = cause.asStore := by
  unfold storeParent at failed
  split at failed
  · exact nomatch failed
  · split at failed
    · exact nomatch failed
    · rename_i cause _ _
      exact ⟨cause, (Except.error.inj failed).symm⟩

end State

/-- Whatever kind of failure it was, it is one of the store now. -/
theorem exists_source_of_asStore (cause : Error) : ∃ source, cause.asStore = .store source := by
  cases cause <;> exact ⟨_, rfl⟩

/-- Every failure of a check is one of the store. -/
theorem Course.error_of {e : Setup} {forced : Bool} {during : Meanwhile} {s s' : State}
    {turn : Turn} (course : Course e forced during s turn s') {failure : Error}
    (failed : turn.error? = some failure) : ∃ cause : Error, failure = cause.asStore := by
  cases course with
  | terminated | notReady | deferred => exact nomatch failed
  | @rejected _ _ _ cause => exact ⟨cause, (Option.some.inj failed).symm⟩
  | @committed _ _ _ _ _ l =>
    cases stored : l.storeParent.1 with
    | ok _ =>
      rw [stored] at failed
      exact nomatch failed
    | error cause =>
      rw [stored] at failed
      rw [← Option.some.inj failed]
      exact State.storeParent_fst_error stored

/-- Is every failure that the turn tells of one of the store, so that it may pass and no monitor
complains? -/
def Turn.IsPatient (turn : Turn) : Prop :=
  (∀ failure, turn.error? = some failure →
    (∃ source, failure = .store source) ∧ failure.isRetryable = true) ∧
    ∀ failure, Monitor.reaction turn ≠ .complain failure

theorem Course.isPatient {e : Setup} {forced : Bool} {during : Meanwhile} {s s' : State}
    {turn : Turn} (course : Course e forced during s turn s') : turn.IsPatient := by
  have retryable (failure : Error) (failed : turn.error? = some failure) :
      failure.isRetryable = true := by
    obtain ⟨cause, rfl⟩ := course.error_of failed
    exact cause.isRetryable_asStore
  refine ⟨fun failure failed => ⟨?_, retryable failure failed⟩, ?_⟩
  · obtain ⟨cause, rfl⟩ := course.error_of failed
    exact exists_source_of_asStore cause
  · intro failure complains
    unfold Monitor.reaction at complains
    split at complains
    · exact nomatch complains
    · split at complains
      · exact nomatch complains
      · rename_i cause failed
        rw [if_pos (retryable cause failed)] at complains
        exact nomatch complains

/-- Every check that a call makes ends in such a turn. -/
theorem Served.isPatient {e : Setup} {s s' : State} {call : Call} {reply : Reply}
    (served : Served e s call reply s') {turn : Turn} (turned : reply = .turned turn) :
    turn.IsPatient := by
  cases served with
  | init | ingest | shutdown | clock => exact nomatch turned
  | check course =>
    rw [← Reply.turned.inj turned]
    exact course.isPatient
  | flush course =>
    rw [← Reply.turned.inj turned]
    exact course.isPatient

/-- **A setback leaves nothing behind and can be retried.**  At every point of every run
before the shutdown, a check that cannot write its segment reports it as put off, and one
that cannot store the segment's record reports a failure of the store; either way the
attempt is undone.  No check of a run, however it fails, reports anything but a failure of
the store. -/
theorem setback_of_run {e : Setup} {now : Time.Instant} {writer : Segment.Writer}
    {store : Catalog.Store} {outages : Outages} {calls : List Call} {replies : List Reply}
    {s : State} (ran : (State.start now writer store outages).run e calls = .ok (replies, s)) :
    (s.phase ≠ .terminated → ∀ forced during cause,
      (s.FailsToWrite e forced during cause → ∃ s',
        s.check e forced during = .ok (.deferred cause, s') ∧
          State.Undone s s' (Turn.arrivals (.deferred cause) during)) ∧
      (s.FailsToCatalog e forced during cause → ∃ s',
        s.check e forced during = .ok (.rejected cause.asStore, s') ∧
          State.Undone s s' (Turn.arrivals (.rejected cause.asStore) during))) ∧
      ∀ turn, .turned turn ∈ replies → turn.IsPatient := by
  constructor
  · intro running forced during cause
    exact ⟨State.check_of_failsToWrite running, State.check_of_failsToCatalog running⟩
  · intro turn member
    have all := State.forall_reply_of_run
      (P := fun reply => ∀ turn, reply = .turned turn → turn.IsPatient)
      (fun served _ turned => served.isPatient turned) ran
    exact all (.turned turn) member turn rfl

/-- The harbor on a bad day: its second segment cannot be written at first, its record then
cannot be stored, and the stream's record is not accepted either. -/
def stormyStart : State :=
  .start .epoch { directory := "segments", template := "seg", files := some {} } (.files {})
    { writing := [none, some (.io "disk full")], child := [none, some (.config "no schema")]
      parent := [some (.plugin "store" "offline")] }

def stormyCalls : List Call := [.ingest [1, 2], .check .quiet, .ingest [3, 4]]

/-- Data keeps arriving while a segment is written. -/
def spray : Meanwhile
  | .writing => [.arrival [5]]
  | _ => []

/-- Does the stream go on, with a dirty record and a turn that failed, and can it not write
its segment? -/
def isStuckWriting (x : List Reply × State) : Bool :=
  x.2.phase ≠ .terminated && x.2.isDirty &&
    x.2.FailsToWrite harbor true spray (.io "disk full") &&
    x.1.any fun
      | .turned turn => turn.error?.isSome
      | _ => false

/-- Does the stream go on, and can it not store the record of its segment? -/
def isStuckCataloging (x : List Reply × State) : Bool :=
  x.2.phase ≠ .terminated && x.2.FailsToCatalog harbor false spray (.config "no schema")

/-- Once with a dirty record that is stored on the way, once with a record that is not. -/
theorem setback_of_run_stormy :
    (∃ replies s s', stormyStart.run harbor stormyCalls = .ok (replies, s) ∧
      isStuckWriting (replies, s) = true ∧
      s.check harbor true spray = .ok (.deferred (.io "disk full"), s') ∧
      State.Undone s s' [[5]] ∧ ∀ turn, .turned turn ∈ replies → turn.IsPatient) ∧
    ∃ replies s s', stormyStart.run harbor (stormyCalls ++ [.flush spray]) = .ok (replies, s) ∧
      isStuckCataloging (replies, s) = true ∧
      s.check harbor false spray = .ok (.rejected (.store "Config error: no schema"), s') ∧
      State.Undone s s' [[5]] := by
  constructor
  · have checked : ((stormyStart.run harbor stormyCalls).toOption.any isStuckWriting) = true := by
      decide +kernel
    obtain ⟨⟨replies, s⟩, ran, stuck⟩ := exists_of_any checked
    have facts := stuck
    simp only [isStuckWriting, Bool.and_eq_true, decide_eq_true_eq] at facts
    obtain ⟨⟨⟨running, -⟩, fails⟩, -⟩ := facts
    have setback := setback_of_run ran
    obtain ⟨s', check, undone⟩ := (setback.1 running true spray _).1 fails
    exact ⟨replies, s, s', ran, stuck, check, undone, setback.2⟩
  · have checked : ((stormyStart.run harbor (stormyCalls ++ [.flush spray])).toOption.any
        isStuckCataloging) = true := by decide +kernel
    obtain ⟨⟨replies, s⟩, ran, stuck⟩ := exists_of_any checked
    have facts := stuck
    simp only [isStuckCataloging, Bool.and_eq_true, decide_eq_true_eq] at facts
    obtain ⟨running, fails⟩ := facts
    obtain ⟨s', check, undone⟩ := ((setback_of_run ran).1 running false spray _).2 fails
    exact ⟨replies, s, s', ran, stuck, check, undone⟩

end Engine
end StreamCatalog
