import StreamCatalog.Proofs.Engine.Conservation
import StreamCatalog.Proofs.Engine.Setbacks

/-!
# What the hooks are told

Whoever installs hooks learns of a stream from them alone, so what they are told has to
make sense as a whole.  It does: a period begins, its segment is finished, the next
period begins, and so on, until the stream is shut down.  `Setup.script` is this story,
made from the committed segments, and `notices_of_run` says that every run which begins
by initializing the stream tells it, whatever fails on the way and however the hooks
themselves end.

## What a call tells

The proof goes call by call.  Most calls tell nothing.  A check that commits a segment tells
of two events (`Turn.told`), and that no other event gets into the notices is
`Course.notices`, which rests on the frames of the stages: only `tell` touches the notices.

## Which record they are told of

The record of the stream is made in the course of the first commit, before the hook for
the finished segment is told, so that hook is the first one to learn of it.  From then on
the identifier stays, because no updater changes it.
-/

namespace StreamCatalog
namespace Engine

open Catalog (Id Record)
open Segment (Artifact Snapshot Buffer)
open Time (Instant)

/-! ## Events -/

namespace Setup

/-- What is told of a period that begins. -/
def opening (e : Setup) (parent : Option Id) (period : Nat) (start : Instant) : Event :=
  ⟨.created, e.stream, parent, period, start, none⟩

/-- What is told of a segment that has been finished. -/
def closing (e : Setup) (parent : Option Id) (period : Nat) (start : Instant) (a : Artifact) :
    Event :=
  ⟨.ended, e.stream, parent, period, start, some a⟩

/-- What is told of the shutdown. -/
def farewell (e : Setup) (parent : Option Id) (period : Nat) (start : Instant) : Event :=
  ⟨.shutdown, e.stream, parent, period, start, none⟩

end Setup

namespace Hooks

/-- Tell the hooks of several events, one after the other. -/
def invokeAll (h : Hooks) (notices : List Notice) (events : List Event) : List Notice :=
  events.foldl h.invoke notices

theorem invokeAll_append (h : Hooks) (notices : List Notice) (first second : List Event) :
    h.invokeAll notices (first ++ second) = h.invokeAll (h.invokeAll notices first) second :=
  List.foldl_append

/-- Every event reaches the hook for its occasion, if there is one.  How the hooks end makes
no difference to which are invoked. -/
theorem map_event_invokeAll (h : Hooks) (notices : List Notice) (events : List Event) :
    (h.invokeAll notices events).map Notice.event =
      notices.map Notice.event ++ events.filter fun event => h.isInstalled event.occasion := by
  induction events generalizing notices with
  | nil => simp [invokeAll]
  | cons event events ih =>
    show (h.invokeAll (h.invoke notices event) events).map Notice.event = _
    rw [ih]
    by_cases installed : h.isInstalled event.occasion
    · simp [invoke, installed]
    · simp [invoke, installed]

end Hooks

namespace State

/-- The identifier of the stream's record, once there is one. -/
def parentId (s : State) : Option Id := s.record.map Record.id

variable {e : Setup} {s s' : State} {segment : Snapshot}

theorem face_tell (s : State) (o : Occasion) (n : Nat) (t : Instant) (a : Option Artifact) :
    (s.tell e o n t a).face =
      (s.face.1, e.hooks.invoke s.face.2 ⟨o, e.stream, s.parentId, n, t, a⟩) := by
  rw [tell, parent, Option.map_map]
  rfl

theorem face_tellCreated (s : State) :
    (s.tellCreated e).face =
      (s.face.1, e.hooks.invoke s.face.2 (e.opening s.parentId s.buffer.period s.buffer.start)) :=
  s.face_tell _ _ _ _

/-! ## The course of a check -/

@[simp] theorem face_storeParent (s : State) : s.storeParent.2.face = s.face := by
  obtain ⟨_, _, _, _, _, eq⟩ := s.storeParent_eq
  rw [eq]
  rfl

@[simp] theorem face_release (s : State) (segment : Snapshot) :
    (s.release segment).2.face = s.face := by
  obtain ⟨_, eq⟩ := s.release_eq segment
  rw [eq]
  rfl

theorem face_of_learn {child r : Record} (h : s.learn e child = .ok (r, s')) :
    s'.face = s.face := by
  obtain ⟨_, _, _, rfl⟩ := learn_eq h
  rfl

@[simp] theorem record_pass (s : State) (happenings : List Happening) :
    (s.pass happenings).record = s.record := by
  obtain ⟨_, eq⟩ := s.pass_eq happenings
  rw [eq]

@[simp] theorem record_release (s : State) (segment : Snapshot) :
    (s.release segment).2.record = s.record := by
  obtain ⟨_, eq⟩ := s.release_eq segment
  rw [eq]

/-- Up to the moment when a segment is written, nobody is told anything. -/
theorem face_of_written {during : Meanwhile} {result : Except Error Artifact} {w : State}
    (running : s.phase ≠ .terminated)
    (written : (s.writing during).write e (s.segment during) = .ok (result, w)) :
    w.face = (.finalizing, s.notices) := by
  rw [face_of_write written, face_writing running]

/-- Behind a committed segment, two hooks have been told: that the segment is finished, and that
the next period begins. -/
theorem face_reopened {during : Meanwhile} {a : Artifact} {l : State} {parent : Record}
    {notices : List Notice} (known : l.record = some parent)
    (finalizing : l.face = (.finalizing, notices)) :
    (l.reopened e during segment a).face = (.finalizing, e.hooks.invokeAll notices
      [e.closing (some parent.id) segment.period segment.start a,
        e.opening (some parent.id) (l.reopened e during segment a).buffer.period
          (l.reopened e during segment a).buffer.start]) := by
  -- the record that the hooks are told of has just taken notice of the segment
  have record : (l.storeParent.2.pass (during .storing)).parentId = some parent.id := by
    rw [parentId, record_pass, record_storeParent, known]
    rfl
  have face : (l.storeParent.2.pass (during .storing)).face = (.finalizing, notices) := by
    rw [face_pass, face_storeParent, finalizing]
  have told : (l.releasing e during segment a).face = (.finalizing, e.hooks.invoke notices
      (e.closing (some parent.id) segment.period segment.start a)) := by
    rw [releasing, face_tell, face, record]
    rfl
  have still : (((l.releasing e during segment a).release segment).2.pass
      (during .released)).parentId = some parent.id := by
    rw [parentId, record_pass, record_release]
    exact record
  rw [reopened, face_tellCreated, face_pass, face_release, told, still]
  rfl

end State

/-- What is told of the turn that a check has come to, when the buffer is as it is now. -/
def Turn.told (e : Setup) (turn : Turn) (buffer : Buffer) : List Event :=
  match turn.commit? with
  | none => []
  | some c =>
    [e.closing (some c.parent) c.segment.period c.segment.start c.artifact,
      e.opening (some c.parent) buffer.period buffer.start]

theorem Turn.told_of_commit? {e : Setup} {turn : Turn} {c : Commit}
    (made : turn.commit? = some c) (buffer : Buffer) : turn.told e buffer =
      [e.closing (some c.parent) c.segment.period c.segment.start c.artifact,
        e.opening (some c.parent) buffer.period buffer.start] := by
  rw [told, made]

namespace Course

variable {e : Setup} {forced : Bool} {during : Meanwhile} {s s' : State} {turn : Turn}

/-- A check that gets to making a segment ends in the active phase, and tells of the segment if
it commits one.  Any other check shows nothing. -/
theorem face (course : Course e forced during s turn s') :
    (turn.commit? = none ∧ s'.face = s.face) ∨
      (s.phase ≠ .terminated ∧
        s'.face = (.active, e.hooks.invokeAll s.notices (turn.told e s'.buffer))) := by
  cases course with
  | terminated => exact Or.inl ⟨rfl, rfl⟩
  | notReady => exact Or.inl ⟨rfl, by rw [State.looking, State.face_pass, State.face_retryParent]⟩
  | deferred running _ failed =>
    refine Or.inr ⟨running, State.face_enter_active ?_⟩
    exact State.face_of_written running failed
  | @rejected a _ _ _ c running _ written _ failed =>
    refine Or.inr ⟨running, State.face_enter_active ?_⟩
    rw [State.face_discard, State.face_pass, State.face_of_storeChild failed,
      State.face_of_written running written]
    rfl
  | @committed a w child c parent l running _ written _ stored learned =>
    refine Or.inr ⟨running, State.face_enter_active ?_⟩
    have finalizing : l.face = (.finalizing, s.notices) := by
      rw [State.face_of_learn learned, State.face_pass, State.face_of_storeChild stored,
        State.face_of_written running written]
    rw [State.face_reopened (State.record_of_learn learned) finalizing, State.buffer_enter]
    rfl

/-- What a check tells is all that gets into the notices. -/
theorem notices (course : Course e forced during s turn s') :
    s'.notices = e.hooks.invokeAll s.notices (turn.told e s'.buffer) := by
  rcases course.face with ⟨idle, face⟩ | ⟨-, face⟩
  · rw [Turn.told, idle]
    exact congrArg Prod.snd face
  · exact congrArg Prod.snd face

/-- A check leaves the phase as it is, or the stream goes on. -/
theorem phase (course : Course e forced during s turn s') :
    s'.phase = s.phase ∨ (s.phase ≠ .terminated ∧ s'.phase = .active) := by
  rcases course.face with ⟨-, face⟩ | ⟨running, face⟩
  · exact Or.inl (congrArg Prod.fst face)
  · exact Or.inr ⟨running, congrArg Prod.fst face⟩

/-- No check ends a stream or brings one back. -/
theorem phase_eq_terminated_iff (course : Course e forced during s turn s') :
    s'.phase = .terminated ↔ s.phase = .terminated := by
  rcases course.phase with same | ⟨running, active⟩
  · rw [same]
  · rw [active]
    exact iff_of_false Phase.noConfusion running

/-- A period that is not over has begun when it did. -/
theorem start_of_none (course : Course e forced during s turn s') (idle : turn.commit? = none) :
    s'.buffer.start = s.buffer.start := by
  rw [course.buffer_of_none idle, Buffer.foldl_write]

/-- A segment begins when its period does. -/
theorem start_of_commit? (course : Course e forced during s turn s') {commit : Commit}
    (made : turn.commit? = some commit) : commit.segment.start = s.buffer.start := by
  cases course with
  | terminated | notReady | deferred | rejected => exact nomatch made
  | committed =>
    cases made
    rw [State.segment, Buffer.snapshot, State.buffer_copying, Buffer.foldl_write]

end Course

/-! ## The record of the stream in the course of a call -/

namespace Posted

variable {e : Setup} {before after : Ledger}

/-- Unless a segment is committed, the record of the stream stays. -/
theorem record_of_none (posted : Posted e before none after) : after.record = before.record := by
  cases posted with
  | unchanged => rfl
  | retried start =>
    rw [← start]
    exact State.record_retryParent _
  | @rejected s w c child cause start retried _ failed =>
    have looked : w.record = s.retryParent.record := congrArg Ledger.record retried
    rw [← start]
    exact (State.record_of_storeChild failed).trans (looked.trans s.record_retryParent)

/-- The record of the stream that takes notice of a segment is the one that there was, if
there was one. -/
theorem parent_of_some {commit : Commit} (posted : Posted e before (some commit) after) :
    after.record.map Record.id = some commit.parent ∧
      ∀ p, before.record = some p → p.id = commit.parent := by
  obtain ⟨old, new, held, applied, here, known⟩ := posted.learned
  refine ⟨by rw [here, known]; rfl, ?_⟩
  intro p first
  rcases held with held | ⟨unknown, -⟩
  · rw [known, Catalog.Updater.id_of_apply old commit.child e.updater applied,
      Option.some.inj (held.symm.trans first)]
  · exact absurd (unknown.symm.trans first) (Option.some_ne_none p).symm

end Posted

/-! ## What a call tells -/

/-- Does the call shut the stream down? -/
def Call.isShutdown : Call → Bool
  | .shutdown => true
  | _ => false

namespace State

/-- Has the stream been shut down in a history? -/
def isShut (history : List (Call × Reply)) : Bool := history.any fun x => x.1.isShutdown

theorem isShut_concat (history : List (Call × Reply)) (call : Call) (reply : Reply) :
    isShut (history ++ [(call, reply)]) = (isShut history || call.isShutdown) := by
  simp [isShut]

theorem isShut_zip {e : Setup} {calls : List Call} {replies : List Reply} {s s' : State}
    (ran : s.run e calls = .ok (replies, s')) :
    isShut (calls.zip replies) = calls.any Call.isShutdown := by
  calc isShut (calls.zip replies)
      = ((calls.zip replies).map Prod.fst).any Call.isShutdown := by
        rw [isShut, List.any_map]
        rfl
    _ = calls.any Call.isShutdown := by
        rw [List.map_fst_zip (Nat.le_of_eq (length_of_run ran).symm)]

end State

namespace State

variable {e : Setup} {s : State}

/-- The first initialization opens the first period. -/
theorem face_init (fresh : s.phase = .created) :
    (s.init e).2.face = (.active, e.hooks.invoke s.notices
      (e.opening s.parentId s.buffer.period s.buffer.start)) := by
  have running : s.phase ≠ .terminated := by
    rw [fresh]
    exact Phase.noConfusion
  have record : (s.enter .active).parentId = s.parentId := by
    obtain ⟨_, _, eq⟩ := s.enter_eq .active
    rw [eq]
    rfl
  have entered : (s.init e).2 = (s.enter .active).tellCreated e := by
    rw [init, if_neg (mt s.agrees.mp running), if_pos fresh]
  rw [entered, face_tellCreated, face_enter running Phase.noConfusion, record, buffer_enter]
  rfl

/-- Only the first initialization does anything. -/
theorem init_of_begun (begun : s.phase ≠ .created) : (s.init e).2 = s := by
  by_cases closed : s.isClosed
  · rw [init, if_pos closed]
  · rw [init, if_neg closed, if_neg begun]

/-- Shutting a stream down tells the last hook, and the stream does not go on. -/
theorem face_shutdown (running : s.phase ≠ .terminated) :
    (s.shutdown e).face = (.terminated, e.hooks.invoke s.notices
      (e.farewell s.parentId s.buffer.period s.buffer.start)) := by
  have face : s.close.retryParent.face = (.terminated, s.notices) := by
    rw [face_retryParent]
    rfl
  have record : s.close.retryParent.parentId = s.parentId := by
    rw [parentId, record_retryParent]
    rfl
  rw [shutdown, if_neg (mt s.agrees.mp running), face_tell, face, record, buffer_retryParent]
  rfl

/-- Only the first shutdown does anything. -/
theorem shutdown_of_terminated (ended : s.phase = .terminated) : s.shutdown e = s :=
  if_pos (s.agrees.mpr ended)

end State

/-! ## The story of a run -/

/-- The record that hooks are told of when a period begins: none in the first one. -/
def parentIn (parent : Option Id) (period : Nat) : Option Id :=
  if period = 0 then none else parent

namespace Setup

/-- What is told of the periods that are over: each begins, and a segment ends it. -/
def chronicle (e : Setup) (parent : Option Id) (commits : List Commit) : List Event :=
  commits.zipIdx.flatMap fun (commit, period) =>
    [e.opening (parentIn parent period) period commit.segment.start,
      e.closing parent period commit.segment.start commit.artifact]

/-- What is told in a run: of the periods that are over, of the beginning of the present one,
and of the shutdown. -/
def script (e : Setup) (parent : Option Id) (commits : List Commit) (start : Instant)
    (isShut : Bool) : List Event :=
  e.chronicle parent commits ++
    e.opening (parentIn parent commits.length) commits.length start ::
      if isShut then [e.farewell parent commits.length start] else []

theorem chronicle_concat (e : Setup) (parent : Option Id) (commits : List Commit)
    (commit : Commit) :
    e.chronicle parent (commits ++ [commit]) = e.chronicle parent commits ++
      [e.opening (parentIn parent commits.length) commits.length commit.segment.start,
        e.closing parent commits.length commit.segment.start commit.artifact] := by
  simp [chronicle, List.zipIdx_append]

/-- The shutdown is told last. -/
theorem script_shut (e : Setup) (parent : Option Id) (commits : List Commit) (start : Instant) :
    e.script parent commits start true =
      e.script parent commits start false ++ [e.farewell parent commits.length start] := by
  simp [script]

/-- A further segment is told behind all others. -/
theorem script_concat (e : Setup) (parent : Option Id) (commits : List Commit) (commit : Commit)
    (start : Instant) :
    e.script parent (commits ++ [commit]) start false =
      e.script parent commits commit.segment.start false ++
        [e.closing parent commits.length commit.segment.start commit.artifact,
          e.opening parent (commits.length + 1) start] := by
  simp [script, chronicle_concat, parentIn]

/-- Before the first segment the record of the stream does not matter. -/
theorem script_of_parent (e : Setup) {parent other : Option Id} {commits : List Commit}
    (same : parent = other ∨ commits = []) (start : Instant) :
    e.script parent commits start false = e.script other commits start false := by
  rcases same with rfl | rfl
  · rfl
  · rfl

end Setup

/-- What the notices tell of a run, given the segments committed so far and whether the stream
has been shut down. -/
structure Chronicle (e : Setup) (commits : List Commit) (isShut : Bool) (s : State) : Prop where
  notices : s.notices =
    e.hooks.invokeAll [] (e.script s.parentId commits s.buffer.start isShut)
  /-- The period is the number of segments. -/
  period : s.buffer.period = commits.length
  periods : commits.map (fun c => c.segment.period) = List.range commits.length
  /-- The record of the stream comes with the first segment ... -/
  unknown : s.record = none ↔ commits = []
  /-- ... and is the same for all. -/
  parents : ∀ c ∈ commits, s.parentId = some c.parent
  begun : s.phase ≠ .created
  shut : s.phase = .terminated ↔ isShut = true

namespace Chronicle

variable {e : Setup} {commits : List Commit} {isShut : Bool} {s s' : State}

theorem begun_of_course {forced : Bool} {during : Meanwhile} {turn : Turn}
    (told : Chronicle e commits isShut s) (course : Course e forced during s turn s') :
    s'.phase ≠ .created := by
  rcases course.phase with same | ⟨-, active⟩
  · rw [same]
    exact told.begun
  · rw [active]
    exact Phase.noConfusion

/-- A check that commits nothing adds nothing. -/
theorem idle {forced : Bool} {during : Meanwhile} {turn : Turn}
    (told : Chronicle e commits isShut s) (course : Course e forced during s turn s')
    (idle : turn.commit? = none) : Chronicle e commits isShut s' := by
  have posted := course.posted
  rw [idle] at posted
  have record : s'.record = s.record := posted.record_of_none
  have parent : s'.parentId = s.parentId := congrArg (Option.map Record.id) record
  have start := course.start_of_none idle
  have period := course.period
  rw [idle] at period
  refine {
    notices := ?_
    period := period.trans told.period
    periods := told.periods
    unknown := by rw [record, told.unknown]
    parents := fun c member => parent.trans (told.parents c member)
    begun := told.begun_of_course course
    shut := course.phase_eq_terminated_iff.trans told.shut }
  rw [course.notices, Turn.told, idle, parent, start]
  exact told.notices

/-- A stream that has been shut down commits nothing. -/
theorem open_of_commit? {forced : Bool} {during : Meanwhile} {turn : Turn} {c : Commit}
    (told : Chronicle e commits isShut s) (course : Course e forced during s turn s')
    (made : turn.commit? = some c) : isShut = false := by
  rcases course.face with ⟨idle, -⟩ | ⟨running, -⟩
  · rw [made] at idle
    exact nomatch idle
  · exact Bool.eq_false_iff.mpr fun shut => running (told.shut.mpr shut)

/-- The record that takes notice of a further segment is the one of all earlier segments. -/
theorem parent_of_commit? {forced : Bool} {during : Meanwhile} {turn : Turn} {c : Commit}
    (told : Chronicle e commits isShut s) (course : Course e forced during s turn s')
    (made : turn.commit? = some c) : s.parentId = some c.parent ∨ commits = [] := by
  have posted := course.posted
  rw [made] at posted
  obtain ⟨-, kept⟩ := posted.parent_of_some
  cases before : s.record with
  | none => exact Or.inr (told.unknown.mp before)
  | some p =>
    have id : s.parentId = some p.id := by rw [State.parentId, before]; rfl
    rw [id, kept p before]
    exact Or.inl rfl

/-- A check that commits a segment adds its end and the beginning of the next period. -/
theorem commit {forced : Bool} {during : Meanwhile} {turn : Turn} {c : Commit}
    (told : Chronicle e commits isShut s) (course : Course e forced during s turn s')
    (made : turn.commit? = some c) : Chronicle e (commits ++ [c]) isShut s' := by
  have posted := course.posted
  rw [made] at posted
  have parent : s'.parentId = some c.parent := posted.parent_of_some.1
  obtain ⟨-, -, number⟩ := course.of_commit? made
  have period : s'.buffer.period = s.buffer.period + 1 := by
    rw [course.period, made]
    rfl
  have same := told.parent_of_commit? course made
  refine {
    notices := ?_
    period := by rw [period, told.period, List.length_append, List.length_singleton]
    periods := ?_
    unknown := ?_
    parents := ?_
    begun := told.begun_of_course course
    shut := course.phase_eq_terminated_iff.trans told.shut }
  · rw [course.notices, told.notices, ← Hooks.invokeAll_append, told.open_of_commit? course made,
      e.script_of_parent same, Turn.told_of_commit? made, parent, e.script_concat,
      course.start_of_commit? made, number, period, told.period]
  · rw [List.map_append, told.periods, List.map_singleton, number, told.period, List.length_append,
      List.length_singleton, List.range_succ]
  · refine iff_of_false ?_ (by simp)
    intro unknown
    rw [State.parentId, unknown] at parent
    exact nomatch parent
  · refine forall_mem_concat ?_ parent
    intro d member
    rcases same with same | first
    · rw [parent, ← same]
      exact told.parents d member
    · rw [first] at member
      exact absurd member List.not_mem_nil

/-- What a check commits is added. -/
theorem check {forced : Bool} {during : Meanwhile} {turn : Turn}
    (told : Chronicle e commits isShut s) (course : Course e forced during s turn s') :
    Chronicle e (commits ++ turn.commit?.toList) isShut s' := by
  cases made : turn.commit? with
  | none =>
    rw [Option.toList_none, List.append_nil]
    exact told.idle course made
  | some c => exact told.commit course made

/-- The first shutdown is told, and no other one. -/
theorem shutdown (told : Chronicle e commits isShut s) : Chronicle e commits true (s.shutdown e) := by
  by_cases ended : s.phase = .terminated
  · rw [State.shutdown_of_terminated ended]
    rw [told.shut.mp ended] at told
    exact told
  · have running : isShut = false := Bool.eq_false_iff.mpr fun shut => ended (told.shut.mpr shut)
    have face := State.face_shutdown (e := e) ended
    have phase : (s.shutdown e).phase = .terminated := congrArg Prod.fst face
    have record : (s.shutdown e).record = s.record := Served.shutdown.posted.record_of_none
    have parent : (s.shutdown e).parentId = s.parentId := congrArg (Option.map Record.id) record
    refine {
      notices := ?_
      period := by rw [State.buffer_shutdown, told.period]
      periods := told.periods
      unknown := by rw [record, told.unknown]
      parents := fun c member => parent.trans (told.parents c member)
      begun := by rw [phase]; exact Phase.noConfusion
      shut := iff_of_true phase rfl }
    have notices : (s.shutdown e).notices = e.hooks.invokeAll s.notices
        [e.farewell s.parentId s.buffer.period s.buffer.start] := congrArg Prod.snd face
    rw [notices, told.notices, ← Hooks.invokeAll_append, running, parent, State.buffer_shutdown,
      e.script_shut, told.period]

/-- **Every call goes on with the story.** -/
theorem served {call : Call} {reply : Reply} (told : Chronicle e commits isShut s)
    (served : Served e s call reply s') :
    Chronicle e (commits ++ reply.commit?.toList) (isShut || call.isShutdown) s' := by
  -- most calls neither commit a segment nor shut the stream down
  have quiet {t : State} (told : Chronicle e commits isShut t) :
      Chronicle e (commits ++ []) (isShut || false) t := by
    rwa [List.append_nil, Bool.or_false]
  cases served with
  | init =>
    rw [State.init_of_begun told.begun]
    exact quiet told
  | ingest data =>
    unfold State.ingest
    split
    · exact quiet told
    · exact quiet { told with }
  | check course => simpa [Reply.commit?, Call.isShutdown] using told.check course
  | flush course => simpa [Reply.commit?, Call.isShutdown] using told.check course
  | shutdown => simpa [Reply.commit?, Call.isShutdown] using told.shutdown
  | clock now => exact quiet { told with }

/-- A stream that has just been initialized tells that its first period begins. -/
theorem start (e : Setup) (now : Instant) (writer : Segment.Writer) (store : Catalog.Store)
    (outages : Outages) : Chronicle e [] false ((State.start now writer store outages).init e).2 where
  notices := rfl
  period := rfl
  periods := rfl
  unknown := iff_of_true rfl rfl
  parents := fun _ member => absurd member List.not_mem_nil
  begun := Phase.noConfusion
  shut := iff_of_false Phase.noConfusion Bool.false_ne_true

/-- **Every run goes on with the story.** -/
theorem run {calls : List Call} {replies : List Reply} (told : Chronicle e [] false s)
    (ran : s.run e calls = .ok (replies, s')) :
    Chronicle e (replies.filterMap Reply.commit?) (calls.any Call.isShutdown) s' := by
  rw [← State.committed_zip ran, ← State.isShut_zip ran]
  refine State.run_induction
    (motive := fun history t => Chronicle e (State.committed history) (State.isShut history) t)
    ?_ told ran
  intro history t call reply t' before served
  rw [State.committed_concat, State.isShut_concat]
  exact before.served served

end Chronicle

/-- **The hooks are told the whole story of a stream**, in order and once.  In every run that
begins by initializing the stream, whatever fails and however the hooks end, they are told
that the first period begins, then of each committed segment that it is finished and that
the next period begins, and last of the shutdown if there was one.  Nothing else is told.
The record that they are told of is always the same. -/
theorem notices_of_run {e : Setup} {now : Instant} {writer : Segment.Writer}
    {store : Catalog.Store} {outages : Outages} {calls : List Call} {replies : List Reply}
    {s : State}
    (ran : (State.start now writer store outages).run e (.init :: calls) = .ok (replies, s)) :
    s.notices.map Notice.event =
        (e.script s.parentId (replies.filterMap Reply.commit?) s.buffer.start
          (calls.any Call.isShutdown)).filter (fun event => e.hooks.isInstalled event.occasion) ∧
      s.buffer.period = (replies.filterMap Reply.commit?).length ∧
      (replies.filterMap Reply.commit?).map (fun c => c.segment.period) =
        List.range (replies.filterMap Reply.commit?).length ∧
      (s.parentId = none ↔ replies.filterMap Reply.commit? = []) ∧
      ∀ c ∈ replies.filterMap Reply.commit?, s.parentId = some c.parent := by
  obtain ⟨reply, t, rest, initialized, later, rfl⟩ := State.cases_of_run_cons ran
  cases initialized
  have told : Chronicle e (rest.filterMap Reply.commit?) (calls.any Call.isShutdown) s :=
    (Chronicle.start e now writer store outages).run later
  refine ⟨?_, told.period, told.periods, Option.map_eq_none_iff.trans told.unknown, told.parents⟩
  rw [told.notices, Hooks.map_event_invokeAll]
  rfl

/-- The harbor with hooks, all of which fail or break off. -/
def signals : Setup :=
  { harbor with
    hooks := ⟨fun _ => true, fun n => if n % 2 = 0 then .broken else .failed (.plugin "lamp" "out")⟩ }

/-- The harbor is initialized once more, goes on to a second segment and is shut down twice. -/
def signalCalls : List Call :=
  [.ingest [1, 2],
    .check fun
      | .writing => [.arrival [3]]
      | _ => [],
    .ingest [4], .check .quiet, .init, .ingest [8, 9], .check .quiet, .shutdown, .check .quiet,
    .shutdown]

theorem notices_of_run_signals :
    ∃ replies s, harborStart.run signals (.init :: signalCalls) = .ok (replies, s) ∧
      (replies.filterMap Reply.commit?).length = 2 ∧
      s.notices.map Notice.endedWell = List.replicate 6 false ∧
      s.notices.map Notice.event =
        signals.script s.parentId (replies.filterMap Reply.commit?) s.buffer.start true ∧
      ∃ id, s.parentId = some id := by
  have checked : ((harborStart.run signals (.init :: signalCalls)).toOption.any fun x =>
      (x.1.filterMap Reply.commit?).length = 2 &&
        x.2.notices.map Notice.endedWell = List.replicate 6 false) = true := by decide +kernel
  obtain ⟨⟨replies, s⟩, ran, good⟩ := exists_of_any checked
  rw [Bool.and_eq_true, decide_eq_true_eq, decide_eq_true_eq] at good
  obtain ⟨two, ended⟩ := good
  obtain ⟨told, -, -, unknown, -⟩ := notices_of_run ran
  refine ⟨replies, s, ran, two, ended, ?_, Option.ne_none_iff_exists'.mp ?_⟩
  · rw [told]
    exact List.filter_eq_self.mpr fun _ _ => rfl
  · intro none
    rw [unknown.mp none] at two
    exact nomatch two

end Engine
end StreamCatalog
