import StreamCatalog.Proofs.Engine.Announcements

/-!
# The end of a stream

A stream that has been shut down does not go on.  Every call is still answered, but with
the refusal that befits it (`Call.refusal`), and nothing changes any more: not what is in
the buffer, in memory, in the store or in the directory, and not what the hooks have been
told.  Only the clock, which is not the engine's, may move on.

Some calls look for the end in the flag and some in the phase.  No state has one without the
other (`State.agrees`), so it does not matter from where a stream was shut down, and it is
enough to follow the phase.

The hook for the shutdown is told by the first shutdown and by nothing else, whether or
not the stream has been initialized, and however the hook ends.  That is read off what a
single call tells: `Call.told` lists its events, and `Served.notices` says that no other
event gets into the notices.  The main statement is `closed_of_run`.
-/

namespace StreamCatalog
namespace Engine

open Time (Instant)

/-! ## Refusals -/

/-- What a call is answered once the stream has been shut down. -/
def Call.refusal : Call → Reply
  | .init => .done (.error (.rollover "init" "stream has been shut down"))
  | .ingest _ => .accepted false
  | .check _ => .turned .terminated
  | .flush _ => .turned .terminated
  | .shutdown => .done (.ok ())
  | .clock _ => .done (.ok ())

namespace State

variable {e : Setup} {s : State}

theorem init_of_terminated (ended : s.phase = .terminated) :
    s.init e = (.error (.rollover "init" "stream has been shut down"), s) :=
  if_pos (s.agrees.mpr ended)

theorem ingest_of_terminated (ended : s.phase = .terminated) (data : List UInt8) :
    s.ingest data = (false, s) :=
  if_pos ended

theorem check_of_terminated (ended : s.phase = .terminated) (forced : Bool) (during : Meanwhile) :
    s.check e forced during = .ok (.terminated, s) := by
  unfold check
  exact if_pos (s.agrees.mpr ended)

/-- Once the stream has been shut down, a call is refused and changes nothing but the clock. -/
theorem step_of_terminated (ended : s.phase = .terminated) (call : Call) :
    ∃ now, s.step e call = .ok (call.refusal, { s with now }) := by
  cases call with
  | init =>
    refine ⟨s.now, ?_⟩
    rw [step, init_of_terminated ended]
    rfl
  | ingest data =>
    refine ⟨s.now, ?_⟩
    rw [step, ingest_of_terminated ended]
    rfl
  | check during =>
    refine ⟨s.now, ?_⟩
    rw [step, check_of_terminated ended]
    rfl
  | flush during =>
    refine ⟨s.now, ?_⟩
    rw [step, check_of_terminated ended]
    rfl
  | shutdown =>
    refine ⟨s.now, ?_⟩
    rw [step, shutdown_of_terminated ended]
    rfl
  | clock now => exact ⟨now, rfl⟩

/-- **Nothing happens any more.**  Once the stream has been shut down, all calls are refused and
change nothing but the clock. -/
theorem run_of_terminated (ended : s.phase = .terminated) (calls : List Call) :
    ∃ now, s.run e calls = .ok (calls.map Call.refusal, { s with now }) := by
  induction calls generalizing s with
  | nil => exact ⟨s.now, rfl⟩
  | cons call calls ih =>
    obtain ⟨now, stepped⟩ := step_of_terminated (e := e) ended call
    obtain ⟨later, ran⟩ := ih (s := { s with now }) ended
    refine ⟨later, ?_⟩
    rw [run, stepped]
    show (run _ _ _ >>= _) = _
    rw [ran]
    rfl

end State

/-! ## What a call tells -/

/-- What the hooks are told by a call that was answered so and led to this state. -/
def Call.told (e : Setup) (s : State) (call : Call) (reply : Reply) (s' : State) : List Event :=
  match call, reply with
  | .init, _ =>
    if s.phase = .created then [e.opening s.parentId s.buffer.period s.buffer.start] else []
  | .shutdown, _ =>
    if s.phase = .terminated then [] else [e.farewell s.parentId s.buffer.period s.buffer.start]
  | _, .turned turn => turn.told e s'.buffer
  | _, _ => []

namespace Served

variable {e : Setup} {s s' : State} {call : Call} {reply : Reply}

/-- **What a call tells is all that gets into the notices.** -/
theorem notices (served : Served e s call reply s') :
    s'.notices = e.hooks.invokeAll s.notices (call.told e s reply s') := by
  cases served with
  | init =>
    rw [Call.told]
    by_cases fresh : s.phase = .created
    · rw [if_pos fresh]
      exact congrArg Prod.snd (State.face_init fresh)
    · rw [State.init_of_begun fresh, if_neg fresh]
      rfl
  | ingest data =>
    unfold State.ingest
    split <;> rfl
  | check course => exact course.notices
  | flush course => exact course.notices
  | shutdown =>
    rw [Call.told]
    by_cases ended : s.phase = .terminated
    · rw [State.shutdown_of_terminated ended, if_pos ended]
      rfl
    · rw [if_neg ended]
      exact congrArg Prod.snd (State.face_shutdown ended)
  | clock now => rfl

/-- A stream has been shut down if it was before, or by the call. -/
theorem phase_eq_terminated_iff (served : Served e s call reply s') :
    s'.phase = .terminated ↔ s.phase = .terminated ∨ call.isShutdown = true := by
  cases served with
  | init =>
    by_cases fresh : s.phase = .created
    · have active : (s.init e).2.phase = .active := congrArg Prod.fst (State.face_init fresh)
      simp [active, fresh, Call.isShutdown]
    · simp [State.init_of_begun fresh, Call.isShutdown]
  | ingest data =>
    unfold State.ingest
    split <;> simp [Call.isShutdown]
  | check course => simp [course.phase_eq_terminated_iff, Call.isShutdown]
  | flush course => simp [course.phase_eq_terminated_iff, Call.isShutdown]
  | shutdown =>
    by_cases ended : s.phase = .terminated
    · simp [State.shutdown_of_terminated ended, ended]
    · have terminated : (s.shutdown e).phase = .terminated :=
        congrArg Prod.fst (State.face_shutdown ended)
      simp [terminated, Call.isShutdown]
  | clock now => simp [Call.isShutdown]

end Served

/-- A stream has been shut down if it was before, or by a call of the run. -/
theorem State.phase_eq_terminated_of_run {e : Setup} {calls : List Call} {replies : List Reply}
    {s s' : State} (ran : s.run e calls = .ok (replies, s')) :
    s'.phase = .terminated ↔ s.phase = .terminated ∨ calls.any Call.isShutdown = true := by
  rw [← State.isShut_zip ran]
  refine State.run_induction (motive := fun history t =>
    t.phase = .terminated ↔ s.phase = .terminated ∨ State.isShut history = true) ?_ ?_ ran
  · intro history t call reply t' before served
    rw [served.phase_eq_terminated_iff, before, State.isShut_concat, Bool.or_eq_true, or_assoc]
  · simp [State.isShut]

/-! ## The shutdown is told once -/

/-- Does the event tell of a shutdown? -/
def Event.isFarewell (event : Event) : Bool := event.occasion = .shutdown

/-- What the hook for the shutdown has been told. -/
def State.farewells (s : State) : List Event := (s.notices.map Notice.event).filter Event.isFarewell

/-- No check tells of a shutdown. -/
theorem Turn.filter_told (e : Setup) (turn : Turn) (buffer : Segment.Buffer) :
    (turn.told e buffer).filter Event.isFarewell = [] := by
  unfold told
  split <;> rfl

/-- Only shutting down a stream that goes on tells of a shutdown. -/
theorem Call.filter_told (e : Setup) (s : State) (call : Call) (reply : Reply) (s' : State) :
    (call.told e s reply s').filter Event.isFarewell =
      if call.isShutdown && s.phase ≠ .terminated then
        [e.farewell s.parentId s.buffer.period s.buffer.start]
      else [] := by
  cases call with
  | init =>
    by_cases fresh : s.phase = .created
    · simp [told, fresh, isShutdown, Event.isFarewell, Setup.opening]
    · simp [told, fresh, isShutdown]
  | ingest | check | flush | clock =>
    cases reply with
    | turned turn => exact Turn.filter_told e turn s'.buffer
    | done | accepted => rfl
  | shutdown =>
    by_cases ended : s.phase = .terminated
    · simp [told, ended]
    · simp [told, ended, isShutdown, Event.isFarewell, Setup.farewell]

/-- Shutting down a stream that goes on tells the hook for it, if there is one, and nothing else
does. -/
theorem Served.length_farewells {e : Setup} {s s' : State} {call : Call} {reply : Reply}
    (served : Served e s call reply s') : s'.farewells.length = s.farewells.length +
      if call.isShutdown && s.phase ≠ .terminated && e.hooks.isInstalled .shutdown then 1 else 0 := by
  have told : s'.farewells = s.farewells ++ ((call.told e s reply s').filter Event.isFarewell).filter
      fun event => e.hooks.isInstalled event.occasion := by
    rw [State.farewells, served.notices, Hooks.map_event_invokeAll, List.filter_append,
      List.filter_filter, List.filter_filter]
    simp only [State.farewells, Bool.and_comm]
  rw [told, Call.filter_told, List.length_append]
  cases shuts : call.isShutdown && decide (s.phase ≠ .terminated) with
  | false =>
    rw [if_neg Bool.false_ne_true, Bool.false_and, if_neg Bool.false_ne_true]
    rfl
  | true =>
    rw [if_pos rfl, Bool.true_and]
    by_cases installed : e.hooks.isInstalled .shutdown
    · simp [installed, Setup.farewell]
    · simp [installed, Setup.farewell]

/-! ## Runs -/

/-- How a stream stands with its end: it has been shut down if the history says so, and the
hook for that has been told once if there is one. -/
structure Closed (e : Setup) (isShut : Bool) (s : State) : Prop where
  shut : s.phase = .terminated ↔ isShut = true
  told : s.farewells.length = if isShut && e.hooks.isInstalled .shutdown then 1 else 0

namespace Closed

variable {e : Setup} {isShut : Bool} {s s' : State}

/-- **Every call leaves a stream open or closes it for good.** -/
theorem served {call : Call} {reply : Reply} (closed : Closed e isShut s)
    (served : Served e s call reply s') : Closed e (isShut || call.isShutdown) s' := by
  refine { shut := ?_, told := ?_ }
  · rw [served.phase_eq_terminated_iff, closed.shut, Bool.or_eq_true]
  · rw [served.length_farewells, closed.told]
    cases isShut with
    | true =>
      have ended : s.phase = .terminated := closed.shut.mpr rfl
      simp [ended]
    | false =>
      have running : s.phase ≠ .terminated := fun ended => Bool.false_ne_true (closed.shut.mp ended)
      simp [running]

/-- **Every run leaves a stream open or has closed it for good.** -/
theorem run {calls : List Call} {replies : List Reply} (closed : Closed e false s)
    (ran : s.run e calls = .ok (replies, s')) : Closed e (calls.any Call.isShutdown) s' := by
  rw [← State.isShut_zip ran]
  refine State.run_induction (motive := fun history t => Closed e (State.isShut history) t)
    ?_ closed ran
  intro history t call reply t' before served
  rw [State.isShut_concat]
  exact before.served served

end Closed

/-- **A stream that has been shut down stays so.**  Whatever it went through before, initialized
or not, once it has been shut down every further call is refused, and nothing of it changes.
The hook for the shutdown, if there is one, is told exactly once in a run that has a shutdown,
however the hook ends, and never in any other run. -/
theorem closed_of_run {e : Setup} {now : Instant} {writer : Segment.Writer}
    {store : Catalog.Store} {outages : Outages} {calls : List Call} {replies : List Reply}
    {s : State} (ran : (State.start now writer store outages).run e calls = .ok (replies, s)) :
    (calls.any Call.isShutdown = true → s.isClosed = true ∧ s.phase = .terminated ∧
      ∀ later, ∃ time, s.run e later = .ok (later.map Call.refusal, { s with now := time })) ∧
    s.farewells.length =
      if calls.any Call.isShutdown && e.hooks.isInstalled .shutdown then 1 else 0 := by
  have start : Closed e false (State.start now writer store outages) :=
    { shut := iff_of_false Phase.noConfusion Bool.false_ne_true
      told := rfl }
  have closed : Closed e (calls.any Call.isShutdown) s := start.run ran
  refine ⟨?_, closed.told⟩
  intro shut
  have ended : s.phase = .terminated := closed.shut.mpr shut
  exact ⟨s.agrees.mpr ended, ended, State.run_of_terminated ended⟩

/-- A stream is shut down before it was initialized, and its hook breaks off. -/
theorem closed_of_run_signals :
    ∃ replies s, harborStart.run signals [.ingest [1], .shutdown] = .ok (replies, s) ∧
      s.phase = .terminated ∧
      (∃ time, s.run signals [.init, .ingest [2], .check .quiet, .flush .quiet, .shutdown] =
        .ok ([.done (.error (.rollover "init" "stream has been shut down")), .accepted false,
          .turned .terminated, .turned .terminated, .done (.ok ())], { s with now := time })) ∧
      s.farewells.length = 1 ∧ s.notices.map Notice.endedWell = [false] := by
  have checked : ((harborStart.run signals [.ingest [1], .shutdown]).toOption.any fun x =>
      x.2.notices.map Notice.endedWell = [false]) = true := by decide +kernel
  obtain ⟨⟨replies, s⟩, ran, broken⟩ := exists_of_any checked
  obtain ⟨closed, told⟩ := closed_of_run ran
  obtain ⟨-, ended, refused⟩ := closed rfl
  exact ⟨replies, s, ran, ended, refused _, told, of_decide_eq_true broken⟩

end Engine
end StreamCatalog
