import StreamCatalog.Engine.Run

/-!
# Hooks only watch

Whether a hook ends well, fails or breaks off changes nothing but the note that is kept
of it.  Two engines whose hooks end differently, and which are otherwise alike, give the
same replies and remember the same, call after call.

## Forgetting how hooks ended

Two runs are compared through a third one, in which every hook ends well.  `State.calm`
forgets of a state how its hooks ended, and `Setup.calm` makes all hooks end well.  Every
stage of a call commutes with the forgetting: what a calm engine makes of a calm state is
what any engine makes of any state, calmed.  So does every call, and with the calls every
run; and two runs that become one and the same when calmed differ in nothing else.

No stage looks at the notices, and so most stages commute by unfolding.  The one that
writes them, `State.tell`, asks how the hook ended only for the note, and asks whether
there is a hook, which calming leaves alone.
-/

namespace StreamCatalog
namespace Engine

open Catalog (Id Record)
open Segment (Artifact Snapshot)
open Time (Instant)

/-! ## Calm -/

/-- The notice of a hook that has ended well. -/
def Notice.calm (n : Notice) : Notice := { n with endedWell := true }

/-- The same engine, with hooks that all end well. -/
def Setup.calm (e : Setup) : Setup := { e with hooks := { e.hooks with ending := fun _ => .well } }

/-- The same engine, with hooks that end as told. -/
def Setup.ending (e : Setup) (endings : Nat → Ending) : Setup :=
  { e with hooks := { e.hooks with ending := endings } }

/-- The state without the memory of how hooks ended. -/
def State.calm (s : State) : State := { s with notices := s.notices.map Notice.calm }

/-- What a computation comes to, without the memory of how hooks ended. -/
def calmed {α : Type} (x : Except Breakdown (α × State)) : Except Breakdown (α × State) :=
  x.map fun p => (p.1, p.2.calm)

theorem calmed_ok {α : Type} (a : α) (s : State) :
    calmed (.ok (a, s)) = .ok (a, s.calm) := rfl

/-- A computation commutes with calming if both of its parts do. -/
theorem calmed_bind {α β : Type} {x : Except Breakdown (α × State)}
    {f g : α × State → Except Breakdown (β × State)}
    (h : ∀ a s, g (a, s.calm) = calmed (f (a, s))) : calmed x >>= g = calmed (x >>= f) := by
  cases x with
  | error cause => rfl
  | ok p => exact h p.1 p.2

/-- A computation that leaves the state out commutes with calming if what follows does. -/
theorem bind_calmed {α β : Type} {x : Except Breakdown α}
    {f g : α → Except Breakdown (β × State)} (h : ∀ a, g a = calmed (f a)) :
    x >>= g = calmed (x >>= f) := by
  cases x with
  | error cause => rfl
  | ok a => exact h a

/-- The same hooks are told the same, however they end. -/
theorem Hooks.invoke_calm (h : Hooks) (notices : List Notice) (event : Event) :
    Hooks.invoke { h with ending := fun _ => .well } (notices.map Notice.calm) event =
      (h.invoke notices event).map Notice.calm := by
  unfold invoke
  split
  · rw [List.map_append]
    rfl
  · rfl

namespace State

/-! ## Stages -/

theorem calm_suffer (s : State) (happening : Happening) :
    s.calm.suffer happening = (s.suffer happening).calm := by
  cases happening <;> rfl

theorem calm_pass (s : State) (happenings : List Happening) :
    s.calm.pass happenings = (s.pass happenings).calm := by
  induction happenings generalizing s with
  | nil => rfl
  | cons happening later ih =>
    have next := ih (s.suffer happening)
    rw [← calm_suffer] at next
    exact next

theorem calm_enter (s : State) (p : Phase) : s.calm.enter p = (s.enter p).calm := by
  by_cases goesOn : s.phase ≠ .terminated ∧ p ≠ .terminated
  · have goesOn' : s.calm.phase ≠ .terminated ∧ p ≠ .terminated := goesOn
    rw [enter, enter, dif_pos goesOn, dif_pos goesOn']
    rfl
  · have stays : ¬(s.calm.phase ≠ .terminated ∧ p ≠ .terminated) := goesOn
    rw [enter, enter, dif_neg goesOn, dif_neg stays]

/-- The one stage that invokes hooks. -/
theorem calm_tell (e : Setup) (s : State) (occasion : Occasion) (period : Nat) (start : Instant)
    (segment : Option Artifact) :
    s.calm.tell e.calm occasion period start segment =
      (s.tell e occasion period start segment).calm := by
  have told := e.hooks.invoke_calm s.notices
    ⟨occasion, e.stream, s.parent.map fun p => p.record.id, period, start, segment⟩
  unfold tell
  rw [calm, calm, State.mk.injEq]
  exact ⟨rfl, rfl, rfl, rfl, rfl, rfl, rfl, rfl, rfl, rfl, rfl, rfl, told⟩

theorem calm_write (e : Setup) (s : State) (segment : Snapshot) :
    s.calm.write e.calm segment = calmed (s.write e segment) := by
  unfold write
  rw [show s.calm.outages = s.outages from rfl]
  cases nextOutage s.outages.writing with
  | some cause => rfl
  | none => exact bind_calmed fun _ => rfl

theorem calm_discard (s : State) (a : Artifact) : s.calm.discard a = (s.discard a).calm := by
  unfold discard
  rw [show s.calm.outages = s.outages from rfl]
  cases nextOutage s.outages.discarding <;> rfl

theorem calm_storeChild (s : State) (child : Record) :
    s.calm.storeChild child = ((s.storeChild child).1, (s.storeChild child).2.calm) := rfl

theorem calm_storeParent (s : State) :
    s.calm.storeParent = (s.storeParent.1, s.storeParent.2.calm) := by
  unfold storeParent
  rw [show s.calm.record = s.record from rfl]
  cases s.record with
  | none => rfl
  | some r =>
    have offered : s.calm.offerParent r = ((s.offerParent r).1, (s.offerParent r).2.calm) := rfl
    dsimp only
    rw [offered]
    rcases s.offerParent r with ⟨_ | _, t⟩ <;> rfl

theorem calm_retryParent (s : State) : s.calm.retryParent = s.retryParent.calm := by
  unfold retryParent
  rw [show s.calm.isDirty = s.isDirty from rfl, calm_storeParent]
  split <;> rfl

theorem calm_learn (e : Setup) (s : State) (child : Record) :
    s.calm.learn e.calm child = calmed (s.learn e child) := by
  unfold learn
  rw [show s.calm.record = s.record from rfl]
  cases s.record with
  | none => exact bind_calmed fun _ => rfl
  | some r => exact bind_calmed fun _ => rfl

theorem calm_release (s : State) (segment : Snapshot) :
    s.calm.release segment = ((s.release segment).1, (s.release segment).2.calm) := by
  unfold release
  rw [show s.calm.buffer = s.buffer from rfl, show s.calm.now = s.now from rfl]
  cases s.buffer.release? segment s.now <;> rfl

theorem calm_tellCreated (e : Setup) (s : State) :
    s.calm.tellCreated e.calm = (s.tellCreated e).calm :=
  calm_tell e s _ _ _ _

/-! ## Checks -/

theorem calm_commit (e : Setup) (during : Meanwhile) (s : State) (segment : Snapshot)
    (a : Artifact) (child : Record) :
    s.calm.commit e.calm during segment a child = calmed (s.commit e during segment a child) := by
  unfold commit
  rw [calm_learn]
  refine calmed_bind fun parent l => ?_
  dsimp only
  rw [calm_storeParent]
  dsimp only
  rw [calm_pass, calm_tell, calm_release]
  dsimp only
  rw [calm_pass, calm_tellCreated]
  rfl

theorem calm_catalog (e : Setup) (during : Meanwhile) (s : State) (segment : Snapshot)
    (a : Artifact) :
    s.calm.catalog e.calm during segment a = calmed (s.catalog e during segment a) := by
  unfold catalog
  refine bind_calmed fun child => ?_
  have stored := calm_storeChild { s with idsUsed := s.idsUsed + 1 } child
  rw [show ({ s.calm with idsUsed := s.calm.idsUsed + 1 } : State).storeChild child = _ from stored]
  rcases ({ s with idsUsed := s.idsUsed + 1 } : State).storeChild child with ⟨_ | _, c⟩
  · dsimp only
    rw [calm_pass, calm_discard]
    rfl
  · dsimp only
    rw [calm_pass, calm_commit]

theorem calm_rollOver (e : Setup) (during : Meanwhile) (s : State) :
    s.calm.rollOver e.calm during = calmed (s.rollOver e during) := by
  unfold rollOver
  dsimp only
  rw [calm_pass, calm_write]
  refine calmed_bind fun written w => ?_
  cases written with
  | error cause => rfl
  | ok a => exact calm_catalog e during w _ a

theorem calm_check (e : Setup) (forced : Bool) (during : Meanwhile) (s : State) :
    s.calm.check e.calm forced during = calmed (s.check e forced during) := by
  unfold check
  rw [show s.calm.isClosed = s.isClosed from rfl]
  split
  · rfl
  · rw [calm_retryParent, calm_pass]
    dsimp only
    have sameReady : (s.retryParent.pass (during .retrying)).calm.isReady e.calm forced =
      (s.retryParent.pass (during .retrying)).isReady e forced := rfl
    rw [sameReady]
    split
    · rw [calm_enter, calm_pass, calm_rollOver]
      refine calmed_bind fun turn t => ?_
      dsimp only
      rw [calm_enter]
      rfl
    · rfl

/-! ## Calls and runs -/

theorem calm_init (e : Setup) (s : State) :
    s.calm.init e.calm = ((s.init e).1, (s.init e).2.calm) := by
  unfold init
  rw [show s.calm.isClosed = s.isClosed from rfl, show s.calm.phase = s.phase from rfl,
    calm_enter, calm_tellCreated]
  split
  · rfl
  · split <;> rfl

theorem calm_ingest (s : State) (data : List UInt8) :
    s.calm.ingest data = ((s.ingest data).1, (s.ingest data).2.calm) := by
  by_cases ended : s.phase = .terminated
  · have ended' : s.calm.phase = .terminated := ended
    rw [ingest, ingest, if_pos ended, if_pos ended']
  · have running : ¬s.calm.phase = .terminated := ended
    rw [ingest, ingest, if_neg ended, if_neg running]
    rfl

theorem calm_close (s : State) : s.calm.close = s.close.calm := rfl

theorem calm_shutdown (e : Setup) (s : State) :
    s.calm.shutdown e.calm = (s.shutdown e).calm := by
  unfold shutdown
  rw [show s.calm.isClosed = s.isClosed from rfl, calm_close, calm_retryParent]
  split
  · rfl
  · exact calm_tell e s.close.retryParent _ _ _ _

/-- Calming commutes with what is made of an outcome. -/
theorem map_calmed {α β : Type} (f : α → β) (x : Except Breakdown (α × State)) :
    (calmed x).map (fun p => (f p.1, p.2)) = calmed (x.map fun p => (f p.1, p.2)) := by
  cases x <;> rfl

/-- Every call commutes with calming. -/
theorem calm_step (e : Setup) (s : State) (call : Call) :
    s.calm.step e.calm call = calmed (s.step e call) := by
  cases call with
  | init =>
    simp only [step, calm_init]
    rfl
  | ingest data =>
    simp only [step, calm_ingest]
    rfl
  | check during =>
    simp only [step, calm_check]
    exact map_calmed Reply.turned (s.check e false during)
  | flush during =>
    simp only [step, calm_check]
    exact map_calmed Reply.turned (s.check e true during)
  | shutdown =>
    simp only [step, calm_shutdown]
    rfl
  | clock now => rfl

/-- Every run commutes with calming. -/
theorem calm_run (e : Setup) (s : State) (calls : List Call) :
    s.calm.run e.calm calls = calmed (s.run e calls) := by
  induction calls generalizing s with
  | nil => rfl
  | cons call calls ih =>
    simp only [run]
    rw [calm_step]
    refine calmed_bind fun reply t => ?_
    dsimp only
    rw [ih]
    exact calmed_bind fun _ _ => rfl

/-! ## Two runs -/

/-- The two states differ at most in how the hooks ended: everything else that an engine
remembers and works on is the same, and so are the hooks that were invoked, one after
the other, and what they were told. -/
structure AgreesWith (s t : State) : Prop where
  /-- Nothing but the notices differs. -/
  elsewhere : t = { s with notices := t.notices }
  /-- The same hooks were told the same. -/
  told : t.notices.map Notice.event = s.notices.map Notice.event

/-- Calming keeps what hooks were told. -/
theorem map_event_calm (notices : List Notice) :
    (notices.map Notice.calm).map Notice.event = notices.map Notice.event := by
  rw [List.map_map]
  rfl

/-- States that become the same when calmed differ at most in how hooks ended. -/
theorem agreesWith_of_calm_eq {s t : State} (h : s.calm = t.calm) : s.AgreesWith t where
  elsewhere := by
    cases s
    cases t
    simp only [calm, State.mk.injEq] at h
    obtain ⟨rfl, rfl, rfl, rfl, rfl, rfl, rfl, rfl, rfl, rfl, rfl, rfl, -⟩ := h
    rfl
  told := by
    have same : t.notices.map Notice.calm = s.notices.map Notice.calm :=
      congrArg State.notices h.symm
    rw [← map_event_calm, same, map_event_calm]

/-- Two runs that become the same when calmed end alike. -/
theorem cases_of_calmed_eq {α : Type} {x y : Except Breakdown (α × State)}
    (h : calmed x = calmed y) :
    (∃ cause, x = .error cause ∧ y = .error cause) ∨
      ∃ a s t, x = .ok (a, s) ∧ y = .ok (a, t) ∧ s.AgreesWith t := by
  rcases x with cause | ⟨a, s⟩
  · rcases y with cause' | ⟨b, t⟩
    · cases h
      exact Or.inl ⟨cause, rfl, rfl⟩
    · exact nomatch h
  · rcases y with cause' | ⟨b, t⟩
    · exact nomatch h
    · rw [calmed_ok, calmed_ok, Except.ok.injEq, Prod.mk.injEq] at h
      obtain ⟨rfl, same⟩ := h
      exact Or.inr ⟨a, s, t, rfl, rfl, agreesWith_of_calm_eq same⟩

/-- **How hooks end has no influence.**  Let two engines be alike but for the way in which
each invocation of a hook ends.  After any calls whatever, and so after every single call
of a run, they have given the same replies and remember the same, invocations of hooks
included: which, when, and with what.  What breaks one of them off breaks the other one
off at the same call. -/
theorem run_agrees_of_endings (e : Setup) (endings otherEndings : Nat → Ending) (now : Instant)
    (writer : Segment.Writer) (store : Catalog.Store) (outages : Outages) (calls : List Call) :
    (∃ cause, (start now writer store outages).run (e.ending endings) calls = .error cause ∧
        (start now writer store outages).run (e.ending otherEndings) calls = .error cause) ∨
      ∃ replies s t, (start now writer store outages).run (e.ending endings) calls
            = .ok (replies, s) ∧
        (start now writer store outages).run (e.ending otherEndings) calls = .ok (replies, t) ∧
        s.AgreesWith t := by
  apply cases_of_calmed_eq
  -- Calming takes away all in which the two engines differ: `(e.ending _).calm` is `e.calm`.
  calc calmed ((start now writer store outages).run (e.ending endings) calls)
      = (start now writer store outages).calm.run e.calm calls :=
        (calm_run (e.ending endings) _ calls).symm
    _ = calmed ((start now writer store outages).run (e.ending otherEndings) calls) :=
        calm_run (e.ending otherEndings) _ calls

end State

end Engine
end StreamCatalog
