import StreamCatalog.Proofs.Engine.Closing
import StreamCatalog.Proofs.Engine.Insistence

/-!
# How a stream begins

A stream that has only been built waits to be initialized.  Two calls are meant to take
it out of its first phase: `init`, which tells the hook that the first period begins, and
`shutdown`.  But a check does not ask for the phase.  If data has been taken in and a
segment is due, it tries to make one, and leaves the stream active whatever comes of it.
A later `init` then finds that the stream has begun, and tells nobody.

So there are three ways to leave the first phase, and which one a stream took (`departure?`)
can be read off its calls and replies.  It decides about one period only.  The beginning of
the first period is told if the stream was initialized in time, and not otherwise; all later
periods are told of by the check that opens them, before the hook for their end can be told.
The main statement is `openings_of_run`.

## The invariant

Let the present period be `n`.  The periods whose beginning was told, each once, are those
from one to `n`, and the first one if the stream was initialized in time.  The periods whose
end was told are below `n`.  Behind the end of a period, only later ones begin.  A check
that commits a segment tells that `n` is over and that `n + 1` begins, and this keeps all
of it.
-/

namespace StreamCatalog
namespace Engine

open Segment (Buffer)
open Time (Instant)

/-! ## Leaving the first phase -/

/-- How a stream can leave the phase in which nothing has happened yet. -/
inductive Departure where
  /-- It has been initialized. -/
  | initialized
  /-- It has been shut down. -/
  | shutDown
  /-- A check has tried to make a segment. -/
  | attempted
  deriving DecidableEq, Repr

/-- How a stream leaves its first phase by a call that is answered so, if it does. -/
def Call.departure? : Call → Reply → Option Departure
  | .init, _ => some .initialized
  | .shutdown, _ => some .shutDown
  | _, .turned turn => if turn.isAttempt then some .attempted else none
  | _, _ => none

/-- How a stream has left its first phase in a history, if it has. -/
def departure? (history : List (Call × Reply)) : Option Departure :=
  history.findSome? fun x => x.1.departure? x.2

theorem departure?_concat (history : List (Call × Reply)) (call : Call) (reply : Reply) :
    departure? (history ++ [(call, reply)]) =
      (departure? history).or (call.departure? reply) := by
  rw [departure?, List.findSome?_append, List.findSome?_singleton]
  rfl

/-- A stream that goes on goes on in the phase that it was told to enter. -/
theorem State.phase_enter_active {t : State} (goesOn : (t.enter .active).phase ≠ .terminated) :
    (t.enter .active).phase = .active := by
  by_cases ended : t.phase = .terminated
  · have stays : t.enter .active = t := dif_neg fun running => running.1 ended
    rw [stays] at goesOn
    exact absurd ended goesOn
  · exact congrArg Prod.fst (State.face_enter ended Phase.noConfusion)

/-- A check leaves the stream active if it has tried to make a segment, and leaves the phase as
it is otherwise. -/
theorem Course.phase_eq {e : Setup} {forced : Bool} {during : Meanwhile} {s s' : State}
    {turn : Turn} (course : Course e forced during s turn s') :
    s'.phase = if turn.isAttempt then .active else s.phase := by
  have goesOn : s.phase ≠ .terminated → s'.phase ≠ .terminated :=
    mt course.phase_eq_terminated_iff.mp
  cases course with
  | terminated => rfl
  | notReady =>
    have face : (s.looking during).face = s.face := by
      rw [State.looking, State.face_pass, State.face_retryParent]
    exact congrArg Prod.fst face
  | deferred running | rejected running | committed running =>
    exact State.phase_enter_active (goesOn running)

/-- A call takes a stream out of its first phase as `Call.departure?` says, and no call brings it
back. -/
theorem Served.phase_eq_created_iff {e : Setup} {s s' : State} {call : Call} {reply : Reply}
    (served : Served e s call reply s') :
    s'.phase = .created ↔ s.phase = .created ∧ call.departure? reply = none := by
  have left {t : State} (ended : t.phase = .terminated) :
      t.phase = .created ↔ s.phase = .created ∧ some Departure.shutDown = none := by
    rw [ended]
    exact iff_of_false Phase.noConfusion fun both => nomatch both.2
  have checked {forced : Bool} {during : Meanwhile} {turn : Turn} {t : State}
      (course : Course e forced during s turn t) : t.phase = .created ↔ s.phase = .created ∧
        (if turn.isAttempt then some Departure.attempted else none) = none := by
    rw [course.phase_eq]
    cases turn.isAttempt <;> simp
  cases served with
  | init =>
    by_cases fresh : s.phase = .created
    · have active : (s.init e).2.phase = .active := congrArg Prod.fst (State.face_init fresh)
      simp [active, Call.departure?]
    · simp [State.init_of_begun fresh, fresh]
  | ingest data =>
    unfold State.ingest
    split <;> simp [Call.departure?]
  | check course => exact checked course
  | flush course => exact checked course
  | shutdown =>
    by_cases ended : s.phase = .terminated
    · rw [State.shutdown_of_terminated ended]
      exact left ended
    · exact left (congrArg Prod.fst (State.face_shutdown ended))
  | clock now => simp [Call.departure?]

/-! ## What was told of a period -/

/-- Does the event tell that this period begins? -/
def Event.opens (n : Nat) (event : Event) : Bool :=
  event.occasion = .created && event.period = n

/-- What the hooks have been told. -/
def State.events (s : State) : List Event := s.notices.map Notice.event

/-- What a call tells reaches the hooks that there are. -/
theorem Served.events {e : Setup} {s s' : State} {call : Call} {reply : Reply}
    (served : Served e s call reply s') : s'.events = s.events ++
      (call.told e s reply s').filter fun event => e.hooks.isInstalled event.occasion := by
  rw [State.events, served.notices, Hooks.map_event_invokeAll]
  rfl

/-- How often a period is told to begin, if the present one is this one. -/
def openings (left : Option Departure) (present n : Nat) : Nat :=
  if n ≤ present ∧ (n = 0 → left = some .initialized) then 1 else 0

/-- A period that has just been opened is told to begin once, and nothing changes for the others. -/
theorem openings_succ (left : Option Departure) (present n : Nat) :
    openings left (present + 1) n = openings left present n + if present + 1 = n then 1 else 0 := by
  by_cases next : present + 1 = n
  · have above : ¬(n ≤ present ∧ (n = 0 → left = some .initialized)) := by omega
    have within : n ≤ present + 1 ∧ (n = 0 → left = some .initialized) := by omega
    rw [openings, openings, if_pos within, if_neg above, if_pos next]
  · have same : n ≤ present + 1 ↔ n ≤ present := by omega
    simp only [openings, same, if_neg next, Nat.add_zero]

/-- What matters is whether the stream was initialized in time. -/
theorem openings_congr {left left' : Option Departure}
    (same : left' = some .initialized ↔ left = some .initialized) (present n : Nat) :
    openings left' present n = openings left present n := by
  simp only [openings, same]

/-- How the periods stand whose beginnings and ends were told, given how the stream has left its
first phase. -/
structure Opened (e : Setup) (left : Option Departure) (s : State) : Prop where
  fresh : s.phase = .created ↔ left = none
  /-- Nothing is committed in the first phase. -/
  first : left = none → s.buffer.period = 0
  begun : ∀ n, s.events.countP (Event.opens n) =
    if e.hooks.isInstalled .created then openings left s.buffer.period n else 0
  /-- A period whose end was told is over. -/
  past : ∀ event ∈ s.events, event.occasion = .ended → event.period < s.buffer.period
  /-- Behind the end of a period only later ones begin. -/
  order : s.events.Pairwise fun earlier later =>
    earlier.occasion = .ended → later.occasion = .created → earlier.period < later.period

namespace Opened

variable {e : Setup} {left left' : Option Departure} {s s' : State} {told : List Event}

/-- What is told next has to fit the present period. -/
theorem append (opened : Opened e left s)
    (events : s'.events = s.events ++ told.filter fun event => e.hooks.isInstalled event.occasion)
    (fresh : s'.phase = .created ↔ left' = none)
    (first : left' = none → s'.buffer.period = 0)
    (grows : s.buffer.period ≤ s'.buffer.period)
    (begun : ∀ n, openings left s.buffer.period n + told.countP (Event.opens n) =
      openings left' s'.buffer.period n)
    (past : ∀ event ∈ told, event.occasion = .ended → event.period < s'.buffer.period)
    (later : ∀ event ∈ told, event.occasion = .created → s.buffer.period ≤ event.period)
    (order : told.Pairwise fun earlier later =>
      earlier.occasion = .ended → later.occasion = .created → earlier.period < later.period) :
    Opened e left' s' := by
  refine { fresh, first, begun := ?_, past := ?_, order := ?_ }
  · intro n
    rw [events, List.countP_append, opened.begun n, List.countP_filter, ← begun n]
    by_cases installed : e.hooks.isInstalled .created = true
    · rw [if_pos installed, if_pos installed]
      congr 1
      refine List.countP_congr fun event _ => ?_
      simp only [Event.opens, Bool.and_eq_true, decide_eq_true_eq]
      exact ⟨fun both => both.1, fun opens => ⟨opens, opens.1 ▸ installed⟩⟩
    · rw [if_neg installed, if_neg installed, Nat.zero_add, List.countP_eq_zero]
      intro event _ both
      simp only [Event.opens, Bool.and_eq_true, decide_eq_true_eq] at both
      exact installed (both.1.1 ▸ both.2)
  · intro event member ended
    rw [events] at member
    rcases List.mem_append.mp member with before | here
    · exact Nat.lt_of_lt_of_le (opened.past event before ended) grows
    · exact past event (List.mem_filter.mp here).1 ended
  · rw [events]
    refine List.pairwise_append.mpr ⟨opened.order, order.filter _, ?_⟩
    intro earlier before event here ended begins
    exact Nat.lt_of_lt_of_le (opened.past earlier before ended)
      (later event (List.mem_filter.mp here).1 begins)

/-- A call that tells of no period leaves them as they stand. -/
theorem quiet (opened : Opened e left s)
    (events : s'.events = s.events ++ told.filter fun event => e.hooks.isInstalled event.occasion)
    (aside : ∀ event ∈ told, event.occasion = .shutdown)
    (fresh : s'.phase = .created ↔ left' = none) (period : s'.buffer.period = s.buffer.period)
    (same : left' = some .initialized ↔ left = some .initialized)
    (still : left' = none → left = none) : Opened e left' s' := by
  have notBegun : ∀ event ∈ told, event.occasion ≠ .created := by
    intro event member begins
    exact Occasion.noConfusion (begins.symm.trans (aside event member))
  have notEnded : ∀ event ∈ told, event.occasion ≠ .ended := by
    intro event member ended
    exact Occasion.noConfusion (ended.symm.trans (aside event member))
  refine opened.append events fresh ?_ (Nat.le_of_eq period.symm) ?_ ?_ ?_ ?_
  · intro none
    rw [period, opened.first (still none)]
  · intro n
    have silent : told.countP (Event.opens n) = 0 := by
      refine List.countP_eq_zero.mpr fun event member opens => notBegun event member ?_
      rw [Event.opens, Bool.and_eq_true, decide_eq_true_eq] at opens
      exact opens.1
    rw [silent, Nat.add_zero, period, openings_congr same]
  · exact fun event member ended => absurd ended (notEnded event member)
  · exact fun event member begins => absurd begins (notBegun event member)
  · refine List.Pairwise.imp_of_mem (R := fun _ _ => True) ?_ (List.pairwise_of_forall fun _ _ => trivial)
    exact fun {event _} member _ _ ended => absurd ended (notEnded event member)

/-- The first initialization tells that the first period begins. -/
theorem init (opened : Opened e none s) : Opened e (some .initialized) (s.init e).2 := by
  have served : Served e s .init (.done (s.init e).1) (s.init e).2 := .init
  have fresh : s.phase = .created := opened.fresh.mpr rfl
  have before : s.buffer.period = 0 := opened.first rfl
  have period : (s.init e).2.buffer.period = 0 := by
    rw [State.buffer_init, before]
  have told : Call.told e s .init (.done (s.init e).1) (s.init e).2 =
    [e.opening s.parentId s.buffer.period s.buffer.start] := if_pos fresh
  have events := served.events
  rw [told] at events
  refine opened.append events ?_ (fun none => absurd none (Option.some_ne_none _)) ?_ ?_ ?_ ?_
    (List.pairwise_singleton _ _)
  · rw [served.phase_eq_created_iff]
    exact iff_of_false (fun both => Option.some_ne_none _ both.2) (Option.some_ne_none _)
  · exact Nat.le_of_eq (before.trans period.symm)
  · intro n
    rw [period, before]
    cases n <;> simp [openings, Event.opens, Setup.opening]
  · intro event member ended
    rw [List.mem_singleton.mp member] at ended
    exact Occasion.noConfusion ended
  · intro event member _
    rw [List.mem_singleton.mp member]
    exact Nat.le_refl _

/-- A committed segment ends its period and begins the next one. -/
theorem commit {forced : Bool} {during : Meanwhile} {turn : Turn} {c : Commit}
    (opened : Opened e left s) (course : Course e forced during s turn s')
    (events : s'.events = s.events ++
      (turn.told e s'.buffer).filter fun event => e.hooks.isInstalled event.occasion)
    (fresh : s'.phase = .created ↔ left.or (some .attempted) = none)
    (made : turn.commit? = some c) : Opened e (left.or (some .attempted)) s' := by
  obtain ⟨-, -, number⟩ := course.of_commit? made
  have period : s'.buffer.period = s.buffer.period + 1 := by
    rw [course.period, made]
    rfl
  have same : left.or (some .attempted) = some .initialized ↔ left = some .initialized := by
    cases left <;> simp
  rw [Turn.told_of_commit? made, number, period] at events
  refine opened.append events fresh ?_ (by omega) ?_ ?_ ?_ ?_
  · intro none
    cases left <;> exact absurd none (Option.some_ne_none _)
  · intro n
    rw [period, openings_succ, openings_congr same]
    simp [Event.opens, Setup.opening, Setup.closing]
  · intro event member ended
    rcases List.mem_cons.mp member with rfl | here
    · rw [period]
      exact Nat.lt_succ_self _
    · rw [List.mem_singleton.mp here] at ended
      exact Occasion.noConfusion ended
  · intro event member begins
    rcases List.mem_cons.mp member with rfl | here
    · exact Occasion.noConfusion begins
    · rw [List.mem_singleton.mp here]
      exact Nat.le_succ _
  · exact List.pairwise_pair.mpr fun _ _ => Nat.lt_succ_self _

/-- A check tells of the segment that it commits, and of nothing else. -/
theorem check {forced : Bool} {during : Meanwhile} {turn : Turn} (opened : Opened e left s)
    (course : Course e forced during s turn s')
    (events : s'.events = s.events ++
      (turn.told e s'.buffer).filter fun event => e.hooks.isInstalled event.occasion)
    (fresh : s'.phase = .created ↔
      left.or (if turn.isAttempt then some .attempted else none) = none) :
    Opened e (left.or (if turn.isAttempt then some .attempted else none)) s' := by
  cases made : turn.commit? with
  | some c =>
    have tried : turn.isAttempt = true := by
      cases turn with
      | committed => rfl
      | notReady | terminated | deferred | rejected => exact nomatch made
    rw [tried, if_pos rfl] at fresh ⊢
    exact opened.commit course events fresh made
  | none =>
    have period := course.period
    rw [made] at period
    rw [Turn.told, made] at events
    refine opened.quiet events (List.forall_mem_nil _) fresh period ?_ ?_
    · cases left <;> cases turn.isAttempt <;> simp
    · exact fun none => (Option.or_eq_none_iff.mp none).1

/-- **Every call leaves the beginnings and the ends of periods in order.** -/
theorem served {call : Call} {reply : Reply} (opened : Opened e left s)
    (served : Served e s call reply s') : Opened e (left.or (call.departure? reply)) s' := by
  have fresh : s'.phase = .created ↔ left.or (call.departure? reply) = none := by
    rw [served.phase_eq_created_iff, opened.fresh, Option.or_eq_none_iff]
  have events := served.events
  have period := served.period
  cases served with
  | init =>
    cases left with
    | none => exact opened.init
    | some departure =>
      have begun : s.phase ≠ .created := fun fresh =>
        Option.some_ne_none _ (opened.fresh.mp fresh)
      rw [State.init_of_begun begun]
      exact opened
  | ingest data =>
    refine opened.quiet events (List.forall_mem_nil _) fresh period ?_ ?_
    · simp [Call.departure?]
    · simp [Call.departure?]
  | check course => exact opened.check course events fresh
  | flush course => exact opened.check course events fresh
  | shutdown =>
    refine opened.quiet events ?_ fresh period ?_ ?_
    · intro event member
      rw [Call.told] at member
      split at member
      · exact absurd member List.not_mem_nil
      · rw [List.mem_singleton.mp member]
        rfl
    · cases left <;> simp [Call.departure?]
    · simp [Call.departure?]
  | clock now =>
    refine opened.quiet events (List.forall_mem_nil _) fresh period ?_ ?_
    · simp [Call.departure?]
    · simp [Call.departure?]

/-- **Every run leaves the beginnings and the ends of periods in order.** -/
theorem run {calls : List Call} {replies : List Reply} (opened : Opened e none s)
    (ran : s.run e calls = .ok (replies, s')) :
    Opened e (departure? (calls.zip replies)) s' := by
  refine State.run_induction (motive := fun history t => Opened e (departure? history) t)
    ?_ opened ran
  intro history t call reply t' before served
  rw [departure?_concat]
  exact before.served served

/-- How often a period that is over was told to begin, before its end was told and behind it. -/
theorem countP_around (opened : Opened e left s) {before after : List Event} {event : Event}
    (split : s.events = before ++ event :: after) (ended : event.occasion = .ended) :
    before.countP (Event.opens event.period) =
        (if e.hooks.isInstalled .created ∧ (event.period = 0 → left = some .initialized) then 1
          else 0) ∧
      after.countP (Event.opens event.period) = 0 := by
  have here : event ∈ s.events := by
    rw [split]
    exact List.mem_append_right _ List.mem_cons_self
  have past : event.period ≤ s.buffer.period := Nat.le_of_lt (opened.past event here ended)
  have itself : ¬Event.opens event.period event = true := by
    simp [Event.opens, ended]
  have order := opened.order
  rw [split] at order
  have behind : after.countP (Event.opens event.period) = 0 := by
    refine List.countP_eq_zero.mpr ?_
    intro later member opens
    rw [Event.opens, Bool.and_eq_true, decide_eq_true_eq, decide_eq_true_eq] at opens
    have above := List.rel_of_pairwise_cons (List.pairwise_append.mp order).2.1 member ended opens.1
    exact Nat.lt_irrefl _ (opens.2 ▸ above)
  refine ⟨?_, behind⟩
  have begun := opened.begun event.period
  rw [split, List.countP_append, List.countP_cons_of_neg itself, behind, Nat.add_zero] at begun
  rw [begun]
  by_cases installed : e.hooks.isInstalled .created = true
  · simp only [installed, openings, past, true_and, if_true]
  · rw [if_neg installed, if_neg fun both => installed both.1]

end Opened

/-! ## Runs -/

/-- **How a stream begins, and what the hooks learn of it.**  In every run, whatever is called in
whatever order and whatever fails, the stream leaves its first phase by the first of its calls
that initializes it, shuts it down or tries to make a segment.  Whenever the hook for a finished
segment is told, the hook for a new period has been told of that same period exactly once and
before, and will not be told of it again, unless the period is the first one and the stream has
left its first phase in another way than by being initialized: then it was not told at all. -/
theorem openings_of_run {e : Setup} {now : Instant} {writer : Segment.Writer}
    {store : Catalog.Store} {outages : Outages} {calls : List Call} {replies : List Reply}
    {s : State} (ran : (State.start now writer store outages).run e calls = .ok (replies, s)) :
    (s.phase = .created ↔ departure? (calls.zip replies) = none) ∧
    ∀ before event after, s.notices.map Notice.event = before ++ event :: after →
      event.occasion = .ended →
      before.countP (Event.opens event.period) =
          (if e.hooks.isInstalled .created ∧
              (event.period = 0 → departure? (calls.zip replies) = some .initialized) then 1
            else 0) ∧
        after.countP (Event.opens event.period) = 0 := by
  have start : Opened e none (State.start now writer store outages) :=
    { fresh := iff_of_true rfl rfl
      first := fun _ => rfl
      begun := fun n => by simp [openings, State.start, State.events, Buffer.empty]
      past := List.forall_mem_nil _
      order := .nil }
  have opened := start.run ran
  exact ⟨opened.fresh, fun _ _ _ split ended => opened.countP_around split ended⟩

/-! ## A stream that begins too early -/

/-- The harbor takes in data and is checked without having been initialized.  The first attempt
at a segment fails, the second one does not. -/
def earlyCalls : List Call := [.ingest [1, 2], .flush .quiet, .flush .quiet]

/-- The stream is active, and its first period is told to end without ever having begun. -/
theorem early_runs : ∃ replies s ended opened,
    harborStart.run signals earlyCalls = .ok (replies, s) ∧ s.phase = .active ∧
    s.notices.map Notice.event = [ended, opened] ∧ ended.occasion = .ended ∧
    departure? (earlyCalls.zip replies) = some .attempted := by
  have checked : ((harborStart.run signals earlyCalls).toOption.any fun x =>
      x.2.phase = .active &&
      x.2.notices.map (fun n => n.event.occasion) = [.ended, .created] &&
      departure? (earlyCalls.zip x.1) = some .attempted) = true := by decide +kernel
  obtain ⟨⟨replies, s⟩, ran, good⟩ := exists_of_any checked
  simp only [Bool.and_eq_true, decide_eq_true_eq] at good
  obtain ⟨⟨active, told⟩, attempted⟩ := good
  obtain ⟨ended, later, first, occasion, told⟩ := List.map_eq_cons_iff.mp told
  obtain ⟨opened, rest, second, -, told⟩ := List.map_eq_cons_iff.mp told
  refine ⟨replies, s, ended.event, opened.event, ran, active, ?_, occasion, attempted⟩
  rw [first, second, List.map_eq_nil_iff.mp told]
  rfl

theorem openings_of_run_early : ∃ replies s ended opened,
    harborStart.run signals earlyCalls = .ok (replies, s) ∧
    departure? (earlyCalls.zip replies) = some .attempted ∧ s.phase ≠ .created ∧
    s.notices.map Notice.event = [ended, opened] ∧ ended.occasion = .ended ∧
    [opened].countP (Event.opens ended.period) = 0 := by
  obtain ⟨replies, s, ended, opened, ran, -, told, occasion, attempted⟩ := early_runs
  obtain ⟨fresh, around⟩ := openings_of_run ran
  have left : s.phase ≠ .created := by
    rw [Ne, fresh, attempted]
    exact Option.some_ne_none _
  exact ⟨replies, s, ended, opened, ran, attempted, left, told, occasion,
    (around [] ended [opened] told occasion).2⟩

/-- **Not every stream is initialized or shut down when it leaves its first phase, and not every
period that ends was told to begin**, even if there are hooks for everything. -/
theorem not_forall_opened :
    (¬ ∀ (e : Setup) (now : Instant) (writer : Segment.Writer) (store : Catalog.Store)
        (outages : Outages) (calls : List Call) (replies : List Reply) (s : State),
      (State.start now writer store outages).run e calls = .ok (replies, s) →
      s.phase ≠ .created → ∃ call ∈ calls, call = .init ∨ call = .shutdown) ∧
    ¬ ∀ (e : Setup) (now : Instant) (writer : Segment.Writer) (store : Catalog.Store)
        (outages : Outages) (calls : List Call) (replies : List Reply) (s : State),
      (State.start now writer store outages).run e calls = .ok (replies, s) →
      (∀ occasion, e.hooks.isInstalled occasion = true) →
      ∀ before event after, s.notices.map Notice.event = before ++ event :: after →
        event.occasion = .ended → before.countP (Event.opens event.period) = 1 := by
  obtain ⟨replies, s, ended, opened, ran, active, told, occasion, -⟩ := early_runs
  refine ⟨fun all => ?_, fun all => ?_⟩
  · have left : s.phase ≠ .created := by
      rw [active]
      exact Phase.noConfusion
    obtain ⟨call, member, meant⟩ := all signals .epoch _ _ _ earlyCalls replies s ran left
    simp only [earlyCalls, List.mem_cons, List.not_mem_nil, or_false] at member
    rcases member with rfl | rfl | rfl <;> rcases meant with meant | meant <;> exact nomatch meant
  · exact nomatch all signals .epoch _ _ _ earlyCalls replies s ran (fun _ => rfl) [] ended
      [opened] told occasion

end Engine
end StreamCatalog
