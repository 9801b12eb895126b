import StreamCatalog.Proofs.Catalog.Learning
import StreamCatalog.Proofs.Catalog.Stores
import StreamCatalog.Proofs.Engine.Course

/-!
# The ledger of the catalog

An engine keeps the record of the stream in memory and writes it, together with the records
of the segments, to the store.  The two never agree at all times: a record is stored
after it has changed, and storing it may fail.  What does hold at all times is `Books`, an
invariant of the components that have to do with the catalog, which make up the `Ledger`
of a state.

## Fresh identifiers

Identifiers come from a supply that is not to repeat itself and not to hand out what the
store has already.  There are only finitely many identifiers, so no supply is good for ever;
`Setup.Fresh` asks it of as many as a run has used.

## Mid-cycle

Between the moment when a segment's record is stored and the moment when the stream's
record takes notice of it, the store knows one segment more than the stream's record.
`Books` only looks at what the stream's record lists, and is kept by either step.
-/

namespace StreamCatalog
namespace Engine

open Catalog (Id Record Value)
open Segment (Artifact Snapshot)

/-- Are the first identifiers of the supply all different, and none of them in the store? -/
structure Setup.Fresh (e : Setup) (store : Catalog.Store) (bound : Nat) : Prop where
  apart : ∀ i < bound, ∀ j < bound, e.newId i = e.newId j → i = j
  free : ∀ i < bound, store.get (e.newId i) = .ok none

theorem fresh_harbor {bound : Nat} (few : bound ≤ 4) : harbor.Fresh (.files {}) bound where
  apart := fun i hi j hj => by
    have all : ∀ i < 4, ∀ j < 4, countingId i = countingId j → i = j := by decide
    exact all i (Nat.lt_of_lt_of_le hi few) j (Nat.lt_of_lt_of_le hj few)
  free := fun _ _ => rfl

/-- The components of a state that have to do with the catalog. -/
structure Ledger where
  store : Catalog.Store
  record : Option Record
  isStored : Bool
  isDirty : Bool
  idsUsed : Nat
  calls : List StoreCall

namespace State

/-- The ledger of a state. -/
def ledger (s : State) : Ledger :=
  ⟨s.store, s.record, s.isStored, s.isDirty, s.idsUsed, s.calls⟩

/-! ## What leaves the ledger alone -/

variable {e : Setup} {s s' : State} {segment : Snapshot}

@[simp] theorem ledger_pass (s : State) (happenings : List Happening) :
    (s.pass happenings).ledger = s.ledger := by
  obtain ⟨_, eq⟩ := s.pass_eq happenings
  rw [eq]
  rfl

@[simp] theorem ledger_enter (s : State) (p : Phase) : (s.enter p).ledger = s.ledger := by
  obtain ⟨_, _, eq⟩ := s.enter_eq p
  rw [eq]
  rfl

@[simp] theorem ledger_tell (s : State) (o : Occasion) (n : Nat) (t : Time.Instant)
    (a : Option Artifact) : (s.tell e o n t a).ledger = s.ledger := rfl

@[simp] theorem ledger_tellCreated (s : State) : (s.tellCreated e).ledger = s.ledger := rfl

@[simp] theorem ledger_release (s : State) (segment : Snapshot) :
    (s.release segment).2.ledger = s.ledger := by
  obtain ⟨_, eq⟩ := s.release_eq segment
  rw [eq]
  rfl

@[simp] theorem ledger_discard (s : State) (a : Artifact) : (s.discard a).ledger = s.ledger := by
  obtain ⟨_, _, eq⟩ := s.discard_eq a
  rw [eq]
  rfl

theorem ledger_of_write {result : Except Error Artifact}
    (h : s.write e segment = .ok (result, s')) : s'.ledger = s.ledger := by
  obtain ⟨_, _, rfl⟩ := write_eq h
  rfl

@[simp] theorem ledger_init (e : Setup) (s : State) : (s.init e).2.ledger = s.ledger := by
  unfold init
  split
  · rfl
  · split
    · rw [ledger_tellCreated, ledger_enter]
    · rfl

@[simp] theorem ledger_ingest (s : State) (data : List UInt8) :
    (s.ingest data).2.ledger = s.ledger := by
  unfold ingest
  split <;> rfl

/-- Up to the moment when a segment is written, a check does nothing to the ledger but
store a dirty record again. -/
@[simp] theorem ledger_looking (s : State) (during : Meanwhile) :
    (s.looking during).ledger = s.retryParent.ledger :=
  ledger_pass _ _

@[simp] theorem ledger_writing (s : State) (during : Meanwhile) :
    (s.writing during).ledger = s.retryParent.ledger := by
  rw [writing, copying, ledger_pass, ledger_pass, ledger_enter, ledger_looking]

@[simp] theorem ledger_reopened (s : State) (during : Meanwhile) (segment : Snapshot)
    (a : Artifact) : (s.reopened e during segment a).ledger = s.storeParent.2.ledger := by
  rw [reopened, ledger_tellCreated, ledger_pass, ledger_release, releasing, ledger_tell, ledger_pass]

end State

/-- The record of a segment gets the identifier that it is made with. -/
theorem id_of_childRecord {e : Setup} {id : Id} {segment : Snapshot} {a : Artifact}
    {now : Time.Instant} {child : Record} (h : e.childRecord id segment a now = .ok child) :
    child.id = id := by
  unfold Setup.childRecord at h
  obtain ⟨place, -, h⟩ := bind_eq_ok_iff.mp h
  cases place <;> (cases h; rfl)

/-- All attributes of a segment's record but the location are those that it is made with. -/
theorem values?_childRecord_of_ne {e : Setup} {id : Id} {segment : Snapshot} {a : Artifact}
    {now : Time.Instant} {child : Record} (h : e.childRecord id segment a now = .ok child)
    {name : String} (apart : name ≠ Catalog.Name.location) :
    child.values? name = (plainChild id segment a now).values? name := by
  unfold Setup.childRecord at h
  obtain ⟨place, -, h⟩ := bind_eq_ok_iff.mp h
  cases place with
  | none =>
    cases h
    rfl
  | some text =>
    cases h
    rw [Record.values?_set, if_neg apart]

/-- The record of a stream of which no segment is known has nothing but what it is made with. -/
theorem values?_newParent (e : Setup) (id : Id) (now : Time.Instant) {name : String}
    (apart : name ∉ [Catalog.Name.title, Catalog.Name.resourceUri, Catalog.Name.mediaType,
      Catalog.Name.created]) : (e.newParent id now).values? name = none := by
  simp only [List.mem_cons, List.not_mem_nil, or_false, not_or] at apart
  obtain ⟨title, uri, media, created⟩ := apart
  rw [Setup.newParent, Record.values?_set, if_neg created, Record.values?_set, if_neg media,
    Record.values?_set, if_neg uri, Record.values?_set, if_neg title]
  rfl

/-! ## The ledger in the course of a call -/

/-- What a call can do to the ledger.  A check first stores a dirty record again.  If it
writes a segment, it goes on to store the segment's record, and if that works, the
stream's record takes notice of it and is stored. -/
inductive Posted (e : Setup) (before : Ledger) : Option Commit → Ledger → Prop where
  /-- Nothing at all. -/
  | unchanged : Posted e before none before
  /-- Nothing but a dirty record stored again. -/
  | retried {s : State} (start : s.ledger = before) : Posted e before none s.retryParent.ledger
  /-- The record of a segment could not be stored. -/
  | rejected {s w c : State} {child : Record} {cause : Error} (start : s.ledger = before)
      (retried : w.ledger = s.retryParent.ledger) (fresh : child.id = e.newId w.idsUsed)
      (failed : w.cataloging.storeChild child = (.error cause, c)) : Posted e before none c.ledger
  /-- A segment was committed. -/
  | committed {s w c k l : State} {commit : Commit} {parent : Record} (start : s.ledger = before)
      (retried : w.ledger = s.retryParent.ledger) (fresh : commit.child.id = e.newId w.idsUsed)
      (stored : w.cataloging.storeChild commit.child = (.ok (), c)) (cataloged : k.ledger = c.ledger)
      (learned : k.learn e commit.child = .ok (parent, l)) (known : commit.parent = parent.id) :
      Posted e before (some commit) l.storeParent.2.ledger

theorem Course.posted {e : Setup} {forced : Bool} {during : Meanwhile} {s s' : State} {turn : Turn}
    (course : Course e forced during s turn s') : Posted e s.ledger turn.commit? s'.ledger := by
  cases course with
  | terminated => exact .unchanged
  | notReady =>
    rw [State.ledger_looking]
    exact .retried rfl
  | deferred _ _ failed =>
    rw [State.ledger_enter, State.ledger_of_write failed, State.ledger_writing]
    exact .retried rfl
  | rejected _ _ written described failed =>
    rw [State.ledger_enter, State.ledger_discard, State.ledger_pass]
    refine .rejected rfl ?_ (id_of_childRecord described) failed
    rw [State.ledger_of_write written, State.ledger_writing]
  | committed _ _ written described stored learned =>
    rw [State.ledger_enter, State.ledger_reopened]
    refine .committed rfl ?_ (id_of_childRecord described) stored (State.ledger_pass _ _) learned rfl
    rw [State.ledger_of_write written, State.ledger_writing]

/-- **What a call does to the ledger.**  Shutting a stream down, too, stores a dirty record
again. -/
theorem Served.posted {e : Setup} {s s' : State} {call : Call} {reply : Reply}
    (served : Served e s call reply s') : Posted e s.ledger reply.commit? s'.ledger := by
  cases served with
  | init =>
    rw [State.ledger_init]
    exact .unchanged
  | ingest data =>
    rw [State.ledger_ingest]
    exact .unchanged
  | check course => exact course.posted
  | flush course => exact course.posted
  | shutdown =>
    unfold State.shutdown
    split
    · exact .unchanged
    · rw [State.ledger_tell]
      exact .retried rfl
  | clock => exact .unchanged

/-! ## Calls to the store -/

/-- What a call to the store does, and whether it succeeds.  If it fails, no answer of the
store changes.  If it succeeds, the identifier was taken if and only if it was to be, and
the record is found from now on. -/
inductive Called (store : Catalog.Store) (request : Request) (r : Record) :
    Bool → Catalog.Store → Prop where
  | failed {after : Catalog.Store} (same : ∀ id, after.get id = store.get id) :
      Called store request r false after
  | done {after : Catalog.Store} (taken : store.contains r.id = decide (request = .update))
      (found : ∀ id, after.get id = if id = r.id then .ok (some r) else store.get id) :
      Called store request r true after

/-- A call to the store is about one record, and changes no other. -/
theorem Called.get_of_ne {store after : Catalog.Store} {request : Request} {r : Record}
    {succeeded : Bool} (called : Called store request r succeeded after) {id : Id}
    (apart : id ≠ r.id) : after.get id = store.get id := by
  cases called with
  | failed same => exact same id
  | done _ found => rw [found, if_neg apart]

/-- A ledger behind a call to the store. -/
def Ledger.after (l : Ledger) (request : Request) (id : Id) (succeeded : Bool)
    (store : Catalog.Store) : Ledger :=
  { l with store, calls := l.calls ++ [⟨request, id, l.store.contains id, succeeded⟩] }

namespace State

theorem called_of_request (s : State) (kind : Request) (r : Record) (outage : Option Error) :
    Called s.store kind r (s.request kind r outage).1.isOk (s.request kind r outage).2.store := by
  cases outage with
  | some cause => exact .failed fun _ => rfl
  | none =>
    cases kind with
    | create =>
      rcases made : s.store.create r with ⟨result, store⟩
      simp only [request, made]
      obtain ⟨cause, rfl, same⟩ | ⟨rfl, free, found⟩ := Catalog.Store.cases_of_create made
      · exact .failed same
      · exact .done free found
    | update =>
      rcases made : s.store.update r with ⟨result, store⟩
      simp only [request, made]
      obtain ⟨cause, rfl, same⟩ | ⟨rfl, taken, found⟩ := Catalog.Store.cases_of_update made
      · exact .failed same
      · exact .done taken found

/-- Storing the record of a segment is one call to the store. -/
theorem ledger_storeChild (s : State) (child : Record) :
    ∃ store, Called s.store .create child (s.storeChild child).1.isOk store ∧
      (s.storeChild child).2.ledger =
        s.ledger.after .create child.id (s.storeChild child).1.isOk store :=
  ⟨_, called_of_request { s with outages := { s.outages with child := s.outages.child.tail } }
    .create child (nextOutage s.outages.child), rfl⟩

/-- Storing the stream's record is one call to the store, and the flags tell how it went. -/
theorem ledger_storeParent {s : State} {p : Record} (known : s.record = some p) :
    ∃ store succeeded, Called s.store s.parentRequest p succeeded store ∧
      s.storeParent.2.ledger =
        { s.ledger.after s.parentRequest p.id succeeded store with
          isStored := s.isStored || succeeded, isDirty := !succeeded } := by
  have called : Called s.store s.parentRequest p (s.offerParent p).1.isOk (s.offerParent p).2.store :=
    called_of_request { s with outages := { s.outages with parent := s.outages.parent.tail } }
      s.parentRequest p (nextOutage s.outages.parent)
  have frame : (s.offerParent p).2.ledger =
      s.ledger.after s.parentRequest p.id (s.offerParent p).1.isOk (s.offerParent p).2.store := rfl
  refine ⟨_, _, called, ?_⟩
  rw [← frame]
  unfold storeParent
  rw [known]
  dsimp only
  have kept : (s.offerParent p).2.isStored = s.isStored := rfl
  rcases offered : s.offerParent p with ⟨result, t⟩
  rw [offered] at kept
  rw [← kept]
  cases result with
  | error cause => simp [ledger, Except.isOk, Except.toBool]
  | ok _ => simp [ledger, Except.isOk, Except.toBool]

@[simp] theorem record_storeParent (s : State) : s.storeParent.2.record = s.record := by
  obtain ⟨_, _, _, _, _, eq⟩ := s.storeParent_eq
  rw [eq]

/-- Storing a dirty record again does not change it. -/
@[simp] theorem record_retryParent (s : State) : s.retryParent.record = s.record := by
  obtain ⟨_, _, _, _, _, eq⟩ := s.retryParent_eq
  rw [eq]

@[simp] theorem idsUsed_storeParent (s : State) : s.storeParent.2.idsUsed = s.idsUsed := by
  obtain ⟨_, _, _, _, _, eq⟩ := s.storeParent_eq
  rw [eq]

/-- The stream's record takes notice of a segment's, and is made first if there is none. -/
theorem cases_of_learn {e : Setup} {s s' : State} {child parent : Record}
    (h : s.learn e child = .ok (parent, s')) :
    (∃ old, s.record = some old ∧ Catalog.Updater.apply old child e.updater = .ok parent ∧
        s'.ledger = { s.ledger with record := some parent, isDirty := true }) ∨
      (s.record = none ∧
        Catalog.Updater.apply (e.newParent (e.newId s.idsUsed) s.now) child e.updater = .ok parent ∧
        s'.ledger = { s.ledger with
          record := some parent, isDirty := true, idsUsed := s.idsUsed + 1 }) := by
  unfold learn at h
  obtain ⟨record, learned, h⟩ := bind_eq_ok_iff.mp h
  cases h
  cases known : s.record with
  | some old =>
    rw [known] at learned
    exact Or.inl ⟨old, rfl, learned, rfl⟩
  | none =>
    rw [known] at learned
    exact Or.inr ⟨rfl, learned, rfl⟩

theorem record_of_learn {e : Setup} {s s' : State} {child parent : Record}
    (h : s.learn e child = .ok (parent, s')) : s'.record = some parent := by
  obtain ⟨_, -, -, posted⟩ | ⟨-, -, posted⟩ := cases_of_learn h
  · exact congrArg Ledger.record posted
  · exact congrArg Ledger.record posted

theorem idsUsed_of_learn {e : Setup} {s s' : State} {child parent : Record}
    (h : s.learn e child = .ok (parent, s')) : s.idsUsed ≤ s'.idsUsed := by
  obtain ⟨_, -, -, posted⟩ | ⟨-, -, posted⟩ := cases_of_learn h
  · exact Nat.le_of_eq (congrArg Ledger.idsUsed posted).symm
  · exact Nat.le_of_lt (Nat.lt_of_succ_le (Nat.le_of_eq (congrArg Ledger.idsUsed posted).symm))

theorem record_of_storeChild {s s' : State} {child : Record} {result : Except Error Unit}
    (h : s.cataloging.storeChild child = (result, s')) : s'.record = s.record := by
  obtain ⟨_, _, _, rfl⟩ := storeChild_eq h
  rfl

/-- Offering the record of a segment uses an identifier, whether it is stored or not. -/
theorem idsUsed_of_storeChild {s s' : State} {child : Record} {result : Except Error Unit}
    (h : s.cataloging.storeChild child = (result, s')) : s'.idsUsed = s.idsUsed + 1 := by
  obtain ⟨_, _, _, rfl⟩ := storeChild_eq h
  rfl

end State

namespace Posted

variable {e : Setup} {before after : Ledger} {commit? : Option Commit}

/-- What every step of a call keeps, the call keeps. -/
theorem keeps {motive : Ledger → Prop}
    (storing : ∀ s : State, motive s.ledger → motive s.storeParent.2.ledger)
    (offering : ∀ {w c : State} {child : Record} {result : Except Error Unit},
      w.cataloging.storeChild child = (result, c) → motive w.ledger → motive c.ledger)
    (learning : ∀ {k l : State} {child parent : Record},
      k.learn e child = .ok (parent, l) → motive k.ledger → motive l.ledger)
    (posted : Posted e before commit? after) (start : motive before) : motive after := by
  have retrying (s : State) (h : motive s.ledger) : motive s.retryParent.ledger := by
    unfold State.retryParent
    split
    · exact storing s h
    · exact h
  cases posted with
  | unchanged => exact start
  | retried here =>
    rw [← here] at start
    exact retrying _ start
  | rejected here retried _ failed =>
    rw [← here] at start
    have looked := retrying _ start
    rw [← retried] at looked
    exact offering failed looked
  | committed here retried _ stored cataloged learned _ =>
    rw [← here] at start
    have looked := retrying _ start
    rw [← retried] at looked
    have entered := offering stored looked
    rw [← cataloged] at entered
    exact storing _ (learning learned entered)

/-- The record of the stream takes notice of a committed segment.  It is the one that there was,
or a new one if there was none. -/
theorem learned {commit : Commit} (posted : Posted e before (some commit) after) :
    ∃ old new, (before.record = some old ∨
        before.record = none ∧ ∃ id now, old = e.newParent id now) ∧
      Catalog.Updater.apply old commit.child e.updater = .ok new ∧ after.record = some new ∧
      commit.parent = new.id := by
  cases posted with
  | @committed s w c k l _ parent start retried _ stored cataloged learned known =>
    have looked : w.record = s.retryParent.record := congrArg Ledger.record retried
    have kept : k.record = before.record := by
      rw [← start]
      exact (congrArg Ledger.record cataloged).trans
        ((State.record_of_storeChild stored).trans (looked.trans s.record_retryParent))
    have here : l.storeParent.2.record = some parent :=
      (State.record_storeParent l).trans (State.record_of_learn learned)
    obtain ⟨old, held, applied, -⟩ | ⟨unknown, applied, -⟩ := State.cases_of_learn learned
    · exact ⟨old, parent, Or.inl (kept.symm.trans held), applied, here, known⟩
    · exact ⟨_, parent, Or.inr ⟨kept.symm.trans unknown, _, _, rfl⟩, applied, here, known⟩

/-- Identifiers are never given back. -/
theorem idsUsed_le (posted : Posted e before commit? after) : before.idsUsed ≤ after.idsUsed := by
  refine posted.keeps (motive := fun l => before.idsUsed ≤ l.idsUsed) ?_ ?_ ?_ (Nat.le_refl _)
  · intro s low
    show before.idsUsed ≤ s.storeParent.2.idsUsed
    rw [s.idsUsed_storeParent]
    exact low
  · intro w c child result stored low
    show before.idsUsed ≤ c.idsUsed
    rw [State.idsUsed_of_storeChild stored]
    exact Nat.le_succ_of_le low
  · intro k l child parent learned low
    exact Nat.le_trans low (State.idsUsed_of_learn learned)

end Posted

end Engine
end StreamCatalog
