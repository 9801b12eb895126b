import StreamCatalog.Proofs.Engine.Books

/-!
# The stream's record in the store

The record of a stream is kept in memory and stored again whenever it has changed.  Two
flags remember how it stands: whether the store has ever accepted it, which decides
between creating and updating it, and whether it is dirty.  `Custody` says that both tell
the truth between the calls of a run, and that no call to the store was ever out of place.

The flags are set from the outcome of the last attempt to store the record.  So, whenever
the last attempt worked, memory and store agree: this is the second half of
`custody_of_run`.
-/

namespace StreamCatalog
namespace Engine

open Catalog (Record Value)

/-- The records that a record lists. -/
def listedIn (r : Record) : List Value := (r.values? Catalog.Name.derived).getD []

/-- What the flags of the stream's record are worth. -/
structure Custody (s : State) : Prop where
  /-- The record counts as stored exactly if the store has its identifier. -/
  stored : s.isStored = true ↔ ∃ p, s.record = some p ∧ s.store.contains p.id = true
  /-- A record that is not dirty is in the store as it is in memory. -/
  clean : ∀ p, s.record = some p → s.isDirty = false → s.store.get p.id = .ok (some p)
  /-- Only a record that exists is dirty, and what the store has of it lists the first of the
  segments that it lists itself. -/
  dirty : s.isDirty = true → ∃ p, s.record = some p ∧
    ∀ q, s.store.get p.id = .ok (some q) → listedIn q <+: listedIn p
  /-- No identifier that was there was created, and none that was not was updated. -/
  orderly : ∀ call ∈ s.calls,
    (call.request = .create → call.wasTaken = false) ∧
      (call.request = .update → call.wasTaken = true)

theorem Books.custody {e : Setup} {bound : Nat} {children : List Record} {s : State}
    (books : Books e bound children s.ledger) : Custody s := by
  refine {
    stored := ⟨?_, ?_⟩
    clean := fun p known clean => (books.stream p known).clean clean
    dirty := ?_
    orderly := ?_ }
  · intro stored
    cases known : s.record with
    | none => exact absurd ((books.noStream known).2.1.symm.trans stored) (by decide)
    | some p => exact ⟨p, rfl, (books.stream p known).contains.trans stored⟩
  · rintro ⟨p, known, taken⟩
    exact (books.stream p known).contains.symm.trans taken
  · intro dirty
    cases known : s.record with
    | none => exact absurd ((books.noStream known).2.2.symm.trans dirty) (by decide)
    | some p =>
      refine ⟨p, rfl, ?_⟩
      intro q copied
      have stream := books.stream p known
      obtain ⟨ids, has, before⟩ := stream.prefix_of_copy copied
      rw [listedIn, listedIn, has, stream.lists]
      exact before
  · intro call member
    have asked := books.orderly call member
    constructor
    · intro create
      rw [asked, create]
      rfl
    · intro update
      rw [asked, update]
      rfl

/-! ## After the last attempt -/

/-- The calls to the store that a state has and an earlier one had not. -/
def State.callsSince (s earlier : State) : List StoreCall := s.calls.drop earlier.calls.length

/-- What a call asks of the store is noted behind what was asked before. -/
theorem Posted.calls {e : Setup} {before after : Ledger} {commit? : Option Commit}
    (posted : Posted e before commit? after) : before.calls <+: after.calls := by
  refine posted.keeps (motive := fun l => before.calls <+: l.calls) ?_ ?_ ?_ (List.prefix_refl _)
  · intro s noted
    cases known : s.record with
    | none =>
      have same : s.storeParent.2.calls = s.calls := by
        unfold State.storeParent
        rw [known]
      show before.calls <+: s.storeParent.2.calls
      rw [same]
      exact noted
    | some p =>
      obtain ⟨store, ok, -, asked⟩ := State.ledger_storeParent known
      rw [asked]
      exact noted.trans (List.prefix_append _ _)
  · intro w c child result stored noted
    obtain ⟨store, -, asked⟩ := w.cataloging.ledger_storeChild child
    rw [stored] at asked
    rw [asked]
    exact noted.trans (List.prefix_append _ _)
  · intro k l child parent learned noted
    obtain ⟨_, _, _, rfl⟩ := State.learn_eq learned
    exact noted

/-- If a record was asked for in the later calls, the last of these is the last of all. -/
theorem lastOutcome?_append {earlier later : List StoreCall} {id : Catalog.Id} {outcome : Bool}
    (last : lastOutcome? later id = some outcome) :
    lastOutcome? (earlier ++ later) id = some outcome := by
  rw [lastOutcome?, List.filter_append]
  rw [lastOutcome?] at last
  obtain ⟨call, found, rfl⟩ := Option.map_eq_some_iff.mp last
  rw [List.getLast?_append, found]
  rfl

/-- **Memory and store agree on the stream's record**, as far as the flags say so, in every run
with the standard updaters, whatever fails.  And whenever the last attempt of a call to
store the stream's record works, the record is clean behind the call, and the store has it
as it is in memory. -/
theorem custody_of_run {e : Setup} {now : Time.Instant} {writer : Segment.Writer}
    {store : Catalog.Store} {outages : Outages} {calls : List Call} {replies : List Reply}
    {s : State} (standard : e.learning = none)
    (ran : (State.start now writer store outages).run e calls = .ok (replies, s))
    (fresh : e.Fresh store s.idsUsed) :
    Custody s ∧
      ∀ call reply s', s.step e call = .ok (reply, s') → e.Fresh store s'.idsUsed →
        ∀ p, s'.record = some p → lastOutcome? (s'.callsSince s) p.id = some true →
          s'.isDirty = false ∧ s'.isStored = true ∧ s'.store.get p.id = .ok (some p) := by
  refine ⟨(books_of_run standard ran fresh).1.custody, ?_⟩
  intro call reply s' made fresh' p known worked
  obtain ⟨books, settled⟩ := books_of_run standard (State.run_concat ran made) fresh'
  have grown : s'.calls = s.calls ++ s'.callsSince s := by
    obtain ⟨new, all⟩ : s.calls <+: s'.calls := (State.served_of_step made).posted.calls
    rw [State.callsSince, ← all, List.drop_left]
  have last : lastOutcome? s'.calls p.id = some (!s'.isDirty) := settled p known
  have clean : s'.isDirty = false := by
    rw [grown, lastOutcome?_append worked, Option.some.injEq] at last
    simpa using last.symm
  have found : s'.store.get p.id = .ok (some p) := (books.stream p known).clean clean
  refine ⟨clean, ?_, found⟩
  rw [books.custody.stored]
  exact ⟨p, known, Catalog.Store.contains_of_get found⟩

/-- The stream's record, which was not accepted at first, is clean after a flush. -/
theorem custody_of_run_harbor :
    ∃ replies s reply s' p, harborStart.run harbor harborCalls = .ok (replies, s) ∧
      s.step harbor (.flush .quiet) = .ok (reply, s') ∧ s'.record = some p ∧ Custody s ∧
      s.isDirty = true ∧ s'.isDirty = false ∧ s'.isStored = true ∧
      s'.store.get p.id = .ok (some p) := by
  have checked : ((harborStart.run harbor harborCalls).toOption.any fun x =>
      x.2.idsUsed = 3 && (x.2.isDirty && (x.2.step harbor (.flush .quiet)).toOption.any fun y =>
        y.2.idsUsed = 4 && y.2.record.any fun p =>
          lastOutcome? (y.2.callsSince x.2) p.id = some true)) = true := by decide +kernel
  obtain ⟨⟨replies, s⟩, ran, good⟩ := exists_of_any checked
  simp only [Bool.and_eq_true, decide_eq_true_eq] at good
  obtain ⟨used, dirty, flushed⟩ := good
  obtain ⟨⟨reply, s'⟩, made, good⟩ := exists_of_any flushed
  simp only [Bool.and_eq_true, decide_eq_true_eq] at good
  obtain ⟨used', found⟩ := good
  obtain ⟨p, known, worked⟩ := (Option.any_eq_true _ _).mp found
  have fresh : harbor.Fresh (.files {}) s.idsUsed := fresh_harbor (by omega)
  have fresh' : harbor.Fresh (.files {}) s'.idsUsed := fresh_harbor (by omega)
  obtain ⟨custody, settles⟩ := custody_of_run rfl ran fresh
  exact ⟨replies, s, reply, s', p, ran, made, known, custody, dirty,
    settles _ reply s' made fresh' p known (by simpa using worked)⟩

end Engine
end StreamCatalog
