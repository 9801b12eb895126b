import StreamCatalog.Proofs.Engine.Ledger

/-!
# The records in their store

`Stock` says what the store holds between calls: what it held in the beginning, the records
of the committed segments, and the record of the stream if it was ever accepted.

Nothing is assumed of the identifiers here.  Should the supply repeat itself, the store
refuses to create a record a second time, and an update goes to the stream's record only.
So no record of a segment is ever overwritten, whoever made the identifiers.
-/

namespace StreamCatalog
namespace Engine

open Catalog (Id Record)

/-- What the store holds once the records of segments were stored. -/
structure Stock (initial : Catalog.Store) (children : List Record) (l : Ledger) : Prop where
  apart : (children.map Record.id).Nodup
  free : ∀ c ∈ children, initial.get c.id = .ok none
  found : ∀ c ∈ children, l.store.get c.id = .ok (some c)
  held : l.isStored = true → ∃ p, l.record = some p ∧ l.store.contains p.id = true ∧
    ∀ c ∈ children, c.id ≠ p.id
  others : ∀ id, (∀ c ∈ children, c.id ≠ id) →
    (l.isStored = true → ∀ p, l.record = some p → p.id ≠ id) → l.store.get id = initial.get id

namespace Stock

variable {initial : Catalog.Store} {children : List Record}

theorem start {now : Time.Instant} {writer : Segment.Writer} {outages : Outages} :
    Stock initial [] (State.start now writer initial outages).ledger where
  apart := List.nodup_nil
  free := fun _ member => absurd member List.not_mem_nil
  found := fun _ member => absurd member List.not_mem_nil
  held := fun stored => nomatch stored
  others := fun _ _ _ => rfl

/-- If the stream's record counts as stored, its identifier is taken, and by no segment. -/
theorem of_isStored {l : Ledger} {p : Record} (stock : Stock initial children l)
    (stored : l.isStored = true) (known : l.record = some p) :
    l.store.contains p.id = true ∧ ∀ c ∈ children, c.id ≠ p.id := by
  obtain ⟨q, here, taken, apart⟩ := stock.held stored
  have same : q = p := Option.some.inj (here.symm.trans known)
  rw [← same]
  exact ⟨taken, apart⟩

/-- The stock is the same if the store answers the same and the stream's record is the same. -/
theorem congr {l m : Ledger} (stock : Stock initial children l)
    (same : ∀ id, m.store.get id = l.store.get id) (record : m.record = l.record)
    (flag : m.isStored = l.isStored) : Stock initial children m := by
  refine ⟨stock.apart, stock.free, fun c member => (same _).trans (stock.found c member), ?_, ?_⟩
  · intro stored
    obtain ⟨p, known, taken, others⟩ := stock.held (flag.symm.trans stored)
    exact ⟨p, record.trans known, (Catalog.Store.contains_congr (same _)).trans taken, others⟩
  · intro id apart unheld
    refine (same id).trans (stock.others id apart ?_)
    intro stored p known
    exact unheld (flag.trans stored) p (record.trans known)

/-- Storing the stream's record changes no other record. -/
theorem storeParent {s : State} (stock : Stock initial children s.ledger) :
    Stock initial children s.storeParent.2.ledger := by
  cases known : s.record with
  | none =>
    have same : s.storeParent.2 = { s with isDirty := false } := by
      unfold State.storeParent
      rw [known]
    rw [same]
    exact stock.congr (fun _ => rfl) rfl rfl
  | some p =>
    obtain ⟨store, ok, called, posted⟩ := State.ledger_storeParent known
    rw [posted]
    cases called with
    | failed same => exact stock.congr same rfl (Bool.or_false _)
    | done taken now =>
      -- the record is not that of a segment: such a one can neither be created again nor
      -- be the one that was created before
      have apart : ∀ c ∈ children, c.id ≠ p.id := by
        intro c member same
        cases stored : s.isStored with
        | false =>
          rw [State.parentRequest, stored, ← same] at taken
          have there : s.store.contains c.id = true :=
            Catalog.Store.contains_of_get (stock.found c member)
          rw [there] at taken
          exact absurd taken (by decide)
        | true =>
          exact (stock.of_isStored stored known).2 c member same
      have self : store.get p.id = .ok (some p) := by
        rw [now, if_pos rfl]
      have other {id : Id} (different : id ≠ p.id) : store.get id = s.store.get id := by
        rw [now, if_neg different]
      refine ⟨stock.apart, stock.free, ?_, ?_, ?_⟩
      · intro c member
        exact (other (apart c member)).trans (stock.found c member)
      · intro _
        exact ⟨p, known, Catalog.Store.contains_of_get self, apart⟩
      · intro id others unheld
        have different : p.id ≠ id := unheld (Bool.or_true _) p known
        refine (other different.symm).trans (stock.others id others ?_)
        intro _ q here
        have same : p = q := Option.some.inj (known.symm.trans here)
        rw [← same]
        exact different

theorem retryParent {s : State} (stock : Stock initial children s.ledger) :
    Stock initial children s.retryParent.ledger := by
  unfold State.retryParent
  split
  · exact stock.storeParent
  · exact stock

/-- Failing to store the record of a segment changes no record. -/
theorem rejectChild {w c : State} {child : Record} {cause : Error}
    (stock : Stock initial children w.ledger)
    (failed : w.cataloging.storeChild child = (.error cause, c)) :
    Stock initial children c.ledger := by
  obtain ⟨store, called, posted⟩ := w.cataloging.ledger_storeChild child
  rw [failed] at called posted
  rw [posted]
  cases called with
  | failed same => exact stock.congr same rfl rfl

/-- Storing the record of a segment adds it and changes no other record. -/
theorem storeChild {w c : State} {child : Record} (stock : Stock initial children w.ledger)
    (stored : w.cataloging.storeChild child = (.ok (), c)) :
    Stock initial (children ++ [child]) c.ledger := by
  obtain ⟨store, called, posted⟩ := w.cataloging.ledger_storeChild child
  rw [stored] at called posted
  rw [posted]
  cases called with
  | done free now =>
    have absent : w.store.contains child.id = false := free
    have new : ∀ c ∈ children, c.id ≠ child.id := by
      intro c member same
      have there := Catalog.Store.contains_of_get (stock.found c member)
      rw [same] at there
      exact absurd (absent.symm.trans there) (by decide)
    have unheld : w.isStored = true → ∀ p, w.record = some p → p.id ≠ child.id := by
      intro held p known same
      have taken : w.store.contains p.id = true := (stock.of_isStored held known).1
      rw [same] at taken
      exact absurd (absent.symm.trans taken) (by decide)
    have other {id : Id} (apart : id ≠ child.id) : store.get id = w.store.get id := by
      rw [now, if_neg apart]
      rfl
    have self : store.get child.id = .ok (some child) := by
      rw [now, if_pos rfl]
    refine ⟨nodup_map_concat stock.apart new, forall_mem_concat stock.free ?_,
      forall_mem_concat ?_ self, ?_, ?_⟩
    · rw [← stock.others child.id new unheld]
      exact (Catalog.Store.contains_eq_false_iff _ _).mp absent
    · intro c old
      exact (other (new c old)).trans (stock.found c old)
    · intro held
      obtain ⟨p, known, taken, apart⟩ := stock.held held
      have different : p.id ≠ child.id := unheld held p known
      exact ⟨p, known, (Catalog.Store.contains_congr (other different)).trans taken,
        forall_mem_concat apart different.symm⟩
    · intro id apart unheld'
      have different : child.id ≠ id := apart child (List.mem_append_right _ List.mem_cons_self)
      exact (other fun same => different same.symm).trans
        (stock.others id (fun c member => apart c (List.mem_append_left _ member)) unheld')

/-- Taking notice of a segment changes no record in the store. -/
theorem learn {e : Setup} {s s' : State} {child parent : Record}
    (stock : Stock initial children s.ledger) (learned : s.learn e child = .ok (parent, s')) :
    Stock initial children s'.ledger := by
  obtain ⟨old, known, applied, posted⟩ | ⟨unknown, -, posted⟩ := State.cases_of_learn learned
  · have keepsId := Catalog.Updater.id_of_apply old child e.updater applied
    rw [posted]
    refine ⟨stock.apart, stock.free, stock.found, ?_, ?_⟩
    · intro stored
      refine ⟨parent, rfl, ?_⟩
      rw [keepsId]
      exact stock.of_isStored stored known
    · intro other apart unheld
      refine stock.others other apart ?_
      intro stored q here
      have same : q = old := Option.some.inj (here.symm.trans known)
      rw [same, ← keepsId]
      exact unheld stored parent rfl
  · have never (stored : s.isStored = true) : False := by
      obtain ⟨q, here, -⟩ := stock.held stored
      exact nomatch unknown.symm.trans here
    rw [posted]
    exact ⟨stock.apart, stock.free, stock.found, fun stored => (never stored).elim,
      fun other apart _ => stock.others other apart fun stored => (never stored).elim⟩

/-- A call adds the record of the segment that it commits, and no other. -/
theorem posted {e : Setup} {before after : Ledger} {commit? : Option Commit}
    (stock : Stock initial children before) (posted : Posted e before commit? after) :
    Stock initial (children ++ commit?.toList.map Commit.child) after := by
  cases posted with
  | unchanged =>
    rw [Option.toList_none, List.map_nil, List.append_nil]
    exact stock
  | retried start =>
    rw [← start] at stock
    rw [Option.toList_none, List.map_nil, List.append_nil]
    exact stock.retryParent
  | rejected start retried _ failed =>
    rw [← start] at stock
    have looked := stock.retryParent
    rw [← retried] at looked
    rw [Option.toList_none, List.map_nil, List.append_nil]
    exact looked.rejectChild failed
  | committed start retried _ stored cataloged learned _ =>
    rw [← start] at stock
    have looked := stock.retryParent
    rw [← retried] at looked
    have entered := looked.storeChild stored
    rw [← cataloged] at entered
    exact (entered.learn learned).storeParent

end Stock

/-- **The stock of a run**, whatever fails. -/
theorem stock_of_run {e : Setup} {now : Time.Instant} {writer : Segment.Writer}
    {store : Catalog.Store} {outages : Outages} {calls : List Call} {replies : List Reply}
    {s : State}
    (ran : (State.start now writer store outages).run e calls = .ok (replies, s)) :
    Stock store ((replies.filterMap Reply.commit?).map Commit.child) s.ledger := by
  refine State.run_keeps (motive := fun commits t => Stock store (commits.map Commit.child) t.ledger)
    ?_ Stock.start ran
  intro commits t call reply t' stock served
  rw [List.map_append]
  exact stock.posted served.posted

end Engine
end StreamCatalog
