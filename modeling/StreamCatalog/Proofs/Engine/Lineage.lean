import StreamCatalog.Proofs.Engine.Books
import StreamCatalog.Proofs.Engine.Stock

/-!
# What the stream's record says about its segments

The record of a stream lists the records made from its content.  `Lineage` says what this
list is worth between calls: it names the committed segments, all of them, in order and
each once, and every name in it, also in the copy that the store has, leads to a record in
the store.  `lineage_of_run` proves it for every run with the standard updaters, whatever
fails, and says besides that a stream stays the same stream: its record never changes in
what identifies it.  Both hold up to a call that breaks down, with which a run ends.
-/

namespace StreamCatalog
namespace Engine

open Catalog (Record Value)

/-- What the list of derived records is worth, given the segments committed so far. -/
structure Lineage (commits : List Commit) (s : State) : Prop where
  /-- Without a record of the stream there are no segments. -/
  nothing : s.record = none → commits = []
  /-- The stream's record lists the segments in the order of their commits, ... -/
  lists : ∀ p, s.record = some p →
    p.values? Catalog.Name.derived = some (derivedFrom (commits.map Commit.child))
  /-- ... and each of them once. -/
  once : (derivedFrom (commits.map Commit.child)).Nodup
  /-- What the stream's record lists is in the store, ... -/
  leads : ∀ p, s.record = some p → ∀ v ∈ (p.values? Catalog.Name.derived).getD [],
    ∃ commit ∈ commits, v = .text commit.child.id.text ∧
      s.store.get commit.child.id = .ok (some commit.child)
  /-- ... and so is what the store's copy of it lists. -/
  copyLeads : ∀ p q, s.record = some p → s.store.get p.id = .ok (some q) →
    ∀ v ∈ (q.values? Catalog.Name.derived).getD [],
      ∃ commit ∈ commits, v = .text commit.child.id.text ∧
        s.store.get commit.child.id = .ok (some commit.child)

/-- Records with different identifiers are listed differently. -/
theorem nodup_derivedFrom {children : List Record} (apart : (children.map Record.id).Nodup) :
    (derivedFrom children).Nodup := by
  rw [List.Nodup, List.pairwise_map] at apart
  rw [derivedFrom, List.Nodup, List.pairwise_map]
  exact apart.imp fun differ same => differ (Catalog.Id.text_injective (Value.text.inj same))

/-- What the books say is listed, the stock says is there. -/
theorem Books.lineage {e : Setup} {bound : Nat} {initial : Catalog.Store} {commits : List Commit}
    {s : State} (books : Books e bound (commits.map Commit.child) s.ledger)
    (stock : Stock initial (commits.map Commit.child) s.ledger) : Lineage commits s := by
  have leads (v : Value) (listed : v ∈ derivedFrom (commits.map Commit.child)) :
      ∃ commit ∈ commits, v = .text commit.child.id.text ∧
        s.store.get commit.child.id = .ok (some commit.child) := by
    obtain ⟨child, member, rfl⟩ := List.mem_map.mp listed
    obtain ⟨commit, made, rfl⟩ := List.mem_map.mp member
    exact ⟨commit, made, rfl, stock.found commit.child member⟩
  refine {
    nothing := fun unknown => List.map_eq_nil_iff.mp (books.noStream unknown).1
    lists := fun p known => (books.stream p known).lists
    once := nodup_derivedFrom stock.apart
    leads := fun p known v member => leads v ?_
    copyLeads := fun p q known copied v member => leads v ?_ }
  · rw [(books.stream p known).lists] at member
    exact member
  · obtain ⟨ids, has, before⟩ := (books.stream p known).prefix_of_copy copied
    rw [has] at member
    exact before.subset member

/-! ## The same stream -/

/-- The attributes that identify a stream. -/
def identifying : List String :=
  [Catalog.Name.title, Catalog.Name.resourceUri, Catalog.Name.mediaType, Catalog.Name.created]

/-- Do two records identify the same stream? -/
def SameStream (p q : Record) : Prop :=
  q.id = p.id ∧ ∀ name ∈ identifying, q.values? name = p.values? name

theorem SameStream.refl (p : Record) : SameStream p p := ⟨rfl, fun _ _ => rfl⟩

theorem SameStream.trans {p q r : Record} (h : SameStream p q) (k : SameStream q r) :
    SameStream p r :=
  ⟨k.1.trans h.1, fun name member => (k.2 name member).trans (h.2 name member)⟩

/-- The standard updaters leave alone what identifies a stream. -/
theorem sameStream_of_apply {op : Footprint.Operator} {p child q : Record}
    (h : Catalog.Updater.apply p child (.standard op) = .ok q) : SameStream p q := by
  have untouched : ∀ name ∈ identifying, name ∉ Catalog.Updater.standardNames := by decide
  obtain ⟨id, -, others⟩ := Catalog.Updater.apply_standard_spec h
  exact ⟨id, fun name member => others name (untouched name member)⟩

/-- A call does not make another stream of it. -/
theorem Posted.sameStream {e : Setup} {before after : Ledger} {commit? : Option Commit}
    (standard : e.learning = none) (posted : Posted e before commit? after) {p : Record}
    (known : before.record = some p) : ∃ q, after.record = some q ∧ SameStream p q := by
  have updater : e.updater = .standard e.operator := by rw [Setup.updater, standard]; rfl
  refine posted.keeps (motive := fun l => ∃ q, l.record = some q ∧ SameStream p q) ?_ ?_ ?_
    ⟨p, known, .refl p⟩
  · rintro s ⟨q, here, same⟩
    exact ⟨q, s.record_storeParent.trans here, same⟩
  · rintro w c child result stored ⟨q, here, same⟩
    exact ⟨q, (State.record_of_storeChild stored).trans here, same⟩
  · rintro k l child parent learned ⟨q, here, same⟩
    refine ⟨parent, State.record_of_learn learned, ?_⟩
    obtain ⟨old, held, applied, -⟩ | ⟨unknown, -, -⟩ := State.cases_of_learn learned
    · have this_one : old = q := Option.some.inj (held.symm.trans here)
      rw [updater, this_one] at applied
      exact same.trans (sameStream_of_apply applied)
    · exact absurd (unknown.symm.trans here) (Option.some_ne_none q).symm

theorem sameStream_of_run {e : Setup} {calls : List Call} {replies : List Reply} {s s' : State}
    (standard : e.learning = none) (ran : s.run e calls = .ok (replies, s')) {p : Record}
    (known : s.record = some p) : ∃ q, s'.record = some q ∧ SameStream p q := by
  refine State.run_keeps (motive := fun _ t => ∃ q, t.record = some q ∧ SameStream p q)
    ?_ ⟨p, known, .refl p⟩ ran
  intro _ t _ _ t' kept served
  obtain ⟨q, here, same⟩ := kept
  obtain ⟨r, next, again⟩ := served.posted.sameStream standard here
  exact ⟨r, next, same.trans again⟩

/-- **The stream's record lists its segments.**  In every run with the standard updaters,
whatever fails, the list of derived records is exact, and all that it names is in the
store.  However the run goes on, the stream's record keeps its identifier and what
identifies the stream. -/
theorem lineage_of_run {e : Setup} {now : Time.Instant} {writer : Segment.Writer}
    {store : Catalog.Store} {outages : Outages} {calls : List Call} {replies : List Reply}
    {s : State} (standard : e.learning = none)
    (ran : (State.start now writer store outages).run e calls = .ok (replies, s))
    (fresh : e.Fresh store s.idsUsed) :
    Lineage (replies.filterMap Reply.commit?) s ∧
      ∀ more later s', s.run e more = .ok (later, s') →
        ∀ p, s.record = some p → ∃ q, s'.record = some q ∧ SameStream p q := by
  refine ⟨(books_of_run standard ran fresh).1.lineage (stock_of_run ran), ?_⟩
  intro more later s' continued p known
  exact sameStream_of_run standard continued known

theorem lineage_of_run_harbor :
    ∃ replies s, harborStart.run harbor harborCalls = .ok (replies, s) ∧
      (replies.filterMap Reply.commit?).length = 1 ∧
      Lineage (replies.filterMap Reply.commit?) s ∧
      ∀ more later s', s.run harbor more = .ok (later, s') →
        ∀ p, s.record = some p → ∃ q, s'.record = some q ∧ SameStream p q := by
  obtain ⟨replies, s, ran, one, used⟩ := harbor_runs
  have fresh : harbor.Fresh (.files {}) s.idsUsed := fresh_harbor (by omega)
  exact ⟨replies, s, ran, one, lineage_of_run rfl ran fresh⟩

end Engine
end StreamCatalog
