import StreamCatalog.Proofs.Engine.Ledger

/-!
# The books

`Books` is what holds of the catalog in every state of a run.  Every way in which the
ledger can change keeps it, one lemma for each: storing the stream's record
(`Books.storeParent`), storing the record of a segment, whether that works or not
(`Books.storeChild`), and taking notice of it (`Books.learn`).

The heart of the matter is the identifiers.  Whether the stream's record is to be created or
updated is remembered in a flag, and the flag is right because nothing else can have taken
the identifier: the store did not have it, and no segment can have been given it.
-/

namespace StreamCatalog
namespace Engine

open Catalog (Id Record Value)

/-- The identifiers of records, as a list of derived records has them. -/
def derivedFrom (children : List Record) : List Value := children.map fun c => .text c.id.text

/-- What holds of the stream's record, given the records that it lists. -/
structure Books.Stream (e : Setup) (listed : List Record) (l : Ledger) (p : Record) : Prop where
  handed : ∃ i < l.idsUsed, e.newId i = p.id
  lists : p.values? Catalog.Name.derived = some (derivedFrom listed)
  absent : l.isStored = false → l.store.get p.id = .ok none
  present : l.isStored = true → ∃ q ids, l.store.get p.id = .ok (some q) ∧
    q.values? Catalog.Name.derived = some ids ∧ ids <+: derivedFrom listed
  clean : l.isDirty = false → l.store.get p.id = .ok (some p)

/-- What holds of the catalog, given the records that the stream's record lists. -/
structure Books (e : Setup) (bound : Nat) (listed : List Record) (l : Ledger) : Prop where
  unused : ∀ i, l.idsUsed ≤ i → i < bound → l.store.get (e.newId i) = .ok none
  orderly : ∀ call ∈ l.calls, call.wasTaken = decide (call.request = .update)
  noStream : l.record = none → listed = [] ∧ l.isStored = false ∧ l.isDirty = false
  stream : ∀ p, l.record = some p → Books.Stream e listed l p

namespace Books

variable {e : Setup} {bound : Nat} {listed : List Record}

namespace Stream

variable {l : Ledger} {p : Record}

/-- The flag is true to the store. -/
theorem contains (stream : Stream e listed l p) : l.store.contains p.id = l.isStored := by
  cases stored : l.isStored with
  | false => exact (Catalog.Store.contains_eq_false_iff _ _).mpr (stream.absent stored)
  | true =>
    obtain ⟨q, _, found, -⟩ := stream.present stored
    exact Catalog.Store.contains_of_get found

/-- What the store's copy of the stream's record lists, the record itself lists first. -/
theorem prefix_of_copy (stream : Stream e listed l p) {q : Record}
    (copied : l.store.get p.id = .ok (some q)) :
    ∃ ids, q.values? Catalog.Name.derived = some ids ∧ ids <+: derivedFrom listed := by
  cases stored : l.isStored with
  | false =>
    rw [stream.absent stored] at copied
    exact nomatch copied
  | true =>
    obtain ⟨copy, ids, found, lists, before⟩ := stream.present stored
    have same : copy = q := Option.some.inj (Except.ok.inj (found.symm.trans copied))
    rw [← same]
    exact ⟨ids, lists, before⟩

/-- The stream's record is what it was if the store's answer about it is. -/
theorem congr (stream : Stream e listed l p) {store : Catalog.Store} {used : Nat}
    {calls : List StoreCall} (same : store.get p.id = l.store.get p.id) (more : l.idsUsed ≤ used) :
    Stream e listed { l with store, idsUsed := used, calls } p := by
  obtain ⟨i, earlier, handed⟩ := stream.handed
  refine { stream with
    handed := ⟨i, Nat.lt_of_lt_of_le earlier more, handed⟩
    absent := fun never => same.trans (stream.absent never)
    present := ?_
    clean := fun clean => same.trans (stream.clean clean) }
  intro ever
  obtain ⟨q, ids, found, lists⟩ := stream.present ever
  exact ⟨q, ids, same.trans found, lists⟩

end Stream

/-- Before anything happens the books are empty. -/
theorem start (e : Setup) {bound : Nat} {now : Time.Instant} {writer : Segment.Writer}
    {store : Catalog.Store} {outages : Outages} (fresh : e.Fresh store bound) :
    Books e bound [] (State.start now writer store outages).ledger where
  unused := fun i _ below => fresh.free i below
  orderly := fun _ member => absurd member List.not_mem_nil
  noStream := fun _ => ⟨rfl, rfl, rfl⟩
  stream := fun _ known => nomatch known

variable (distinct : ∀ i < bound, ∀ j < bound, e.newId i = e.newId j → i = j)

include distinct

/-- An identifier that is still to come is none of those that were handed out. -/
theorem ne_of_handed {n i : Nat} {id : Id} (handed : ∃ j < n, e.newId j = id) (later : n ≤ i)
    (below : i < bound) : e.newId i ≠ id := by
  obtain ⟨j, earlier, rfl⟩ := handed
  intro same
  have equal : i = j := distinct i below j (by omega) same
  omega

/-- Storing the stream's record keeps the books. -/
theorem storeParent {s : State} {p : Record} (books : Books e bound listed s.ledger)
    (known : s.record = some p) : Books e bound listed s.storeParent.2.ledger := by
  have stream := books.stream p known
  have flag : s.store.contains p.id = s.isStored := stream.contains
  have asked : s.store.contains p.id = decide (s.parentRequest = .update) := by
    rw [flag, State.parentRequest]
    cases s.isStored <;> rfl
  obtain ⟨store, ok, called, posted⟩ := State.ledger_storeParent known
  rw [posted]
  refine {
    unused := ?_
    orderly := forall_mem_concat books.orderly asked
    noStream := fun unknown => absurd (unknown.symm.trans known) (Option.some_ne_none p).symm
    stream := ?_ }
  · intro i unused below
    have apart : e.newId i ≠ p.id := ne_of_handed distinct stream.handed unused below
    exact (called.get_of_ne apart).trans (books.unused i unused below)
  · intro q here
    obtain rfl : p = q := Option.some.inj (known.symm.trans here)
    cases called with
    | failed same =>
      -- the flag stays as it is, but the record is dirty now
      have kept : Stream e listed { s.ledger with store } p :=
        stream.congr (same p.id) (Nat.le_refl _)
      refine { kept with
        absent := fun h => kept.absent ?_
        present := fun h => kept.present ?_
        clean := fun h => nomatch h }
      · show s.isStored = false
        simpa using h
      · show s.isStored = true
        simpa using h
    | done _ now =>
      have self : store.get p.id = .ok (some p) := by
        rw [now, if_pos rfl]
      exact { stream with
        absent := fun h => absurd h (by simp)
        present := fun _ => ⟨p, _, self, stream.lists, List.prefix_refl _⟩
        clean := fun _ => self }

/-- If there is nothing new in the stream's record, nothing is stored. -/
theorem retryParent {s : State} (books : Books e bound listed s.ledger) :
    Books e bound listed s.retryParent.ledger := by
  unfold State.retryParent
  split
  · rename_i dirty
    cases known : s.record with
    | none => exact absurd ((books.noStream known).2.2.symm.trans dirty) (by decide)
    | some p => exact books.storeParent distinct known
  · exact books

/-- Storing the record of a segment keeps the books, whether it works or not. -/
theorem storeChild {w c : State} {child : Record} {result : Except Error Unit}
    (books : Books e bound listed w.ledger) (fresh : child.id = e.newId w.idsUsed)
    (below : w.idsUsed < bound) (stored : w.cataloging.storeChild child = (result, c)) :
    Books e bound listed c.ledger := by
  obtain ⟨store, called, posted⟩ := w.cataloging.ledger_storeChild child
  rw [stored] at called posted
  have free : w.store.contains child.id = false := by
    rw [Catalog.Store.contains_eq_false_iff, fresh]
    exact books.unused _ (Nat.le_refl _) below
  rw [posted]
  refine {
    unused := ?_
    orderly := forall_mem_concat books.orderly free
    noStream := books.noStream
    stream := ?_ }
  · intro i unused inside
    have later : w.idsUsed < i := unused
    have apart : e.newId i ≠ child.id :=
      ne_of_handed distinct ⟨w.idsUsed, Nat.lt_succ_self _, fresh.symm⟩ later inside
    exact (called.get_of_ne apart).trans (books.unused i (Nat.le_of_lt later) inside)
  · intro p known
    have stream := books.stream p known
    have apart : child.id ≠ p.id := by
      rw [fresh]
      exact ne_of_handed distinct stream.handed (Nat.le_refl _) below
    exact stream.congr (called.get_of_ne apart.symm) (Nat.le_succ _)

omit distinct in
/-- Once the stream's record has taken notice of a segment, it lists it. -/
theorem learn {s s' : State} {child parent : Record} (standard : e.learning = none)
    (books : Books e bound listed s.ledger) (below : s'.idsUsed ≤ bound)
    (learned : s.learn e child = .ok (parent, s')) :
    Books e bound (listed ++ [child]) s'.ledger := by
  have updater : e.updater = .standard e.operator := by rw [Setup.updater, standard]; rfl
  have longer : derivedFrom (listed ++ [child]) = derivedFrom listed ++ [.text child.id.text] :=
    List.map_append
  obtain ⟨old, known, applied, posted⟩ | ⟨unknown, applied, posted⟩ := State.cases_of_learn learned
  · rw [updater] at applied
    obtain ⟨keepsId, lists, -⟩ := Catalog.Updater.apply_standard_spec applied
    have stream := books.stream old known
    rw [posted]
    refine { books with
      noStream := fun h => nomatch h
      stream := ?_ }
    intro p here
    obtain rfl : parent = p := Option.some.inj here
    refine {
      handed := ?_
      lists := ?_
      absent := ?_
      present := ?_
      clean := fun h => nomatch h }
    · rw [keepsId]
      exact stream.handed
    · rw [lists, stream.lists, longer]
      rfl
    · rw [keepsId]
      exact stream.absent
    · intro ever
      obtain ⟨q, ids, found, has, before⟩ := stream.present ever
      rw [keepsId]
      refine ⟨q, ids, found, has, ?_⟩
      rw [longer]
      exact before.trans (List.prefix_append _ _)
  · rw [updater] at applied
    obtain ⟨keepsId, lists, -⟩ := Catalog.Updater.apply_standard_spec applied
    obtain ⟨nothing, never, -⟩ := books.noStream unknown
    have used : s'.idsUsed = s.idsUsed + 1 := congrArg Ledger.idsUsed posted
    have inside : s.idsUsed < bound := by omega
    have free : s.store.get (e.newId s.idsUsed) = .ok none :=
      books.unused s.idsUsed (Nat.le_refl _) inside
    rw [posted]
    refine { books with
      unused := fun i unused below => books.unused i (Nat.le_of_succ_le unused) below
      noStream := fun h => nomatch h
      stream := ?_ }
    intro p here
    obtain rfl : parent = p := Option.some.inj here
    refine {
      handed := ⟨s.idsUsed, Nat.lt_succ_self _, keepsId.symm⟩
      lists := ?_
      absent := ?_
      present := fun ever => absurd (never.symm.trans ever) (by decide)
      clean := fun h => nomatch h }
    · rw [lists, longer, nothing, values?_newParent e _ _ (by decide)]
      rfl
    · intro _
      rw [keepsId]
      exact free

/-- A call keeps the books, and enters the segment that it commits. -/
theorem posted {before after : Ledger} {children : List Record} {commit? : Option Commit}
    (standard : e.learning = none) (books : Books e bound children before)
    (below : after.idsUsed ≤ bound) (posted : Posted e before commit? after) :
    Books e bound (children ++ commit?.toList.map Commit.child) after := by
  cases posted with
  | unchanged =>
    rw [Option.toList_none, List.map_nil, List.append_nil]
    exact books
  | retried start =>
    rw [← start] at books
    rw [Option.toList_none, List.map_nil, List.append_nil]
    exact books.retryParent distinct
  | @rejected s w c child cause start retried fresh failed =>
    have used := State.idsUsed_of_storeChild failed
    have inside : c.idsUsed ≤ bound := below
    rw [← start] at books
    have looked := books.retryParent distinct
    rw [← retried] at looked
    rw [Option.toList_none, List.map_nil, List.append_nil]
    exact looked.storeChild distinct fresh (by omega) failed
  | @committed s w c k l commit parent start retried fresh stored cataloged learned known =>
    have used := State.idsUsed_of_storeChild stored
    have between : k.idsUsed = c.idsUsed := congrArg Ledger.idsUsed cataloged
    have more := State.idsUsed_of_learn learned
    have inside : l.idsUsed ≤ bound := l.idsUsed_storeParent ▸ below
    rw [← start] at books
    have looked := books.retryParent distinct
    rw [← retried] at looked
    have entered := looked.storeChild distinct fresh (by omega) stored
    rw [← cataloged] at entered
    have listed := entered.learn standard inside learned
    exact listed.storeParent distinct (State.record_of_learn learned)

end Books

/-! ## The last call about the stream's record -/

/-- The outcome of the last call to the store about an identifier. -/
def lastOutcome? (calls : List StoreCall) (id : Id) : Option Bool :=
  (calls.filter fun call => call.id = id).getLast?.map StoreCall.succeeded

theorem lastOutcome?_concat (calls : List StoreCall) (call : StoreCall) (id : Id) :
    lastOutcome? (calls ++ [call]) id =
      if call.id = id then some call.succeeded else lastOutcome? calls id := by
  rw [lastOutcome?, List.filter_append]
  by_cases same : call.id = id
  · rw [if_pos same, List.filter_cons_of_pos (by simpa using same), List.filter_nil,
      List.getLast?_concat]
    rfl
  · rw [if_neg same, List.filter_cons_of_neg (by simpa using same), List.filter_nil,
      List.append_nil]
    rfl

/-- Is the stream's record dirty if and only if the last attempt to store it failed? -/
def Settled (l : Ledger) : Prop :=
  ∀ p, l.record = some p → lastOutcome? l.calls p.id = some (!l.isDirty)

namespace Settled

/-- Storing the stream's record settles it, whatever was before. -/
theorem storeParent (s : State) : Settled s.storeParent.2.ledger := by
  intro p known
  have here : s.record = some p := s.record_storeParent.symm.trans known
  obtain ⟨store, ok, -, posted⟩ := State.ledger_storeParent here
  rw [posted]
  show lastOutcome? (s.calls ++ [_]) p.id = some (!!ok)
  rw [lastOutcome?_concat, if_pos rfl, Bool.not_not]

theorem retryParent {s : State} (settled : Settled s.ledger) : Settled s.retryParent.ledger := by
  unfold State.retryParent
  split
  · exact storeParent s
  · exact settled

/-- A call keeps the stream's record settled. -/
theorem posted {e : Setup} {bound : Nat} {before after : Ledger} {children : List Record}
    {commit? : Option Commit}
    (distinct : ∀ i < bound, ∀ j < bound, e.newId i = e.newId j → i = j)
    (books : Books e bound children before) (settled : Settled before)
    (below : after.idsUsed ≤ bound) (posted : Posted e before commit? after) : Settled after := by
  cases posted with
  | unchanged => exact settled
  | retried start =>
    rw [← start] at settled
    exact settled.retryParent
  | @rejected s w c child cause start retried fresh failed =>
    rw [← start] at books settled
    have looked := books.retryParent distinct
    have still := settled.retryParent
    rw [← retried] at looked still
    obtain ⟨store, -, noted⟩ := w.cataloging.ledger_storeChild child
    rw [failed] at noted
    have used := State.idsUsed_of_storeChild failed
    have most : c.idsUsed ≤ bound := below
    have inside : w.idsUsed < bound := by omega
    rw [noted]
    intro p known
    -- the call was about the record of a segment, whose identifier is new
    have apart : child.id ≠ p.id := by
      rw [fresh]
      exact Books.ne_of_handed distinct (looked.stream p known).handed (Nat.le_refl _) inside
    show lastOutcome? (w.calls ++ [_]) p.id = _
    rw [lastOutcome?_concat, if_neg apart]
    exact still p known
  | committed => exact storeParent _

end Settled

/-! ## The books of a run -/

/-- **The books are kept in every run** with the standard updaters and a supply of fresh
identifiers. -/
theorem books_of_run {e : Setup} {now : Time.Instant} {writer : Segment.Writer}
    {store : Catalog.Store} {outages : Outages} {calls : List Call} {replies : List Reply}
    {s : State} (standard : e.learning = none)
    (ran : (State.start now writer store outages).run e calls = .ok (replies, s))
    (fresh : e.Fresh store s.idsUsed) :
    Books e s.idsUsed ((replies.filterMap Reply.commit?).map Commit.child) s.ledger ∧
      Settled s.ledger := by
  refine State.run_keeps (motive := fun commits t => t.idsUsed ≤ s.idsUsed →
      Books e s.idsUsed (commits.map Commit.child) t.ledger ∧ Settled t.ledger) ?_
    (fun _ => ⟨Books.start e fresh, fun _ known => nomatch known⟩) ran (Nat.le_refl _)
  intro commits t call reply t' kept served below
  obtain ⟨books, settled⟩ := kept (Nat.le_trans served.posted.idsUsed_le below)
  rw [List.map_append]
  exact ⟨books.posted fresh.apart standard below served.posted,
    settled.posted fresh.apart books below served.posted⟩

end Engine
end StreamCatalog
