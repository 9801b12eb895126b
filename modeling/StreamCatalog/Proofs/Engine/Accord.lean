import Mathlib.Data.List.Nodup
import StreamCatalog.Proofs.Engine.Conservation
import StreamCatalog.Proofs.Engine.Shelf
import StreamCatalog.Proofs.Engine.Stock

/-!
# Files, records and periods

A committed segment leaves a trace in three places: a file in the directory, a record in the
store, and a period that the buffer has finished.  Each place is changed by a step of its
own, and anything may fail between two of them.  `Accord` says that between calls the three
agree: no file without a record, no record without a file, and as many of both as there
were periods.  `accord_of_run` proves it for every run that starts with a directory in
place and in which discarding works.  A call that breaks down ends the run; it may leave a
file without a record, and nothing is said of it.

The three parts come from `Shelf`, `Stock` and the balance of the buffer.  What joins them is
that the record of a segment is made from its file: `Served.described`.
-/

namespace StreamCatalog
namespace Engine

open Catalog (Id Record)
open Segment (Artifact Files Snapshot)

/-! ## Records that describe files -/

/-- Does the record of a segment tell where its file is and how long? -/
structure Commit.IsDescribed (commit : Commit) : Prop where
  uri : commit.child.values? Catalog.Name.resourceUri =
    some [.text ("file://" ++ commit.artifact.path)]
  size : ∃ n : Int64, commit.child.values? Catalog.Name.resourceSize = some [.integer n] ∧
    n.toInt = (min commit.segment.bytes.length largestSize : Nat)

theorem toInt_ofNat_min (n : Nat) :
    (Int64.ofNat (min n largestSize)).toInt = (min n largestSize : Nat) := by
  have most : min n largestSize ≤ 9223372036854775807 := Nat.min_le_right n largestSize
  rw [Int64.toInt_ofNat', Int.bmod_eq_of_le]
  · show -(9223372036854775808 : Int) ≤ _
    omega
  · show _ < (9223372036854775808 : Int)
    omega

theorem values?_plainChild (id : Id) (segment : Snapshot) (a : Artifact) (now : Time.Instant) :
    (plainChild id segment a now).values? Catalog.Name.resourceUri = some [.text a.uri] ∧
      (plainChild id segment a now).values? Catalog.Name.resourceSize =
        some [.integer (Int64.ofNat (min a.size largestSize))] := by
  unfold plainChild
  constructor
  · repeat rw [Record.values?_set, if_neg (by decide)]
    rw [Record.values?_set, if_pos rfl]
  · repeat rw [Record.values?_set, if_neg (by decide)]
    rw [Record.values?_set, if_pos rfl]

/-- The record of a segment tells where its file is and how long. -/
theorem values?_of_childRecord {e : Setup} {id : Id} {segment : Snapshot} {a : Artifact}
    {now : Time.Instant} {child : Record} (h : e.childRecord id segment a now = .ok child) :
    child.values? Catalog.Name.resourceUri = some [.text a.uri] ∧
      child.values? Catalog.Name.resourceSize =
        some [.integer (Int64.ofNat (min a.size largestSize))] := by
  rw [values?_childRecord_of_ne h (by decide), values?_childRecord_of_ne h (by decide)]
  exact values?_plainChild id segment a now

/-- A segment that is written is as long as its file. -/
theorem size_of_write {e : Setup} {s w : State} {segment : Snapshot} {a : Artifact}
    (written : s.write e segment = .ok (.ok a, w)) : a.size = segment.bytes.length := by
  obtain ⟨_, failed, -⟩ | ⟨writer, made, -⟩ := State.cases_of_write written
  · exact nomatch failed
  · obtain ⟨-, ⟨_, failed, -⟩ | ⟨name, files, done, -⟩⟩ := Segment.Writer.cases_of_write made
    · exact nomatch failed
    · rw [Except.ok.inj done]

theorem Course.described {e : Setup} {forced : Bool} {during : Meanwhile} {s s' : State}
    {turn : Turn} (course : Course e forced during s turn s') {commit : Commit}
    (made : turn.commit? = some commit) : commit.IsDescribed := by
  cases course with
  | terminated | notReady | deferred | rejected => cases made
  | committed _ _ written described _ _ =>
    cases made
    obtain ⟨uri, size⟩ := values?_of_childRecord described
    rw [size_of_write written] at size
    exact ⟨uri, _, size, toInt_ofNat_min _⟩

/-- The record of every segment that a call commits describes its file. -/
theorem Served.described {e : Setup} {s s' : State} {call : Call} {reply : Reply}
    (served : Served e s call reply s') {commit : Commit} (made : reply.commit? = some commit) :
    commit.IsDescribed := by
  cases served with
  | init | ingest | shutdown | clock => cases made
  | check course => exact course.described made
  | flush course => exact course.described made

/-! ## The accord -/

/-- The directory, the store and the buffer agree on the committed segments. -/
structure Accord (directory : String) (files : Files) (store : Catalog.Store)
    (commits : List Commit) (s : State) : Prop where
  /-- The directory holds the initial files and one file for each segment. -/
  shelf : ∃ held, s.writer.files = some held ∧ Holds directory files commits held
  /-- The store holds the initial records, one record for each segment, and that of the
  stream. -/
  stock : Stock store (commits.map Commit.child) s.ledger
  /-- Each of these records describes its file, ... -/
  described : ∀ commit ∈ commits, commit.IsDescribed
  /-- ... and no file is described by two of them. -/
  matched : ∀ c ∈ commits, ∀ d ∈ commits,
    (c.child.id = d.child.id ↔ c.artifact.path = d.artifact.path)
  /-- There are as many of them as periods that have ended. -/
  counted : s.buffer.period = commits.length

/-- **Files, records and periods agree** in every run in a directory, whatever fails, if only
discarding works. -/
theorem accord_of_run {e : Setup} {now : Time.Instant} {writer : Segment.Writer} {files : Files}
    {store : Catalog.Store} {outages : Outages} {calls : List Call} {replies : List Reply}
    {s : State}
    (held : writer.files = some files) (reliable : ∀ outage ∈ outages.discarding, outage = none)
    (ran : (State.start now writer store outages).run e calls = .ok (replies, s)) :
    Accord writer.directory files store (replies.filterMap Reply.commit?) s := by
  have shelf := shelf_of_run held reliable ran
  have stock := stock_of_run ran
  obtain ⟨kept, there, holds⟩ := shelf.holds
  have ids := stock.apart
  rw [List.map_map] at ids
  have described : ∀ commit ∈ replies.filterMap Reply.commit?, commit.IsDescribed := by
    refine State.forall_commit_of_run ?_ ran
    intro _ _ _ _ commit served made
    exact served.described made
  refine ⟨⟨kept, there, holds⟩, stock, described, ?_, period_eq_length ran⟩
  intro c hc d hd
  constructor
  · intro same
    rw [List.inj_on_of_nodup_map ids hc hd same]
  · intro same
    rw [List.inj_on_of_nodup_map holds.apart hc hd same]

theorem accord_of_run_harbor :
    ∃ replies s, harborStart.run harbor harborCalls = .ok (replies, s) ∧
      (replies.filterMap Reply.commit?).length = 1 ∧
      Accord "segments" ⟨[("seg.ts", .file [0])]⟩ (.files {}) (replies.filterMap Reply.commit?)
        s := by
  obtain ⟨replies, s, ran, one, -⟩ := harbor_runs
  refine ⟨replies, s, ran, one, ?_⟩
  exact accord_of_run rfl (fun _ member => absurd member List.not_mem_nil) ran

end Engine
end StreamCatalog
