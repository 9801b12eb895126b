import StreamCatalog.Proofs.Engine.Course
import StreamCatalog.Proofs.Segment.Files

/-!
# The segments in their directory

A segment is written before it is known whether it will get a record, and is discarded if it
does not.  So the directory can hold a file too many, but only inside a check.  `Shelf`
says what it holds between calls: what it held in the beginning, and one file for each
committed segment.

It takes that discarding works.  Where it fails, the file stays.
-/

namespace StreamCatalog
namespace Engine

open Catalog (Record)
open Segment (Artifact Files Snapshot)

/-- The components of a state that have to do with files: the writer, and how its discarding
is going to fail. -/
structure Desk where
  writer : Segment.Writer
  discarding : List (Option Error)

namespace State

/-- The desk of a state. -/
def desk (s : State) : Desk := ⟨s.writer, s.outages.discarding⟩

/-! ## What leaves the desk alone -/

variable {e : Setup} {s s' : State} {segment : Snapshot}

@[simp] theorem desk_pass (s : State) (happenings : List Happening) :
    (s.pass happenings).desk = s.desk := by
  obtain ⟨_, eq⟩ := s.pass_eq happenings
  rw [eq]
  rfl

@[simp] theorem desk_enter (s : State) (p : Phase) : (s.enter p).desk = s.desk := by
  obtain ⟨_, _, eq⟩ := s.enter_eq p
  rw [eq]
  rfl

@[simp] theorem desk_tell (s : State) (o : Occasion) (n : Nat) (t : Time.Instant)
    (a : Option Artifact) : (s.tell e o n t a).desk = s.desk := rfl

@[simp] theorem desk_tellCreated (s : State) : (s.tellCreated e).desk = s.desk := rfl

@[simp] theorem desk_release (s : State) (segment : Snapshot) :
    (s.release segment).2.desk = s.desk := by
  obtain ⟨_, eq⟩ := s.release_eq segment
  rw [eq]
  rfl

@[simp] theorem desk_storeParent (s : State) : s.storeParent.2.desk = s.desk := by
  obtain ⟨_, _, _, _, _, eq⟩ := s.storeParent_eq
  rw [eq]
  rfl

@[simp] theorem desk_retryParent (s : State) : s.retryParent.desk = s.desk := by
  obtain ⟨_, _, _, _, _, eq⟩ := s.retryParent_eq
  rw [eq]
  rfl

theorem desk_of_storeChild {child : Record} {result : Except Error Unit}
    (h : s.cataloging.storeChild child = (result, s')) : s'.desk = s.desk := by
  obtain ⟨_, _, _, rfl⟩ := storeChild_eq h
  rfl

theorem desk_of_learn {child r : Record} (h : s.learn e child = .ok (r, s')) :
    s'.desk = s.desk := by
  obtain ⟨_, _, _, rfl⟩ := learn_eq h
  rfl

@[simp] theorem desk_looking (s : State) (during : Meanwhile) :
    (s.looking during).desk = s.desk := by
  rw [looking, desk_pass, desk_retryParent]

@[simp] theorem desk_writing (s : State) (during : Meanwhile) :
    (s.writing during).desk = s.desk := by
  rw [writing, copying, desk_pass, desk_pass, desk_enter, desk_looking]

@[simp] theorem desk_reopened (s : State) (during : Meanwhile) (segment : Snapshot)
    (a : Artifact) : (s.reopened e during segment a).desk = s.desk := by
  rw [reopened, desk_tellCreated, desk_pass, desk_release, releasing, desk_tell, desk_pass,
    desk_storeParent]

@[simp] theorem desk_init (e : Setup) (s : State) : (s.init e).2.desk = s.desk := by
  unfold init
  split
  · rfl
  · split
    · rw [desk_tellCreated, desk_enter]
    · rfl

@[simp] theorem desk_ingest (s : State) (data : List UInt8) :
    (s.ingest data).2.desk = s.desk := by
  unfold ingest
  split <;> rfl

@[simp] theorem desk_shutdown (e : Setup) (s : State) : (s.shutdown e).desk = s.desk := by
  unfold shutdown
  split
  · rfl
  · rw [desk_tell, desk_retryParent]
    rfl

/-! ## What changes the desk -/

/-- Writing fails before the writer is asked, or is what the writer makes of it. -/
theorem cases_of_write {result : Except Error Artifact}
    (h : s.write e segment = .ok (result, s')) :
    (∃ cause, result = .error cause ∧ s'.desk = s.desk) ∨
      ∃ writer, s.writer.write e.stream.title segment = .ok (result, writer) ∧
        s'.desk = { s.desk with writer } := by
  unfold write at h
  dsimp only at h
  split at h
  · cases h
    exact Or.inl ⟨_, rfl, rfl⟩
  · obtain ⟨⟨answer, writer⟩, written, h⟩ := bind_eq_ok_iff.mp h
    cases h
    exact Or.inr ⟨writer, written, rfl⟩

/-- Discarding does not fail unless it is to fail. -/
theorem desk_discard (reliable : ∀ outage ∈ s.desk.discarding, outage = none) (a : Artifact) :
    (s.discard a).desk = ⟨(s.desk.writer.discard a).2, s.desk.discarding.tail⟩ := by
  have next : nextOutage s.outages.discarding = none := by
    cases held : s.outages.discarding with
    | nil => rfl
    | cons outage outages =>
      have passes := reliable outage (by rw [desk, held]; exact List.mem_cons_self)
      rw [nextOutage, List.head?_cons, passes]
      rfl
  rw [discard]
  simp only [next]
  rfl

end State

/-! ## The shelf -/

/-- What a directory holds once segments were committed: their files, under different names
that were free in the beginning, and otherwise what it held in the beginning. -/
structure Holds (directory : String) (initial : Files) (commits : List Commit) (files : Files) :
    Prop where
  segments : ∀ commit ∈ commits, ∃ name, commit.artifact.path = Path.join directory name ∧
    initial.find? name = none ∧ files.find? name = some (.file commit.segment.bytes)
  apart : (commits.map fun commit => commit.artifact.path).Nodup
  others : ∀ name, (∀ commit ∈ commits, commit.artifact.path ≠ Path.join directory name) →
    files.find? name = initial.find? name

namespace Holds

variable {directory : String} {initial files : Files} {commits : List Commit}

theorem congr {files' : Files} (holds : Holds directory initial commits files)
    (same : ∀ name, files'.find? name = files.find? name) :
    Holds directory initial commits files' where
  segments := fun commit member => by
    obtain ⟨name, path, free, there⟩ := holds.segments commit member
    exact ⟨name, path, free, (same name).trans there⟩
  apart := holds.apart
  others := fun name apart => (same name).trans (holds.others name apart)

/-- A free name is not the name of a segment. -/
theorem path_ne_of_free (holds : Holds directory initial commits files) {name : String}
    (free : files.find? name = none) :
    ∀ commit ∈ commits, commit.artifact.path ≠ Path.join directory name := by
  intro commit member same
  obtain ⟨other, path, -, there⟩ := holds.segments commit member
  rw [Path.join_injective (path.symm.trans same), free] at there
  exact nomatch there

/-- A file that is put under a free name can be that of another segment. -/
theorem put (holds : Holds directory initial commits files) {commit : Commit} {name : String}
    (path : commit.artifact.path = Path.join directory name) (free : files.find? name = none) :
    Holds directory initial (commits ++ [commit])
      (files.put name (.file commit.segment.bytes)) := by
  have unused := holds.path_ne_of_free free
  have before : initial.find? name = none := (holds.others name unused).symm.trans free
  refine ⟨forall_mem_concat ?_ ⟨name, path, before, ?_⟩,
    nodup_map_concat holds.apart ?_, ?_⟩
  · intro c old
    obtain ⟨other, itsPath, absent, there⟩ := holds.segments c old
    refine ⟨other, itsPath, absent, ?_⟩
    rw [Directory.find?_put, if_neg, there]
    rintro rfl
    exact unused c old itsPath
  · rw [Directory.find?_put, if_pos rfl]
  · intro c old
    show c.artifact.path ≠ commit.artifact.path
    rw [path]
    exact unused c old
  · intro other apart
    have other_ne : other ≠ name := by
      rintro rfl
      exact apart commit (List.mem_append_right _ List.mem_cons_self) path
    rw [Directory.find?_put, if_neg other_ne]
    exact holds.others other fun c member => apart c (List.mem_append_left _ member)

/-- A file that is put under a free name and erased again leaves no trace. -/
theorem erase_put (holds : Holds directory initial commits files) {name : String}
    {content : List UInt8} (free : files.find? name = none) :
    Holds directory initial commits ((files.put name (.file content)).erase name) := by
  apply holds.congr
  intro other
  rw [Directory.find?_erase, Directory.find?_put]
  by_cases here : other = name
  · rw [if_pos here, here, free]
  · rw [if_neg here, if_neg here]

end Holds

/-- What holds of the files between calls. -/
structure Shelf (directory : String) (initial : Files) (commits : List Commit) (d : Desk) :
    Prop where
  reliable : ∀ outage ∈ d.discarding, outage = none
  located : d.writer.directory = directory
  holds : ∃ files, d.writer.files = some files ∧ Holds directory initial commits files

namespace Shelf

variable {e : Setup} {directory : String} {initial : Files} {commits : List Commit}
variable {s w : State} {segment : Snapshot}

/-- An attempt to write that fails leaves the shelf as it is. -/
theorem of_write_error (shelf : Shelf directory initial commits s.desk) {cause : Error}
    (failed : s.write e segment = .ok (.error cause, w)) :
    Shelf directory initial commits w.desk := by
  obtain ⟨_, -, same⟩ | ⟨writer, written, same⟩ := State.cases_of_write failed
  · rw [same]
    exact shelf
  · obtain ⟨located, ⟨_, -, files⟩ | ⟨_, _, done, -⟩⟩ := Segment.Writer.cases_of_write written
    · rw [same]
      obtain ⟨held, there, holds⟩ := shelf.holds
      exact ⟨shelf.reliable, located.trans shelf.located, held, files.trans there, holds⟩
    · exact nomatch done

/-- A segment that is written stands on the shelf under a name that was free. -/
theorem of_write_ok (shelf : Shelf directory initial commits s.desk) {a : Artifact}
    (written : s.write e segment = .ok (.ok a, w)) :
    ∃ name files, a = ⟨Path.join directory (String.ofList name), segment.bytes.length⟩ ∧
      Path.Plain name ∧ Holds directory initial commits files ∧
      files.find? (String.ofList name) = none ∧ w.desk.discarding = s.desk.discarding ∧
      w.desk.writer.directory = directory ∧
      w.desk.writer.files = some (files.put (String.ofList name) (.file segment.bytes)) := by
  obtain ⟨_, failed, -⟩ | ⟨writer, written, same⟩ := State.cases_of_write written
  · exact nomatch failed
  · obtain ⟨located, ⟨_, failed, -⟩ | ⟨name, files, done, plain, held, free, put⟩⟩ :=
      Segment.Writer.cases_of_write written
    · exact nomatch failed
    · obtain ⟨files', there, holds⟩ := shelf.holds
      have here : files' = files := Option.some.inj (there.symm.trans held)
      have place : s.writer.directory = directory := shelf.located
      rw [place] at done located
      rw [same]
      exact ⟨name, files, Except.ok.inj done, plain, here ▸ holds, free, rfl, located, put⟩

/-- **A check puts the segment that it commits on the shelf, and no other.** -/
theorem course {forced : Bool} {during : Meanwhile} {s' : State} {turn : Turn}
    (shelf : Shelf directory initial commits s.desk) (course : Course e forced during s turn s') :
    Shelf directory initial (commits ++ turn.commit?.toList) s'.desk := by
  rw [← s.desk_writing during] at shelf
  cases course with
  | terminated =>
    rw [s.desk_writing during] at shelf
    show Shelf directory initial (commits ++ []) s.desk
    rw [List.append_nil]
    exact shelf
  | notReady =>
    rw [s.desk_writing during] at shelf
    show Shelf directory initial (commits ++ []) _
    rw [List.append_nil, State.desk_looking]
    exact shelf
  | deferred _ _ failed =>
    show Shelf directory initial (commits ++ []) _
    rw [List.append_nil, State.desk_enter]
    exact shelf.of_write_error failed
  | @rejected a w child cause c _ _ written _ failed =>
    obtain ⟨name, files, rfl, plain, holds, free, keeps, located, held⟩ :=
      shelf.of_write_ok written
    have same : (c.pass (during .cataloging)).desk = w.desk := by
      rw [State.desk_pass, State.desk_of_storeChild failed]
    have reliable : ∀ outage ∈ w.desk.discarding, outage = none := by
      rw [keeps]
      exact shelf.reliable
    have there : (files.put (String.ofList name) (.file (s.segment during).bytes)).find?
        (String.ofList name) = some (.file (s.segment during).bytes) := by
      rw [Directory.find?_put, if_pos rfl]
    have works : ∀ outage ∈ (c.pass (during .cataloging)).desk.discarding, outage = none := by
      rw [same]
      exact reliable
    show Shelf directory initial (commits ++ []) _
    rw [List.append_nil, State.desk_enter, State.desk_discard works, same, ← located,
      Segment.Writer.discard_join plain held there]
    refine ⟨fun outage member => reliable outage (List.mem_of_mem_tail member), rfl, _, rfl, ?_⟩
    rw [located]
    exact holds.erase_put free
  | @committed a w child c parent l _ _ written _ stored learned =>
    obtain ⟨name, files, rfl, plain, holds, free, keeps, located, held⟩ :=
      shelf.of_write_ok written
    have same : l.desk = w.desk := by
      rw [State.desk_of_learn learned, State.desk_pass, State.desk_of_storeChild stored]
    rw [State.desk_enter, State.desk_reopened, same]
    refine ⟨?_, located, _, held, holds.put rfl free⟩
    rw [keeps]
    exact shelf.reliable

/-- A call puts the segment that it commits on the shelf, and no other. -/
theorem served {call : Call} {reply : Reply} {s' : State}
    (shelf : Shelf directory initial commits s.desk) (served : Served e s call reply s') :
    Shelf directory initial (commits ++ reply.commit?.toList) s'.desk := by
  cases served with
  | init =>
    show Shelf directory initial (commits ++ []) _
    rw [List.append_nil, State.desk_init]
    exact shelf
  | ingest data =>
    show Shelf directory initial (commits ++ []) _
    rw [List.append_nil, State.desk_ingest]
    exact shelf
  | check course => exact shelf.course course
  | flush course => exact shelf.course course
  | shutdown =>
    show Shelf directory initial (commits ++ []) _
    rw [List.append_nil, State.desk_shutdown]
    exact shelf
  | clock now =>
    show Shelf directory initial (commits ++ []) s.desk
    rw [List.append_nil]
    exact shelf

end Shelf

/-- **The shelf of a run** in a directory, if discarding works. -/
theorem shelf_of_run {e : Setup} {now : Time.Instant} {writer : Segment.Writer}
    {initial : Files} {store : Catalog.Store} {outages : Outages} {calls : List Call}
    {replies : List Reply} {s : State} (held : writer.files = some initial)
    (reliable : ∀ outage ∈ outages.discarding, outage = none)
    (ran : (State.start now writer store outages).run e calls = .ok (replies, s)) :
    Shelf writer.directory initial (replies.filterMap Reply.commit?) s.desk := by
  refine State.run_keeps (motive := fun commits t => Shelf writer.directory initial commits t.desk)
    (fun {commits t call reply t'} shelf served => shelf.served served) ?_ ran
  refine ⟨reliable, rfl, initial, held, ?_⟩
  exact ⟨fun _ member => absurd member List.not_mem_nil, List.nodup_nil, fun _ _ => rfl⟩

end Engine
end StreamCatalog
