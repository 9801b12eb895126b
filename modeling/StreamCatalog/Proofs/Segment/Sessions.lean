import StreamCatalog.Proofs.Segment.Files

/-!
# The files of a session

A writer writes segments into its directory and discards some of them again, in any order,
over a directory that may hold anything.  A *session* is a sequence of such errands, each with
the call to the file system that fails while it is done, if one does.

`Effect` says what an errand does to the directory.  A segment that is written is one more
file, under the first choice for its name that is free, with exactly its bytes; a segment that
is discarded is one file less; an errand that fails does nothing.  In no case does a draft
remain, and in no case does any other file change.  The main statement is
`effects_of_session`.

The statement about discarding rests on an invariant of sessions, `Session.Fits`: a segment
is discarded by the name at the end of its path, and every segment of the session has the path
of a plain name in the writer's directory.  The invariant also says of a whole session what
`Effect` says of one errand, that whatever is not the file of one of its segments stays.
-/

namespace StreamCatalog
namespace Segment

open Writer (FirstFree choice choiceName lastNumber)

/-- What stands in the directory under a name. -/
def Writer.content? (w : Writer) (name : String) : Option (Node (List UInt8)) :=
  w.files.bind fun files => files.find? name

/-! ## Errands -/

/-- What is asked of a writer. -/
inductive Errand where
  /-- Write a segment of a stream. -/
  | finalize (title : String) (segment : Snapshot) (trouble : Option Trouble)
  /-- Discard the segment that the finalizing errand of this number has made, counted from
  zero.  Removing its file may fail. -/
  | discard (number : Nat) (trouble : Option Error)

/-- What comes of an errand. -/
inductive Outcome where
  | finalized (result : Except Error Artifact)
  | discarded (result : Except Error Unit)
  /-- There is no such segment. -/
  | neverMade
  deriving DecidableEq

/-- A writer at work. -/
structure Session where
  writer : Writer
  /-- What has come of the finalizing errands so far. -/
  made : List (Except Error Artifact) := []

namespace Session

/-- Do an errand. -/
def serve (s : Session) : Errand → Except Breakdown (Outcome × Session)
  | .finalize title segment trouble => do
    let (result, writer) ← s.writer.attempt title segment trouble
    return (.finalized result, ⟨writer, s.made ++ [result]⟩)
  | .discard number trouble =>
    match s.made[number]? with
    | some (.ok a) =>
      match trouble with
      | some cause => .ok (.discarded (.error cause), s)
      | none => .ok (.discarded (s.writer.discard a).1, { s with writer := (s.writer.discard a).2 })
    | _ => .ok (.neverMade, s)

/-- Do several errands, one after the other. -/
def serveAll (s : Session) : List Errand → Except Breakdown (List Outcome × Session)
  | [] => .ok ([], s)
  | errand :: errands => do
    let (outcome, s) ← s.serve errand
    let (outcomes, s) ← s.serveAll errands
    return (outcome :: outcomes, s)

end Session

/-! ## What an errand does -/

/-- What an errand does to the directory. -/
inductive Effect (s t : Session) : Errand → Outcome → Prop where
  /-- There is one more file, under the first free choice. -/
  | made {title : String} {segment : Snapshot} {trouble : Option Trouble} {name : String} {n : Nat}
      {files after : Files}
      (named : fileName s.writer.template ⟨title, segment.start, s.writer.named + 1⟩ = .ok name)
      (held : s.writer.files = some files) (holds : t.writer.files = some after)
      (within : n ≤ lastNumber) (first : FirstFree files name.toList n)
      (file : after.find? (choiceName name.toList n) = some (.file segment.bytes))
      (others : ∀ other, other ≠ choiceName name.toList n → after.find? other = files.find? other) :
      Effect s t (.finalize title segment trouble) (.finalized
        (.ok ⟨Path.join s.writer.directory (choiceName name.toList n), segment.bytes.length⟩))
  /-- The segment could not be written. -/
  | failed {title : String} {segment : Snapshot} {trouble : Option Trouble} {cause : Error}
      (same : t.writer.files = s.writer.files) :
      Effect s t (.finalize title segment trouble) (.finalized (.error cause))
  /-- The file of the segment is gone. -/
  | discarded {number : Nat} {a : Artifact} {name : String} {content : List UInt8}
      {files after : Files} (made : s.made[number]? = some (.ok a))
      (path : a.path = Path.join s.writer.directory name)
      (held : s.writer.files = some files) (holds : t.writer.files = some after)
      (there : files.find? name = some (.file content)) (gone : after.find? name = none)
      (others : ∀ other, other ≠ name → after.find? other = files.find? other) :
      Effect s t (.discard number none) (.discarded (.ok ()))
  /-- The file of the segment could not be removed. -/
  | refused {number : Nat} {trouble : Option Error} {cause : Error}
      (same : t.writer.files = s.writer.files) :
      Effect s t (.discard number trouble) (.discarded (.error cause))
  /-- There is no segment to discard. -/
  | neverMade {number : Nat} {trouble : Option Error} (same : t.writer.files = s.writer.files) :
      Effect s t (.discard number trouble) .neverMade

namespace Session

/-- How a session stands that has begun with a writer. -/
structure Fits (w : Writer) (s : Session) : Prop where
  directory : s.writer.directory = w.directory
  template : s.writer.template = w.template
  /-- Every attempt uses up a name. -/
  named : s.writer.named = w.named + s.made.length
  /-- The segments belong to the directory. -/
  paths : ∀ a, .ok a ∈ s.made →
    ∃ name, Path.Plain name ∧ a.path = Path.join w.directory (String.ofList name)
  /-- What is not the file of a segment stays. -/
  others : ∀ name, (∀ a, .ok a ∈ s.made → a.path ≠ Path.join w.directory name) →
    s.writer.content? name = w.content? name

variable {w : Writer} {s t : Session}

/-- A session begins with its first errand. -/
theorem cases_of_serveAll_cons {errand : Errand} {errands : List Errand}
    {outcomes : List Outcome} (h : s.serveAll (errand :: errands) = .ok (outcomes, t)) :
    ∃ outcome u rest, s.serve errand = .ok (outcome, u) ∧ u.serveAll errands = .ok (rest, t) ∧
      outcomes = outcome :: rest := by
  rw [serveAll] at h
  obtain ⟨⟨outcome, u⟩, served, h⟩ := bind_eq_ok_iff.mp h
  obtain ⟨⟨rest, v⟩, later, h⟩ := bind_eq_ok_iff.mp h
  cases h
  exact ⟨outcome, u, rest, served, later, rfl⟩

/-- Writing a segment is all that a finalizing errand does. -/
theorem cases_of_finalize {title : String} {segment : Snapshot} {trouble : Option Trouble}
    {outcome : Outcome} (h : s.serve (.finalize title segment trouble) = .ok (outcome, t)) :
    ∃ result writer, s.writer.attempt title segment trouble = .ok (result, writer) ∧
      outcome = .finalized result ∧ t = ⟨writer, s.made ++ [result]⟩ := by
  rw [serve] at h
  obtain ⟨⟨result, writer⟩, attempted, h⟩ := bind_eq_ok_iff.mp h
  cases h
  exact ⟨result, writer, attempted, rfl, rfl⟩

/-- **A finalizing errand makes one file under the first free choice, or does nothing.** -/
theorem effect_of_finalize {title : String} {segment : Snapshot} {trouble : Option Trouble}
    {outcome : Outcome} (fits : s.Fits w)
    (h : s.serve (.finalize title segment trouble) = .ok (outcome, t)) :
    Effect s t (.finalize title segment trouble) outcome ∧ t.Fits w := by
  obtain ⟨result, writer, attempted, rfl, rfl⟩ := cases_of_finalize h
  obtain ⟨name, named, rest, did⟩ := Writer.cases_of_attempt attempted
  have counted : writer.named = w.named + (s.made ++ [result]).length := by
    rw [rest, List.length_append, ← Nat.add_assoc, ← fits.named]
    rfl
  have directory : writer.directory = w.directory := by
    rw [rest]
    exact fits.directory
  have template : writer.template = w.template := by
    rw [rest]
    exact fits.template
  rcases did with ⟨cause, rfl, same⟩ | ⟨files, n, held, within, first, rfl, after⟩
  · refine ⟨.failed same, directory, template, counted, ?_, ?_⟩
    · intro a member
      rcases List.mem_append.mp member with before | here
      · exact fits.paths a before
      · exact nomatch List.mem_singleton.mp here
    · intro other apart
      rw [Writer.content?, same]
      exact fits.others other fun a before => apart a (List.mem_append_left _ before)
  · refine ⟨.made named held after within first ?_ ?_, directory, template, counted, ?_, ?_⟩
    · rw [Directory.find?_put, if_pos rfl]
    · intro other apart
      rw [Directory.find?_put, if_neg apart]
    · intro a member
      rcases List.mem_append.mp member with before | here
      · exact fits.paths a before
      · cases List.mem_singleton.mp here
        exact ⟨choice name.toList n, Writer.plain_choice named n, by rw [fits.directory]; rfl⟩
    · intro other apart
      have elsewhere : other ≠ choiceName name.toList n := by
        rintro rfl
        refine apart _ (List.mem_append_right _ (List.mem_singleton_self _)) ?_
        rw [fits.directory]
      rw [Writer.content?, after, Option.bind_some, Directory.find?_put, if_neg elsewhere,
        ← fits.others other fun a before => apart a (List.mem_append_left _ before),
        Writer.content?, held, Option.bind_some]

/-- **A discarding errand removes the file of its segment, or does nothing.** -/
theorem effect_of_discard {number : Nat} {trouble : Option Error} {outcome : Outcome}
    (fits : s.Fits w) (h : s.serve (.discard number trouble) = .ok (outcome, t)) :
    Effect s t (.discard number trouble) outcome ∧ t.Fits w := by
  rw [serve] at h
  split at h
  · rename_i a made
    split at h
    · cases h
      exact ⟨.refused rfl, fits⟩
    · have member : .ok a ∈ s.made := List.mem_of_getElem? made
      obtain ⟨name, plain, path⟩ := fits.paths a member
      have located : a.path = Path.join s.writer.directory (String.ofList name) := by
        rw [fits.directory, path]
      rw [Writer.discard_of_path plain located] at h
      rcases removed : s.writer.remove (String.ofList name) with ⟨result, writer⟩
      rw [removed] at h
      cases h
      rcases Writer.cases_of_remove removed with
        ⟨cause, rfl, rfl⟩ | ⟨files, content, held, there, rfl, rfl⟩
      · exact ⟨.refused rfl, fits⟩
      · refine ⟨.discarded made located held rfl there ?_ ?_, { fits with others := ?_ }⟩
        · rw [Directory.find?_erase, if_pos rfl]
        · intro other apart
          rw [Directory.find?_erase, if_neg apart]
        · intro other apart
          have elsewhere : other ≠ String.ofList name := by
            rintro rfl
            exact apart a member path
          rw [← fits.others other apart, Writer.content?, Writer.content?, held, Option.bind_some,
            Option.bind_some, Directory.find?_erase, if_neg elsewhere]
  · cases h
    exact ⟨.neverMade rfl, fits⟩

/-- **Every errand has its effect**, and the session still fits. -/
theorem effect_of_serve {errand : Errand} {outcome : Outcome} (fits : s.Fits w)
    (served : s.serve errand = .ok (outcome, t)) : Effect s t errand outcome ∧ t.Fits w := by
  cases errand with
  | finalize title segment trouble => exact effect_of_finalize fits served
  | discard number trouble => exact effect_of_discard fits served

/-- **After any errands, the session fits.** -/
theorem Fits.serveAll {errands : List Errand} {outcomes : List Outcome} (fits : s.Fits w)
    (served : s.serveAll errands = .ok (outcomes, t)) : t.Fits w := by
  induction errands generalizing s outcomes with
  | nil =>
    cases served
    exact fits
  | cons errand errands ih =>
    obtain ⟨outcome, u, rest, first, later, -⟩ := cases_of_serveAll_cons served
    exact ih (effect_of_serve fits first).2 later

/-- A session that is about to begin fits. -/
theorem fits_start (w : Writer) : Fits w ⟨w, []⟩ where
  directory := rfl
  template := rfl
  named := rfl
  paths := fun _ member => absurd member List.not_mem_nil
  others := fun _ _ => rfl

/-- As long as no call fails and no name is too long, a segment is written if any choice is
free. -/
theorem serve_finalize_of_free {title : String} {segment : Snapshot} {files : Files}
    {name : String} (held : s.writer.files = some files)
    (named : fileName s.writer.template ⟨title, segment.start, s.writer.named + 1⟩ = .ok name)
    (free : ∃ n, n ≤ lastNumber ∧ files.find? (choiceName name.toList n) = none)
    (short : ∀ n, n ≤ lastNumber →
      (choiceName name.toList n).utf8ByteSize ≤ Directory.longestName) :
    ∃ a t, s.serve (.finalize title segment none) = .ok (.finalized (.ok a), t) := by
  obtain ⟨n, within, first⟩ := Writer.exists_firstFree free
  have attempted := Writer.attempt_of_firstFree held named within first
    fun m upTo => short m (Nat.le_trans upTo within)
  rw [serve, attempted]
  exact ⟨_, _, rfl⟩

/-- A segment whose file is there is discarded if no call fails. -/
theorem serve_discard_of_file {number : Nat} {a : Artifact} {name : String} {files : Files}
    {content : List UInt8} (fits : s.Fits w) (made : s.made[number]? = some (.ok a))
    (path : a.path = Path.join w.directory name) (held : s.writer.files = some files)
    (there : files.find? name = some (.file content)) :
    ∃ t, s.serve (.discard number none) = .ok (.discarded (.ok ()), t) := by
  obtain ⟨chars, plain, located⟩ := fits.paths a (List.mem_of_getElem? made)
  obtain rfl : name = String.ofList chars := Path.join_injective (path.symm.trans located)
  rw [← fits.directory] at located
  rw [serve, made]
  dsimp only
  rw [Writer.discard_of_path plain located, Writer.remove_of_file held there]
  exact ⟨_, rfl⟩

end Session

/-- **What a writer does to its directory.**  Over any directory, after any errands, whatever has
failed on the way:

* each further errand has its `Effect` and no other one, so that a segment that is written is
  exactly one more file, under the first free choice for its name, one that could not be written
  is none, and neither leaves a draft;
* whatever is not the file of a segment of the session is as it was in the beginning;
* a segment is written if a choice is free, no name is too long and no call fails, and discarded
  if its file is there and no call fails;
* all choices for one name are different. -/
theorem effects_of_session {w : Writer} {errands : List Errand} {outcomes : List Outcome}
    {s : Session} (served : Session.serveAll ⟨w, []⟩ errands = .ok (outcomes, s)) :
    s.Fits w ∧
    (∀ errand outcome t, s.serve errand = .ok (outcome, t) → Effect s t errand outcome) ∧
    (∀ title segment files name, s.writer.files = some files →
      fileName w.template ⟨title, segment.start, s.writer.named + 1⟩ = .ok name →
      (∃ n, n ≤ lastNumber ∧ files.find? (choiceName name.toList n) = none) →
      (∀ n, n ≤ lastNumber →
        (choiceName name.toList n).utf8ByteSize ≤ Directory.longestName) →
      ∃ a t, s.serve (.finalize title segment none) = .ok (.finalized (.ok a), t)) ∧
    (∀ number a name files content, s.made[number]? = some (.ok a) →
      a.path = Path.join w.directory name → s.writer.files = some files →
      files.find? name = some (.file content) →
      ∃ t, s.serve (.discard number none) = .ok (.discarded (.ok ()), t)) ∧
    ∀ (name : List Char) (m n : Nat), m ≠ n → choiceName name m ≠ choiceName name n := by
  have fits : s.Fits w := (Session.fits_start w).serveAll served
  refine ⟨fits, fun _ _ _ next => (Session.effect_of_serve fits next).1, ?_, ?_, ?_⟩
  · intro title segment files name held named free short
    rw [← fits.template] at named
    exact Session.serve_finalize_of_free held named free short
  · intro number a name files content made path held there
    exact Session.serve_discard_of_file fits made path held there
  · exact fun name m n apart same => apart (Writer.choiceName_injective name same)

/-- A directory in which a segment's name is taken by a file and the next choice by a folder. -/
def quay : Writer :=
  { directory := "segments", template := "seg"
    files := some ⟨[("seg.ts", .file [0]), ("seg-1.ts", .folder)]⟩ }

/-- A segment of some bytes. -/
def crate (bytes : List UInt8) : Snapshot := ⟨bytes, bytes.length, 0, .epoch, .epoch⟩

/-- Two segments are written, two attempts fail with a draft in the directory, and the first
segment is discarded twice. -/
def quayErrands : List Errand :=
  [.finalize "quay" (crate [1, 2]) none, .finalize "quay" (crate [3]) (some (.filling "full" [3])),
    .finalize "quay" (crate [4]) (some (.moving 3 "lost")), .finalize "quay" (crate [5]) none,
    .discard 0 none, .discard 1 none, .discard 0 none]

theorem effects_of_session_quay :
    ∃ outcomes s, Session.serveAll ⟨quay, []⟩ quayErrands = .ok (outcomes, s) ∧
      outcomes = [.finalized (.ok ⟨"segments/seg-2.ts", 2⟩), .finalized (.error (.io "full")),
        .finalized (.error (.io "lost")), .finalized (.ok ⟨"segments/seg-3.ts", 1⟩),
        .discarded (.ok ()), .neverMade,
        .discarded (.error (.io "No such file or directory (os error 2)"))] ∧
      s.writer.files = some ⟨[("seg-3.ts", .file [5]), ("seg.ts", .file [0]),
        ("seg-1.ts", .folder)]⟩ ∧
      s.Fits quay ∧
      ∀ errand outcome t, s.serve errand = .ok (outcome, t) → Effect s t errand outcome := by
  have checked : ((Session.serveAll ⟨quay, []⟩ quayErrands).toOption.any fun x =>
      decide (x.1 = [.finalized (.ok ⟨"segments/seg-2.ts", 2⟩), .finalized (.error (.io "full")),
        .finalized (.error (.io "lost")), .finalized (.ok ⟨"segments/seg-3.ts", 1⟩),
        .discarded (.ok ()), .neverMade,
        .discarded (.error (.io "No such file or directory (os error 2)"))]) &&
      decide (x.2.writer.files = some ⟨[("seg-3.ts", .file [5]), ("seg.ts", .file [0]),
        ("seg-1.ts", .folder)]⟩)) = true := by decide +kernel
  rcases served : Session.serveAll ⟨quay, []⟩ quayErrands with _ | ⟨outcomes, s⟩
  · rw [served] at checked
    exact nomatch checked
  · rw [served] at checked
    have both := (Bool.and_eq_true_iff.mp checked)
    obtain ⟨fits, effects, -⟩ := effects_of_session served
    exact ⟨outcomes, s, rfl, of_decide_eq_true both.1, of_decide_eq_true both.2, fits, effects⟩

end Segment
end StreamCatalog
