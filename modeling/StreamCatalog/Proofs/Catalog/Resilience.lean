import StreamCatalog.Proofs.Catalog.Interchange

/-!
# Failing calls to the file system

A record in a file is kept by several calls to the file system, and each of them may fail:
asking for the file, writing the draft, moving it into place, reading the file.  A draft that
fails half-way may be left with anything in it.

None of this can be seen.  What a failed attempt leaves is a directory that differs from the
one before in drafts at most (`alike_of_isFailure`), and directories that differ in nothing else
answer everything alike, whatever fails in them later, and stay alike (`Alike.attempt`).  So a
failed attempt could as well not have been made: striking all failed attempts from a history
leaves the answers to the others as they are (`attemptAll_worked`).

## Why drafts do not matter

No file has the name of a draft, so a draft is never looked at.  It is written anew before it is
moved, so what an earlier attempt has left in it never gets into a file.  Only a folder in the
place of a draft would be noticed, and no failing call makes one.
-/

namespace StreamCatalog

namespace Directory

variable {α : Type} {d e : Directory α}

/-- Whether a file can be written, and why not, depends on its name and on whether that is the
name of a folder, and on nothing else. -/
theorem write_congr {name : String}
    (same : e.find? name = some .folder ↔ d.find? name = some .folder) (content : α) :
    (∃ fault, d.write name content = .error fault ∧ e.write name content = .error fault) ∨
      ∃ d' e', d.write name content = .ok d' ∧ e.write name content = .ok e' := by
  by_cases long : longestName < name.utf8ByteSize
  · exact Or.inl ⟨.nameTooLong, if_pos long, if_pos long⟩
  · by_cases folder : d.find? name = some .folder
    · refine Or.inl ⟨.isFolder, ?_, ?_⟩
      · rw [write, if_neg long, folder]
      · rw [write, if_neg long, same.mpr folder]
    · have fits : name.utf8ByteSize ≤ longestName := Nat.not_lt.mp long
      obtain ⟨d', written⟩ : ∃ d', d.write name content = .ok d' := exists_write fits folder
      obtain ⟨e', too⟩ : ∃ e', e.write name content = .ok e' :=
        exists_write fits (mt same.mp folder)
      exact Or.inr ⟨d', e', written, too⟩

/-- So it is with moving a file. -/
theorem rename_congr {old new : String} {content : α}
    (here : d.find? old = some (.file content)) (there : e.find? old = some (.file content))
    (same : e.find? new = some .folder ↔ d.find? new = some .folder) :
    (∃ fault, d.rename old new = .error fault ∧ e.rename old new = .error fault) ∨
      ∃ d' e', d.rename old new = .ok d' ∧ e.rename old new = .ok e' := by
  simp only [rename, read, here, there]
  refine write_congr ?_ content
  rw [find?_erase, find?_erase]
  split
  · exact Iff.rfl
  · exact same

end Directory

namespace Catalog

/-! ## Attempts -/

/-- A query, and the call that fails while it is answered, if one does. -/
structure Attempt where
  query : Query
  trouble : Option Trouble

/-- Is the answer that the query has failed? -/
def Answer.isFailure : Answer → Bool
  | .done (.error _) => true
  | .found (.error _) => true
  | _ => false

/-- The record that is to be kept. -/
def Query.record? : Query → Option Record
  | .create r => some r
  | .update r => some r
  | .get _ => none

namespace RecordFolder

/-- Answer a query while a call fails. -/
def attempt (d : RecordFolder) (a : Attempt) : Answer × RecordFolder :=
  match a.query with
  | .create r => (.done (create d r a.trouble).1, (create d r a.trouble).2)
  | .update r => (.done (update d r a.trouble).1, (update d r a.trouble).2)
  | .get id => (.found (get d id a.trouble), d)

/-- Answer several queries, one after the other. -/
def attemptAll (d : RecordFolder) : List Attempt → List Answer × RecordFolder
  | [] => ([], d)
  | a :: as =>
    ((d.attempt a).1 :: ((d.attempt a).2.attemptAll as).1, ((d.attempt a).2.attemptAll as).2)

/-- The attempts that did not fail. -/
def worked (d : RecordFolder) (as : List Attempt) : List Attempt :=
  ((as.zip (d.attemptAll as).1).filter fun x => !x.2.isFailure).map Prod.fst

variable {d e : RecordFolder}

/-- As long as no call fails, this is what a store does. -/
theorem attempt_untroubled (d : RecordFolder) (q : Query) :
    (Store.files d).serve q = ((d.attempt ⟨q, none⟩).1, .files (d.attempt ⟨q, none⟩).2) := by
  cases q <;> rfl

/-! ## What an attempt leaves -/

/-- **What an attempt does.**  It fails and leaves nothing but a draft, or it does what it was
asked for and nothing else. -/
theorem cases_of_attempt (d : RecordFolder) (a : Attempt) :
    ((d.attempt a).1.isFailure = true ∧ Alike d (d.attempt a).2) ∨
      ((d.attempt a).1.isFailure = false ∧ a.query.record? = none ∧ (d.attempt a).2 = d) ∨
      ((d.attempt a).1.isFailure = false ∧
        ∃ r, a.query.record? = some r ∧ Saved r d (d.attempt a).2) := by
  obtain ⟨query, trouble⟩ := a
  cases query with
  | create r =>
    rcases made : create d r trouble with ⟨result, d'⟩
    simp only [attempt, made]
    rcases cases_of_create made with ⟨_, rfl, alike⟩ | ⟨rfl, -, saved⟩
    · exact Or.inl ⟨rfl, alike⟩
    · exact Or.inr (Or.inr ⟨rfl, r, rfl, saved⟩)
  | update r =>
    rcases made : update d r trouble with ⟨result, d'⟩
    simp only [attempt, made]
    rcases cases_of_update made with ⟨_, rfl, alike⟩ | ⟨rfl, -, saved⟩
    · exact Or.inl ⟨rfl, alike⟩
    · exact Or.inr (Or.inr ⟨rfl, r, rfl, saved⟩)
  | get id =>
    have answer : (d.attempt ⟨.get id, trouble⟩).1 = .found (get d id trouble) := rfl
    rw [answer]
    cases get d id trouble with
    | error cause => exact Or.inl ⟨rfl, .refl d⟩
    | ok result => exact Or.inr (Or.inl ⟨rfl, rfl, rfl⟩)

/-- A failed attempt leaves nothing but a draft. -/
theorem alike_of_isFailure {a : Attempt} (failed : (d.attempt a).1.isFailure = true) :
    Alike d (d.attempt a).2 := by
  rcases d.cases_of_attempt a with
    ⟨-, alike⟩ | ⟨worked, -⟩ | ⟨worked, -⟩
  · exact alike
  · exact absurd (worked.symm.trans failed) Bool.false_ne_true
  · exact absurd (worked.symm.trans failed) Bool.false_ne_true

/-- A record that an attempt keeps is found, and all others are found as before. -/
theorem get_attempt {a : Attempt} {r : Record} (asked : a.query.record? = some r)
    (worked : (d.attempt a).1.isFailure = false) (id : Id) :
    get (d.attempt a).2 id none = if id = r.id then .ok (some r) else get d id none := by
  rcases d.cases_of_attempt a with
    ⟨failed, -⟩ | ⟨-, nothing, -⟩ | ⟨-, q, here, saved⟩
  · exact absurd (worked.symm.trans failed) Bool.false_ne_true
  · exact absurd (nothing.symm.trans asked) (Option.some_ne_none r).symm
  · rw [Option.some.inj (asked.symm.trans here)]
    exact saved.get id

/-! ## Directories that are alike -/

namespace Alike

variable (alike : Alike d e)
include alike

theorem contains (id : Id) :
    Directory.contains e (fileName id) = Directory.contains d (fileName id) := by
  rw [Directory.contains, alike.file, Directory.contains]

/-- Moving a draft into place works or fails alike. -/
theorem publish {r : Record} (content : List UInt8) (t : Option Trouble)
    (here : Directory.find? d (draftName r.id) = some (.file content))
    (there : Directory.find? e (draftName r.id) = some (.file content)) :
    (publish e r.id t).1 = (publish d r.id t).1 := by
  have same : Directory.find? e (fileName r.id) = some .folder ↔
      Directory.find? d (fileName r.id) = some .folder := by
    rw [alike.file]
  unfold RecordFolder.publish
  split
  · rfl
  · rcases Directory.rename_congr here there same with ⟨_, moved, too⟩ | ⟨_, _, moved, too⟩
    · rw [moved, too]
    · rw [moved, too]

/-- Saving a record works or fails alike. -/
theorem save (r : Record) (t : Option Trouble) : (save e r t).1 = (save d r t).1 := by
  unfold RecordFolder.save
  split
  · rfl
  · rcases Directory.write_congr (alike.folders r.id) r.bytes with
      ⟨_, written, too⟩ | ⟨d', e', written, too⟩
    · rw [written, too]
    · rw [written, too]
      have drafted : Alike d' e' :=
        ((Alike.of_draft written).symm.trans alike).trans (.of_draft too)
      refine drafted.publish r.bytes t ?_ ?_
      · rw [Directory.find?_of_write written, if_pos rfl]
      · rw [Directory.find?_of_write too, if_pos rfl]

/-- Creating a record works or fails alike. -/
theorem create (r : Record) (t : Option Trouble) : (create e r t).1 = (create d r t).1 := by
  unfold RecordFolder.create
  split
  · rfl
  · rw [alike.contains]
    split
    · rfl
    · exact alike.save r t

/-- Updating a record works or fails alike. -/
theorem update (r : Record) (t : Option Trouble) : (update e r t).1 = (update d r t).1 := by
  unfold RecordFolder.update
  split
  · rfl
  · rw [alike.contains]
    split
    · exact alike.save r t
    · rfl

/-- Looking up a record works or fails alike. -/
theorem get_troubled (id : Id) (t : Option Trouble) :
    RecordFolder.get e id t = RecordFolder.get d id t := by
  unfold RecordFolder.get
  rw [Directory.read, Directory.read, alike.file]

theorem attempt_fst (a : Attempt) : (e.attempt a).1 = (d.attempt a).1 := by
  obtain ⟨query, trouble⟩ := a
  cases query with
  | create r => exact congrArg Answer.done (alike.create r trouble)
  | update r => exact congrArg Answer.done (alike.update r trouble)
  | get id => exact congrArg Answer.found (alike.get_troubled id trouble)

end Alike

/-- Saving the same record keeps directories alike. -/
theorem Alike.of_saved {d' e' : RecordFolder} {r : Record} (alike : Alike d e) (here : Saved r d d')
    (there : Saved r e e') : Alike d' e' where
  others name apart := by
    rw [here, there, alike.others name apart]
  folders id := by
    have apart : draftName id ≠ fileName r.id := (fileName_ne_draftName r.id id).symm
    rewrite [here, there, if_neg apart, if_neg apart]
    split
    · exact Iff.rfl
    · exact alike.folders id

/-- **Directories that are alike answer alike and stay alike**, whatever call fails. -/
theorem Alike.attempt (alike : Alike d e) (a : Attempt) :
    (e.attempt a).1 = (d.attempt a).1 ∧ Alike (d.attempt a).2 (e.attempt a).2 := by
  have answer : (e.attempt a).1 = (d.attempt a).1 := alike.attempt_fst a
  refine ⟨answer, ?_⟩
  rcases d.cases_of_attempt a with
    ⟨failed, left⟩ | ⟨worked, nothing, same⟩ | ⟨worked, r, asked, saved⟩
  · have there : Alike e (e.attempt a).2 := alike_of_isFailure (answer ▸ failed)
    exact (left.symm.trans alike).trans there
  · rcases e.cases_of_attempt a with
      ⟨failed, -⟩ | ⟨-, -, too⟩ | ⟨-, r, asked, -⟩
    · exact absurd (worked.symm.trans (answer ▸ failed)) Bool.false_ne_true
    · rw [same, too]
      exact alike
    · exact absurd (nothing.symm.trans asked) (Option.some_ne_none r).symm
  · rcases e.cases_of_attempt a with
      ⟨failed, -⟩ | ⟨-, nothing, -⟩ | ⟨-, q, too, there⟩
    · exact absurd (worked.symm.trans (answer ▸ failed)) Bool.false_ne_true
    · exact absurd (nothing.symm.trans asked) (Option.some_ne_none r).symm
    · rw [← Option.some.inj (asked.symm.trans too)] at there
      exact alike.of_saved saved there

/-- So it is with any number of attempts. -/
theorem Alike.attemptAll (alike : Alike d e) (as : List Attempt) :
    (e.attemptAll as).1 = (d.attemptAll as).1 ∧ Alike (d.attemptAll as).2 (e.attemptAll as).2 := by
  induction as generalizing d e with
  | nil => exact ⟨rfl, alike⟩
  | cons a as ih =>
    obtain ⟨answer, again⟩ := alike.attempt a
    obtain ⟨answers, still⟩ := ih again
    exact ⟨congrArg₂ List.cons answer answers, still⟩

/-! ## Histories -/

theorem worked_cons_of_failed {a : Attempt} (failed : (d.attempt a).1.isFailure = true)
    (as : List Attempt) : d.worked (a :: as) = (d.attempt a).2.worked as := by
  simp [worked, attemptAll, failed]

theorem worked_cons_of_worked {a : Attempt} (works : (d.attempt a).1.isFailure = false)
    (as : List Attempt) : d.worked (a :: as) = a :: (d.attempt a).2.worked as := by
  simp [worked, attemptAll, works]

/-- **Failed attempts could as well not have been made.**  The others are answered as they
were, and nothing but drafts tells the directories apart in the end. -/
theorem attemptAll_worked (d : RecordFolder) (as : List Attempt) :
    (d.attemptAll (d.worked as)).1 = (d.attemptAll as).1.filter (fun answer => !answer.isFailure) ∧
      Alike (d.attemptAll as).2 (d.attemptAll (d.worked as)).2 := by
  induction as generalizing d with
  | nil => exact ⟨rfl, .refl d⟩
  | cons a as ih =>
    obtain ⟨answers, alike⟩ := ih (d.attempt a).2
    cases failed : (d.attempt a).1.isFailure with
    | true =>
      -- the rest starts from a directory that only has another draft
      have same := (alike_of_isFailure failed).symm.attemptAll ((d.attempt a).2.worked as)
      rw [worked_cons_of_failed failed]
      refine ⟨?_, alike.trans same.2⟩
      rw [same.1, answers, attemptAll, List.filter_cons_of_neg (by simpa using failed)]
    | false =>
      rw [worked_cons_of_worked failed]
      refine ⟨?_, alike⟩
      rw [attemptAll, attemptAll, answers, List.filter_cons_of_pos (by simpa using failed)]

/-- **Whatever calls fail, records are kept as a whole or not at all.**  Behind every history of
attempts, one more that fails leaves what is found under every identifier as it is, and one that
keeps a record changes that under its identifier and no other.  What failed attempts have left
makes no difference to any later one. -/
theorem resilient_attemptAll (d : RecordFolder) (history : List Attempt) :
    let s := (d.attemptAll history).2
    (∀ a, (s.attempt a).1.isFailure = true →
      ∀ id, get (s.attempt a).2 id none = get s id none) ∧
    (∀ a r, a.query.record? = some r → (s.attempt a).1.isFailure = false →
      ∀ id, get (s.attempt a).2 id none = if id = r.id then .ok (some r) else get s id none) ∧
    (∀ e, Alike s e → ∀ later, (e.attemptAll later).1 = (s.attemptAll later).1 ∧
      ∀ id, get (e.attemptAll later).2 id none = get (s.attemptAll later).2 id none) ∧
    (d.attemptAll (d.worked history)).1 =
        (d.attemptAll history).1.filter (fun answer => !answer.isFailure) ∧
      Alike s (d.attemptAll (d.worked history)).2 := by
  refine ⟨?_, ?_, ?_, attemptAll_worked d history⟩
  · intro a failed id
    exact (alike_of_isFailure failed).get id
  · intro a r asked worked id
    exact get_attempt asked worked id
  · intro e alike later
    obtain ⟨answers, still⟩ := alike.attemptAll later
    exact ⟨answers, still.get⟩

/-- A record to keep. -/
def buoy : Record := (Record.blank ⟨7, by decide⟩).set Name.title (.text "buoy")

/-- The first draft is torn, the second one gets into place. -/
def buoyHistory : List Attempt :=
  [⟨.create buoy, some (.writing "disk full" (some [123, 34]))⟩, ⟨.create buoy, none⟩]

/-- A changed record that cannot be moved into place. -/
def paintBuoy : Attempt :=
  ⟨.update (buoy.set Name.title (.text "red buoy")), some (.moving "read-only file system")⟩

theorem resilient_attemptAll_buoy :
    (attemptAll {} buoyHistory).1.map Answer.isFailure = [true, false] ∧
      let s := (attemptAll {} buoyHistory).2
      (s.attempt paintBuoy).1.isFailure = true ∧ get s buoy.id none = .ok (some buoy) ∧
        ∀ id, get (s.attempt paintBuoy).2 id none = get s id none := by
  have answers : (attemptAll {} buoyHistory).1.map Answer.isFailure = [true, false] := by
    decide +kernel
  have fails : ((attemptAll {} buoyHistory).2.attempt paintBuoy).1.isFailure = true := by
    decide +kernel
  have works : ((attemptAll {} (buoyHistory.take 1)).2.attempt ⟨.create buoy, none⟩).1.isFailure =
      false := by decide +kernel
  -- behind the torn draft, then behind the whole history
  obtain ⟨-, kept, -⟩ := resilient_attemptAll {} (buoyHistory.take 1)
  obtain ⟨failed, -⟩ := resilient_attemptAll {} buoyHistory
  refine ⟨answers, fails, ?_, failed paintBuoy fails⟩
  exact (kept ⟨.create buoy, none⟩ buoy rfl works buoy.id).trans (if_pos rfl)

end RecordFolder
end Catalog
end StreamCatalog
