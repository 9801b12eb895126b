import Mathlib.Data.String.Basic
import StreamCatalog.Proofs.Catalog.Stores

/-!
# Either store will do

Whoever keeps records asks a store to create, to update and to look up, and sees nothing of
it but its answers.  The answers do not tell the two stores apart: an empty directory gives
the same ones as an empty memory, failures and their texts included, however long it is
asked (`answers_files`).

## Mirrors

A directory *mirrors* a list of records if the file of every identifier holds the text of the
record that the list has for it, and is missing if the list has none (`Mirrors`).  Every
query keeps this up and is answered alike on both sides (`Mirrors.serve`).  A look-up needs
that records are read back from their texts, and that a saved record disturbs no other file
needs that identifiers are read back from theirs; both come from `Stores`.

## Saving succeeds

What is left is that saving a record cannot fail in a mirror.  Only two things could stop it:
a folder under one of its two names, and a name that is too long.  The texts of identifiers
all have the same length, so no name is.
-/

namespace StreamCatalog

/-- A character takes at most four bytes. -/
theorem Text.utf8ByteSize_le (s : String) : s.utf8ByteSize ≤ 4 * s.length := by
  have general (cs : List Char) : String.utf8Len cs ≤ 4 * cs.length := by
    induction cs with
    | nil => exact Nat.le_refl 0
    | cons c cs ih =>
      have size : c.utf8Size ≤ 4 := c.utf8Size_le_four
      rw [String.utf8Len_cons, List.length_cons]
      omega
  have bytes : s.utf8ByteSize = String.utf8Len s.toList := by
    rw [← String.utf8ByteSize_ofList, String.ofList_toList]
  rw [bytes, ← String.length_toList]
  exact general s.toList

namespace Directory

variable {α : Type} {d : Directory α} {content : α}

/-- A file can be written under a name that is short enough and is not that of a folder. -/
theorem exists_write {name : String} (fits : name.utf8ByteSize ≤ longestName)
    (noFolder : d.find? name ≠ some .folder) : ∃ d', d.write name content = .ok d' := by
  rw [write, if_neg (Nat.not_lt.mpr fits)]
  split
  · rename_i folder
    exact absurd folder noFolder
  · exact ⟨_, rfl⟩

/-- A file can be moved to where one could be written. -/
theorem exists_rename {old new : String} (found : d.find? old = some (.file content))
    (fits : new.utf8ByteSize ≤ longestName) (noFolder : d.find? new ≠ some .folder) :
    ∃ d', d.rename old new = .ok d' := by
  have gone : (d.erase old).find? new ≠ some .folder := by
    rw [find?_erase]
    split
    · exact (Option.some_ne_none _).symm
    · exact noFolder
  simp only [rename, read, found]
  exact exists_write fits gone

end Directory

namespace Catalog

/-! ## Saving -/

namespace RecordFolder

variable {d : RecordFolder}

theorem fileName_fits (i : Id) : (fileName i).utf8ByteSize ≤ Directory.longestName := by
  refine Nat.le_trans (Text.utf8ByteSize_le _) ?_
  rw [fileName, String.length_append, length_text]
  decide

theorem draftName_fits (i : Id) : (draftName i).utf8ByteSize ≤ Directory.longestName := by
  refine Nat.le_trans (Text.utf8ByteSize_le _) ?_
  rw [draftName, String.length_append, length_text]
  decide

/-- **Saving succeeds** where no folder is in its way. -/
theorem exists_save (r : Record) (noDraft : Directory.find? d (draftName r.id) ≠ some .folder)
    (noFile : Directory.find? d (fileName r.id) ≠ some .folder) :
    ∃ d', save d r none = (.ok (), d') ∧ Saved r d d' := by
  obtain ⟨t, drafted⟩ : ∃ t, Directory.write d (draftName r.id) r.bytes = .ok t :=
    Directory.exists_write (draftName_fits r.id) noDraft
  have draft : Directory.find? t (draftName r.id) = some (.file r.bytes) := by
    rw [Directory.find?_of_write drafted, if_pos rfl]
  have still : Directory.find? t (fileName r.id) ≠ some .folder := by
    rw [(Alike.of_draft drafted).file]
    exact noFile
  obtain ⟨d', moved⟩ := Directory.exists_rename draft (fileName_fits r.id) still
  have done : save d r none = (.ok (), d') := by
    simp only [save, drafted, publish, moved]
  refine ⟨d', done, ?_⟩
  rcases cases_of_save done with ⟨_, failed, -⟩ | ⟨-, saved⟩
  · exact nomatch failed
  · exact saved

end RecordFolder

namespace RecordList

/-- A record that is replaced is found under its identifier, and all others stay. -/
theorem get?_map {rs : RecordList} {r : Record} (taken : (get? rs r.id).isSome = true) (id : Id) :
    get? (rs.map fun q => if q.id = r.id then r else q) id =
      if id = r.id then some r else get? rs id := by
  by_cases same : id = r.id
  · rw [if_pos same, same, get?_map_self taken]
  · rw [if_neg same, get?_map_of_ne same]

/-- What is found under an identifier has it. -/
theorem id_of_get? {rs : RecordList} {r : Record} {id : Id} (found : get? rs id = some r) :
    r.id = id := by
  exact of_decide_eq_true (List.find?_some (p := fun q : Record => decide (q.id = id)) found)

end RecordList

/-! ## Mirrors -/

/-- The directory holds what is in the memory. -/
structure Mirrors (d : RecordFolder) (rs : RecordList) : Prop where
  file : ∀ id, Directory.find? d (RecordFolder.fileName id) =
    (RecordList.get? rs id).map fun r => .file r.bytes
  /-- Drafts may be left, but no folder is in the way of one. -/
  draft : ∀ id, Directory.find? d (RecordFolder.draftName id) ≠ some .folder

namespace Mirrors

variable {d : RecordFolder} {rs rs' : RecordList}

theorem empty : Mirrors {} [] where
  file _ := rfl
  draft _ := by simp

theorem contains (mirrors : Mirrors d rs) (id : Id) :
    Directory.contains d (RecordFolder.fileName id) = (RecordList.get? rs id).isSome := by
  rw [Directory.contains, mirrors.file, Option.isSome_map]

/-- A record is found in its file. -/
theorem get (mirrors : Mirrors d rs) (id : Id) :
    RecordFolder.get d id none = .ok (RecordList.get? rs id) := by
  have file := mirrors.file id
  cases found : RecordList.get? rs id with
  | none =>
    rw [RecordFolder.get_eq_none_iff, mirrors.contains, found]
    rfl
  | some r =>
    rw [found, ← RecordList.id_of_get? found] at file
    rw [← RecordList.id_of_get? found]
    exact RecordFolder.get_of_file file

/-- A record that is saved in the directory is mirrored once it is in the memory too. -/
theorem save (mirrors : Mirrors d rs) (r : Record)
    (kept : ∀ id, RecordList.get? rs' id = if id = r.id then some r else RecordList.get? rs id) :
    ∃ d', RecordFolder.save d r none = (.ok (), d') ∧ Mirrors d' rs' := by
  have noFile : Directory.find? d (RecordFolder.fileName r.id) ≠ some .folder := by
    rw [mirrors.file]
    cases RecordList.get? rs r.id <;> simp
  obtain ⟨d', done, saved⟩ := RecordFolder.exists_save r (mirrors.draft r.id) noFile
  refine ⟨d', done, { file := ?_, draft := ?_ }⟩
  · intro id
    rw [saved, kept, if_neg (RecordFolder.fileName_ne_draftName id r.id)]
    by_cases same : id = r.id
    · rw [if_pos same, if_pos (congrArg _ same)]
      rfl
    · rw [if_neg same, if_neg fun eq => same (RecordFolder.fileName_injective eq), mirrors.file]
  · intro id
    rw [saved, if_neg (RecordFolder.fileName_ne_draftName r.id id).symm]
    split
    · exact (Option.some_ne_none _).symm
    · exact mirrors.draft id

/-- Creating a record succeeds or fails alike on both sides. -/
theorem create (mirrors : Mirrors d rs) (r : Record) :
    ∃ d', RecordFolder.create d r none = ((RecordList.create rs r).1, d') ∧
      Mirrors d' (RecordList.create rs r).2 := by
  simp only [RecordFolder.create, RecordList.create, mirrors.contains]
  by_cases taken : (RecordList.get? rs r.id).isSome
  · simp only [if_pos taken]
    exact ⟨d, rfl, mirrors⟩
  · simp only [if_neg taken]
    exact mirrors.save r (RecordList.get?_concat (Option.not_isSome_iff_eq_none.mp taken))

/-- Updating a record succeeds or fails alike on both sides. -/
theorem update (mirrors : Mirrors d rs) (r : Record) :
    ∃ d', RecordFolder.update d r none = ((RecordList.update rs r).1, d') ∧
      Mirrors d' (RecordList.update rs r).2 := by
  simp only [RecordFolder.update, RecordList.update, mirrors.contains]
  by_cases taken : (RecordList.get? rs r.id).isSome
  · simp only [if_pos taken]
    exact mirrors.save r (RecordList.get?_map taken)
  · simp only [if_neg taken]
    exact ⟨d, rfl, mirrors⟩

end Mirrors

/-! ## Queries and answers -/

/-- What can be asked of a record store. -/
inductive Query where
  | create (r : Record)
  | update (r : Record)
  | get (id : Id)

/-- What a record store answers. -/
inductive Answer where
  | done (result : Except Error Unit)
  | found (result : Except Error (Option Record))

namespace Store

/-- Answer a query. -/
def serve (s : Store) : Query → Answer × Store
  | .create r => (.done (s.create r).1, (s.create r).2)
  | .update r => (.done (s.update r).1, (s.update r).2)
  | .get id => (.found (s.get id), s)

/-- Answer several queries, one after the other. -/
def serveAll (s : Store) : List Query → List Answer × Store
  | [] => ([], s)
  | q :: qs => ((s.serve q).1 :: ((s.serve q).2.serveAll qs).1, ((s.serve q).2.serveAll qs).2)

end Store

namespace Mirrors

variable {d : RecordFolder} {rs : RecordList}

/-- **A query is answered alike on both sides**, which mirror each other again. -/
theorem serve (mirrors : Mirrors d rs) (q : Query) :
    ∃ answer d' rs', (Store.files d).serve q = (answer, .files d') ∧
      (Store.memory rs).serve q = (answer, .memory rs') ∧ Mirrors d' rs' := by
  cases q with
  | create r =>
    obtain ⟨d', created, again⟩ := mirrors.create r
    refine ⟨.done (RecordList.create rs r).1, d', (RecordList.create rs r).2, ?_, rfl, again⟩
    simp only [Store.serve, Store.create, created]
  | update r =>
    obtain ⟨d', updated, again⟩ := mirrors.update r
    refine ⟨.done (RecordList.update rs r).1, d', (RecordList.update rs r).2, ?_, rfl, again⟩
    simp only [Store.serve, Store.update, updated]
  | get id =>
    refine ⟨.found (.ok (RecordList.get? rs id)), d, rs, ?_, rfl, mirrors⟩
    simp only [Store.serve, Store.get, mirrors.get]

/-- **All queries are answered alike on both sides.** -/
theorem serveAll (mirrors : Mirrors d rs) (qs : List Query) :
    ((Store.files d).serveAll qs).1 = ((Store.memory rs).serveAll qs).1 := by
  -- every query leaves another pair of mirrors for the rest
  induction qs generalizing d rs with
  | nil => rfl
  | cons q qs ih =>
    obtain ⟨answer, d', rs', filed, kept, again⟩ := mirrors.serve q
    rw [Store.serveAll, Store.serveAll, filed, kept]
    exact congrArg (answer :: ·) (ih again)

end Mirrors

/-- **The two stores answer alike.**  An empty directory and an empty memory give the same
answers to all queries, whatever records and identifiers they are about: the same successes,
the same records and the same failures. -/
theorem Store.answers_files (qs : List Query) :
    ((Store.files {}).serveAll qs).1 = ((Store.memory []).serveAll qs).1 :=
  Mirrors.empty.serveAll qs

end Catalog
end StreamCatalog
