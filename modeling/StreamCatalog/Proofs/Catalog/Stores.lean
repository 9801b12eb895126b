import StreamCatalog.Catalog.Store
import StreamCatalog.Proofs.Codec.Records
import StreamCatalog.Proofs.Outcomes

/-!
# What a store holds

All that can be seen of a store is the answer that it gives for each identifier.  The two
stores answer alike: `cases_of_create` and `cases_of_update` say of both what a call does
to the answers.  A call that fails changes none of them, and one that goes ahead changes
the answer for the identifier of its record and no other.

## Files

A record file is read back as the record that was written (`Record.ofBytes?_bytes`).  Files of
different records have different names, because identifiers are read back from their
texts, and no draft has the name of a file, because drafts have longer names.  So a draft
that a failed call leaves behind is never looked at.
-/

namespace StreamCatalog

namespace Directory

variable {α : Type} {d d' : Directory α}

/-- A file that is written is found, and all else stays. -/
theorem find?_of_write {name : String} {content : α} (h : d.write name content = .ok d')
    (other : String) :
    d'.find? other = if other = name then some (.file content) else d.find? other := by
  unfold write at h
  split at h
  · exact nomatch h
  · split at h
    · exact nomatch h
    · rw [← Except.ok.inj h]
      exact d.find?_put name other (.file content)

/-- No file is written where a folder is. -/
theorem ne_folder_of_write {name : String} {content : α} (h : d.write name content = .ok d') :
    d.find? name ≠ some .folder := by
  intro folder
  unfold write at h
  split at h
  · exact nomatch h
  · rw [folder] at h
    exact nomatch h

/-- A file that is renamed is found under its new name, and all else stays. -/
theorem find?_of_rename {old new : String} (h : d.rename old new = .ok d') :
    ∃ content, d.find? old = some (.file content) ∧ ∀ other, d'.find? other =
      if other = new then some (.file content) else if other = old then none else d.find? other := by
  unfold rename at h
  split at h
  · exact nomatch h
  · rename_i content found
    refine ⟨content, ?_, ?_⟩
    · unfold read at found
      split at found
      · rename_i here
        rw [here, Except.ok.inj found]
      · exact nomatch found
      · exact nomatch found
    · intro other
      rw [find?_of_write h, find?_erase]

end Directory

namespace Catalog

/-! ## Names of files -/

namespace RecordFolder

theorem length_text (i : Id) : i.text.length = 36 := by
  rw [Id.text, String.length_ofList, Id.length_write]

/-- Different records have different files. -/
theorem fileName_injective {i j : Id} (h : fileName i = fileName j) : i = j := by
  have chars : i.text.toList ++ ".json".toList = j.text.toList ++ ".json".toList := by
    rw [← String.toList_append, ← String.toList_append]
    exact congrArg String.toList h
  exact Id.text_injective (String.toList_injective (List.append_cancel_right chars))

/-- No draft has the name of a file. -/
theorem fileName_ne_draftName (i j : Id) : fileName i ≠ draftName j := by
  intro same
  have length := congrArg String.length same
  rw [fileName, draftName, String.length_append, String.length_append, length_text,
    length_text] at length
  exact absurd length (by decide)

/-! ## Records in files -/

variable {d d' : RecordFolder}

theorem get_eq_none_iff (id : Id) :
    get d id none = .ok none ↔ Directory.contains d (fileName id) = false := by
  simp only [get, Directory.read, Directory.contains]
  cases found : Directory.find? d (fileName id) with
  | none => simp
  | some node =>
    cases node with
    | folder => simp
    | file bytes =>
      dsimp only
      cases Record.ofBytes? bytes with
      | none => simp
      | some r => simp

/-- A look at a record is a look at its file. -/
theorem get_congr {id : Id}
    (same : Directory.find? d' (fileName id) = Directory.find? d (fileName id)) :
    get d' id none = get d id none := by
  simp only [get, Directory.read, same]

theorem get_of_file {r : Record}
    (found : Directory.find? d (fileName r.id) = some (.file r.bytes)) :
    get d r.id none = .ok (some r) := by
  simp only [get, Directory.read, found, Record.ofBytes?_bytes]

/-- Are two directories the same but for drafts?  A folder in the place of a draft is none, and
it is in the way of one. -/
structure Alike (d e : RecordFolder) : Prop where
  others : ∀ name, (∀ id, name ≠ draftName id) → Directory.find? e name = Directory.find? d name
  folders : ∀ id, Directory.find? e (draftName id) = some .folder ↔
    Directory.find? d (draftName id) = some .folder

namespace Alike

variable {e f : RecordFolder}

theorem refl (d : RecordFolder) : Alike d d := ⟨fun _ _ => rfl, fun _ => Iff.rfl⟩

theorem symm (alike : Alike d e) : Alike e d :=
  ⟨fun name apart => (alike.others name apart).symm, fun id => (alike.folders id).symm⟩

theorem trans (first : Alike d e) (second : Alike e f) : Alike d f :=
  ⟨fun name apart => (second.others name apart).trans (first.others name apart),
    fun id => (second.folders id).trans (first.folders id)⟩

theorem file (alike : Alike d e) (id : Id) :
    Directory.find? e (fileName id) = Directory.find? d (fileName id) :=
  alike.others (fileName id) fun other => fileName_ne_draftName id other

/-- Records are found in both directories alike. -/
theorem get (alike : Alike d e) (id : Id) : get e id none = get d id none :=
  get_congr (alike.file id)

/-- Writing a draft makes no other difference. -/
theorem of_draft {id : Id} {bytes : List UInt8}
    (drafted : Directory.write d (draftName id) bytes = .ok e) : Alike d e where
  others name apart := by
    rw [Directory.find?_of_write drafted, if_neg (apart id)]
  folders other := by
    rw [Directory.find?_of_write drafted]
    split
    · rename_i same
      rw [same]
      exact iff_of_false (by simp) (Directory.ne_folder_of_write drafted)
    · exact Iff.rfl

end Alike

/-- Is a record in its file, and a draft of it gone, with everything else as it was? -/
def Saved (r : Record) (d d' : RecordFolder) : Prop :=
  ∀ name, Directory.find? d' name =
    if name = fileName r.id then some (.file r.bytes)
    else if name = draftName r.id then none
    else Directory.find? d name

/-- A record that has been saved is found, and all others are found as before. -/
theorem Saved.get {r : Record} (saved : Saved r d d') (id : Id) :
    get d' id none = if id = r.id then .ok (some r) else get d id none := by
  by_cases same : id = r.id
  · rw [if_pos same, same]
    refine get_of_file ?_
    rw [saved, if_pos rfl]
  · rw [if_neg same]
    refine get_congr ?_
    rw [saved, if_neg fun eq => same (fileName_injective eq),
      if_neg (fileName_ne_draftName id r.id)]

variable {t : Option Trouble}

/-- **Saving a record works as a whole or leaves nothing but a draft**, whatever call fails. -/
theorem cases_of_save {r : Record} {result : Except Error Unit} (h : save d r t = (result, d')) :
    (∃ cause, result = .error cause ∧ Alike d d') ∨ (result = .ok () ∧ Saved r d d') := by
  unfold save at h
  split at h
  · rename_i reason left
    cases h
    refine Or.inl ⟨_, rfl, ?_⟩
    cases partly : left.bind fun bytes =>
        (Directory.write d (draftName r.id) bytes).toOption with
    | none => exact .refl d
    | some e =>
      obtain ⟨bytes, -, written⟩ := Option.bind_eq_some_iff.mp partly
      exact .of_draft (eq_ok_of_toOption written)
  · split at h
    · rename_i e drafted
      have draft : Alike d e := .of_draft drafted
      unfold publish at h
      split at h
      · cases h
        exact Or.inl ⟨_, rfl, draft⟩
      · split at h
        · rename_i moved
          cases h
          refine Or.inr ⟨rfl, ?_⟩
          obtain ⟨content, found, all⟩ := Directory.find?_of_rename moved
          rw [Directory.find?_of_write drafted, if_pos rfl] at found
          have written : content = r.bytes := (Node.file.inj (Option.some.inj found)).symm
          intro name
          rw [all, written, Directory.find?_of_write drafted]
          -- the draft stood under its name only in between
          by_cases named : name = draftName r.id
          · simp only [if_pos named]
          · simp only [if_neg named]
        · cases h
          exact Or.inl ⟨_, rfl, draft⟩
    · cases h
      exact Or.inl ⟨_, rfl, .refl d⟩

theorem cases_of_create {r : Record} {result : Except Error Unit}
    (h : create d r t = (result, d')) :
    (∃ cause, result = .error cause ∧ Alike d d') ∨
      (result = .ok () ∧ Directory.contains d (fileName r.id) = false ∧ Saved r d d') := by
  unfold create at h
  split at h
  · cases h
    exact Or.inl ⟨_, rfl, .refl d⟩
  · split at h
    · cases h
      exact Or.inl ⟨_, rfl, .refl d⟩
    · rename_i free
      rcases cases_of_save h with failed | ⟨done, saved⟩
      · exact Or.inl failed
      · exact Or.inr ⟨done, Bool.eq_false_iff.mpr free, saved⟩

theorem cases_of_update {r : Record} {result : Except Error Unit}
    (h : update d r t = (result, d')) :
    (∃ cause, result = .error cause ∧ Alike d d') ∨
      (result = .ok () ∧ Directory.contains d (fileName r.id) = true ∧ Saved r d d') := by
  unfold update at h
  split at h
  · cases h
    exact Or.inl ⟨_, rfl, .refl d⟩
  · split at h
    · rename_i taken
      rcases cases_of_save h with failed | ⟨done, saved⟩
      · exact Or.inl failed
      · exact Or.inr ⟨done, taken, saved⟩
    · cases h
      exact Or.inl ⟨_, rfl, .refl d⟩

end RecordFolder

/-! ## Records in memory -/

namespace RecordList

/-- A record that is added is found under its identifier, which was free. -/
theorem get?_concat {rs : RecordList} {r : Record} (free : get? rs r.id = none) (id : Id) :
    get? (rs ++ [r]) id = if id = r.id then some r else get? rs id := by
  rw [get?, List.find?_append]
  by_cases same : id = r.id
  · rw [if_pos same, same, show rs.find? _ = none from free]
    simp
  · rw [if_neg same, List.find?_singleton, if_neg (by simpa using fun eq => same eq.symm),
      Option.or_none]
    rfl

/-- A record that is replaced is found under its identifier. -/
theorem get?_map_self {rs : RecordList} {r : Record} (taken : (get? rs r.id).isSome = true) :
    get? (rs.map fun q => if q.id = r.id then r else q) r.id = some r := by
  induction rs with
  | nil => exact nomatch taken
  | cons q rs ih =>
    rw [List.map_cons, get?]
    by_cases here : q.id = r.id
    · rw [if_pos here, List.find?_cons_of_pos (by simp)]
    · rw [if_neg here, List.find?_cons_of_neg (by simpa using here)]
      rw [get?, List.find?_cons_of_neg (by simpa using here)] at taken
      exact ih taken

/-- Replacing a record leaves the others alone. -/
theorem get?_map_of_ne {rs : RecordList} {r : Record} {id : Id} (other : id ≠ r.id) :
    get? (rs.map fun q => if q.id = r.id then r else q) id = get? rs id := by
  have not_new : ¬r.id = id := fun same => other same.symm
  induction rs with
  | nil => rfl
  | cons q rs ih =>
    rw [List.map_cons, get?, get?]
    by_cases here : q.id = r.id
    · rw [if_pos here, List.find?_cons_of_neg (by simpa using not_new),
        List.find?_cons_of_neg (by simpa [here] using not_new)]
      exact ih
    · rw [if_neg here, List.find?_cons, List.find?_cons]
      split
      · rfl
      · exact ih

end RecordList

/-! ## Either store -/

namespace Store

variable {s s' : Store} {r : Record} {result : Except Error Unit}

/-- An identifier is free if and only if nothing is found under it. -/
theorem contains_eq_false_iff (s : Store) (id : Id) :
    s.contains id = false ↔ s.get id = .ok none := by
  cases s with
  | memory rs =>
    rw [contains, get, Option.isSome_eq_false_iff, Option.isNone_iff_eq_none]
    exact ⟨fun h => by rw [h], fun h => Except.ok.inj h⟩
  | files d => exact (RecordFolder.get_eq_none_iff id).symm

/-- **What creating a record does.**  It fails and changes no answer, or the identifier was
free and the record is found from now on. -/
theorem cases_of_create (h : s.create r = (result, s')) :
    (∃ cause, result = .error cause ∧ ∀ id, s'.get id = s.get id) ∨
      (result = .ok () ∧ s.contains r.id = false ∧
        ∀ id, s'.get id = if id = r.id then .ok (some r) else s.get id) := by
  cases s with
  | memory rs =>
    unfold create RecordList.create at h
    dsimp only at h
    split at h
    · cases h
      exact Or.inl ⟨_, rfl, fun _ => rfl⟩
    · rename_i free
      cases h
      have absent := Option.not_isSome_iff_eq_none.mp free
      refine Or.inr ⟨rfl, Bool.eq_false_iff.mpr free, ?_⟩
      intro id
      rw [get, get, RecordList.get?_concat absent]
      split <;> rfl
  | files d =>
    rcases made : RecordFolder.create d r none with ⟨answer, d'⟩
    rw [create, made] at h
    cases h
    rcases RecordFolder.cases_of_create made with ⟨cause, failed, alike⟩ | ⟨done, free, saved⟩
    · exact Or.inl ⟨cause, failed, alike.get⟩
    · exact Or.inr ⟨done, free, saved.get⟩

/-- **What updating a record does.**  It fails and changes no answer, or the identifier was
taken and the record is found from now on. -/
theorem cases_of_update (h : s.update r = (result, s')) :
    (∃ cause, result = .error cause ∧ ∀ id, s'.get id = s.get id) ∨
      (result = .ok () ∧ s.contains r.id = true ∧
        ∀ id, s'.get id = if id = r.id then .ok (some r) else s.get id) := by
  cases s with
  | memory rs =>
    unfold update RecordList.update at h
    dsimp only at h
    split at h
    · rename_i taken
      cases h
      refine Or.inr ⟨rfl, taken, ?_⟩
      intro id
      by_cases same : id = r.id
      · rw [if_pos same, same]
        exact congrArg Except.ok (RecordList.get?_map_self taken)
      · rw [if_neg same]
        exact congrArg Except.ok (RecordList.get?_map_of_ne same)
    · cases h
      exact Or.inl ⟨_, rfl, fun _ => rfl⟩
  | files d =>
    rcases made : RecordFolder.update d r none with ⟨answer, d'⟩
    rw [update, made] at h
    cases h
    rcases RecordFolder.cases_of_update made with ⟨cause, failed, alike⟩ | ⟨done, taken, saved⟩
    · exact Or.inl ⟨cause, failed, alike.get⟩
    · exact Or.inr ⟨done, taken, saved.get⟩

/-- A store that gives the same answer for an identifier has it taken or free alike. -/
theorem contains_congr {id : Id} (same : s'.get id = s.get id) : s'.contains id = s.contains id := by
  rw [Bool.eq_iff_iff, ← Bool.not_eq_false, ← Bool.not_eq_false, contains_eq_false_iff,
    contains_eq_false_iff, same]

/-- What is found is there. -/
theorem contains_of_get {id : Id} (found : s.get id = .ok (some r)) : s.contains id = true := by
  rw [← Bool.not_eq_false, contains_eq_false_iff, found]
  exact fun h => nomatch h

end Store
end Catalog
end StreamCatalog
