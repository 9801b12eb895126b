import Mathlib.Data.List.Nodup
import Mathlib.Data.List.Perm.Subperm
import Mathlib.Data.Nat.Find
import StreamCatalog.Proofs.Outcomes
import StreamCatalog.Proofs.Segment.Names

/-!
# Where segments are written and found again

A segment is written under the first choice for its name that is free, and no other file
changes; if it cannot be written, the directory is as it was (`Writer.cases_of_settle`,
`Writer.cases_of_write`).  Discarding it right away takes exactly this file away again
(`Writer.discard_join`).

In between there is a draft in the directory.  It can always be made, because among as many
names as the directory has entries, and one more, there is a free one
(`Writer.find?_spareName`), and it is in nobody's way: moving a new file to another name comes
to the same as making it there (`Directory.move_put`).
-/

namespace StreamCatalog

/-! ## A directory with a draft in it -/

namespace Directory

variable {α : Type} {d : Directory α}

/-- Where a name is free, no entry has it. -/
theorem filter_ne_of_free {name : String} (free : d.find? name = none) :
    (d.entries.filter fun e => e.1 ≠ name) = d.entries := by
  rw [List.filter_eq_self]
  intro e member
  have other := List.lookup_eq_none_iff.mp free e member
  rw [decide_eq_true_eq]
  rintro rfl
  simp at other

/-- What is put under a free name and taken away again leaves nothing behind. -/
theorem erase_put {name : String} (free : d.find? name = none) (n : Node α) :
    (d.put name n).erase name = d := by
  simp only [put, erase]
  rw [List.filter_cons_of_neg (by simp), filter_ne_of_free free, filter_ne_of_free free]

/-- Moving a new file to another name comes to the same as making it there. -/
theorem move_put {old new : String} {content : α} (free : d.find? old = none)
    (apart : new ≠ old) : (d.put old (.file content)).move old new = d.create new content := by
  have there : (d.put old (.file content)).find? old = some (.file content) := by
    rw [find?_put, if_pos rfl]
  have same : (d.put old (.file content)).contains new = d.contains new := by
    rw [contains, contains, find?_put, if_neg apart]
  have moved : ((d.put old (.file content)).put new (.file content)).erase old =
      d.put new (.file content) := by
    simp only [put, erase]
    rw [List.filter_cons_of_pos (by simpa using apart), List.filter_comm,
      List.filter_cons_of_neg (by simp), filter_ne_of_free free, filter_ne_of_free free]
  rw [move, read, there]
  dsimp only
  rw [create, create, same]
  split
  · rfl
  · split
    · rfl
    · rw [Except.map, moved]

/-- What is found under a name is an entry. -/
theorem mem_keys_of_contains {name : String} (taken : d.contains name = true) :
    name ∈ d.entries.map Prod.fst := by
  by_contra absent
  have free : d.find? name = none := by
    rw [find?, List.lookup_eq_none_iff]
    intro e member
    rw [bne_iff_ne]
    rintro rfl
    exact absent (List.mem_map_of_mem member)
  rw [contains, free] at taken
  exact nomatch taken

end Directory

namespace Segment
namespace Writer

/-- A spare name is one for drafts. -/
theorem exists_spareName (files : Files) : ∃ number, spareName files = draftName number := by
  rw [spareName]
  cases found : ((List.range (files.entries.length + 1)).map draftName).find? fun name =>
      !files.contains name with
  | some name =>
    obtain ⟨number, -, same⟩ := List.mem_map.mp (List.mem_of_find?_eq_some found)
    exact ⟨number, same.symm⟩
  | none => exact ⟨0, rfl⟩

/-- **There is always a name for a draft.** -/
theorem find?_spareName (files : Files) : files.find? (spareName files) = none := by
  rw [spareName]
  cases found : ((List.range (files.entries.length + 1)).map draftName).find? fun name =>
      !files.contains name with
  | some name =>
    have free := List.find?_some found
    rw [Bool.not_eq_true', Directory.contains, Option.isSome_eq_false_iff,
      Option.isNone_iff_eq_none] at free
    exact free
  | none =>
    -- all of these names would be among fewer entries
    exfalso
    have different : ((List.range (files.entries.length + 1)).map draftName).Nodup :=
      List.Nodup.map (fun _ _ same => draftName_injective same) List.nodup_range
    have taken : (List.range (files.entries.length + 1)).map draftName ⊆
        files.entries.map Prod.fst := by
      intro name member
      have held := List.find?_eq_none.mp found name member
      rw [Bool.not_eq_true', Bool.not_eq_false] at held
      exact Directory.mem_keys_of_contains held
    have few := (List.subperm_of_subset different taken).length_le
    rw [List.length_map, List.length_map, List.length_range] at few
    exact absurd few (Nat.not_succ_le_self _)

/-! ## The first free choice -/

/-- Is the choice of this number the first one that is free? -/
structure FirstFree (files : Files) (name : List Char) (n : Nat) : Prop where
  free : files.find? (choiceName name n) = none
  taken : ∀ m, m < n → files.contains (choiceName name m) = true

/-- Until the draft is moved, it is as if it were not there. -/
theorem tryChoice_put {files : Files} {draft : String} {name : List Char} {t : Option Trouble}
    {n : Nat} {content : List UInt8} (free : files.find? draft = none)
    (apart : choiceName name n ≠ draft) :
    tryChoice (files.put draft (.file content)) draft name t n =
      match obstacle? t n with
      | some reason => .error (.other reason)
      | none => (files.create (choiceName name n) content).map
          fun files => (choiceName name n, files) := by
  cases blocked : obstacle? t n with
  | some reason => simp only [tryChoice, blocked]
  | none => simp only [tryChoice, blocked, Directory.move_put free apart]

theorem cases_of_tryChoice {files after : Files} {draft chosen : String} {name : List Char}
    {t : Option Trouble} {n : Nat} {content : List UInt8} (free : files.find? draft = none)
    (apart : choiceName name n ≠ draft)
    (h : tryChoice (files.put draft (.file content)) draft name t n = .ok (chosen, after)) :
    chosen = choiceName name n ∧ files.find? chosen = none ∧
      after = files.put chosen (.file content) := by
  rw [tryChoice_put free apart] at h
  split at h
  · exact nomatch h
  · rw [Directory.create] at h
    split at h
    · exact nomatch h
    · split at h
      · exact nomatch h
      · rename_i absent
        cases h
        exact ⟨rfl, Option.not_isSome_iff_eq_none.mp absent, rfl⟩

/-- A choice that is refused because it is taken is taken. -/
theorem contains_of_tryChoice {files : Files} {draft : String} {name : List Char}
    {t : Option Trouble} {n : Nat} {content : List UInt8} (free : files.find? draft = none)
    (apart : choiceName name n ≠ draft)
    (h : tryChoice (files.put draft (.file content)) draft name t n = .error .taken) :
    files.contains (choiceName name n) = true := by
  rw [tryChoice_put free apart] at h
  split at h
  · exact nomatch h
  · rw [Directory.create] at h
    split at h
    · exact nomatch h
    · split at h
      · assumption
      · exact nomatch h

/-- The draft is moved to the first free choice, and no other file changes. -/
theorem cases_of_placeFrom {files after : Files} {draft chosen : String} {name : List Char}
    {t : Option Trouble} {more n : Nat} {content : List UInt8} (free : files.find? draft = none)
    (apart : ∀ k, choiceName name k ≠ draft)
    (taken : ∀ m, m < n → files.contains (choiceName name m) = true)
    (h : placeFrom (files.put draft (.file content)) draft name t more n = .ok (chosen, after)) :
    ∃ k, k ≤ n + more ∧ FirstFree files name k ∧ chosen = choiceName name k ∧
      after = files.put chosen (.file content) := by
  induction more generalizing n with
  | zero =>
    obtain ⟨rfl, absent, made⟩ := cases_of_tryChoice free (apart n) h
    exact ⟨n, Nat.le_refl _, ⟨absent, taken⟩, rfl, made⟩
  | succ more ih =>
    rw [placeFrom] at h
    split at h
    · rename_i refused
      have here := contains_of_tryChoice free (apart n) refused
      have further : ∀ m, m < n + 1 → files.contains (choiceName name m) = true := by
        intro m below
        rcases Nat.lt_succ_iff_lt_or_eq.mp below with before | rfl
        · exact taken m before
        · exact here
      obtain ⟨k, within, first⟩ := ih further h
      exact ⟨k, by omega, first⟩
    · obtain ⟨rfl, absent, made⟩ := cases_of_tryChoice free (apart n) h
      exact ⟨n, Nat.le_add_right _ _, ⟨absent, taken⟩, rfl, made⟩

/-- The draft is moved to the first free choice if nothing but taken names is in the way. -/
theorem placeFrom_of_firstFree {files : Files} {draft : String} {name : List Char}
    {content : List UInt8} {n k more : Nat} (free : files.find? draft = none)
    (apart : ∀ k, choiceName name k ≠ draft) (first : FirstFree files name n)
    (short : ∀ m, m ≤ n → (choiceName name m).utf8ByteSize ≤ Directory.longestName)
    (below : k ≤ n) (within : n ≤ k + more) :
    placeFrom (files.put draft (.file content)) draft name none more k =
      .ok (choiceName name n, files.put (choiceName name n) (.file content)) := by
  have tried (m : Nat) (upTo : m ≤ n) :
      tryChoice (files.put draft (.file content)) draft name none m =
        if files.contains (choiceName name m) then .error .taken
        else .ok (choiceName name m, files.put (choiceName name m) (.file content)) := by
    rw [tryChoice_put free (apart m), show obstacle? none m = none from rfl, Directory.create,
      if_neg (Nat.not_lt.mpr (short m upTo))]
    dsimp only
    split <;> rfl
  have absent : files.contains (choiceName name n) ≠ true := by
    rw [Directory.contains, first.free]
    exact Bool.false_ne_true
  have here : tryChoice (files.put draft (.file content)) draft name none n =
      .ok (choiceName name n, files.put (choiceName name n) (.file content)) := by
    rw [tried n (Nat.le_refl n), if_neg absent]
  induction more generalizing k with
  | zero =>
    obtain rfl : k = n := by omega
    exact here
  | succ more ih =>
    rw [placeFrom]
    rcases Nat.lt_or_eq_of_le below with before | rfl
    · rw [tried k below, if_pos (first.taken k before)]
      exact ih before (by omega)
    · rw [here]

/-- If any choice is free, one is the first. -/
theorem exists_firstFree {files : Files} {name : List Char} {last : Nat}
    (any : ∃ n, n ≤ last ∧ files.find? (choiceName name n) = none) :
    ∃ n, n ≤ last ∧ FirstFree files name n := by
  obtain ⟨n, within, free⟩ := any
  have some : ∃ n, files.find? (choiceName name n) = none := ⟨n, free⟩
  refine ⟨Nat.find some, Nat.le_trans (Nat.find_min' some free) within, Nat.find_spec some, ?_⟩
  intro m below
  exact Option.isSome_iff_ne_none.mpr (Nat.find_min some below)

/-! ## Writing and discarding -/

/-- **What settling does.**  It fails and leaves the directory as it was, or it makes one file,
under the first free choice.  No draft is left in either case. -/
theorem cases_of_settle {files after : Files} {name : List Char} {content : List UInt8}
    {t : Option Trouble} {result : Except Directory.Fault String}
    (apart : ∀ n number, choiceName name n ≠ draftName number)
    (h : settle files name content t = (result, after)) :
    (∃ fault, result = .error fault ∧ after = files) ∨
      ∃ n, n ≤ lastNumber ∧ FirstFree files name n ∧ result = .ok (choiceName name n) ∧
        after = files.put (choiceName name n) (.file content) := by
  have free := find?_spareName files
  obtain ⟨number, spare⟩ := exists_spareName files
  have aside : ∀ n, choiceName name n ≠ spareName files := by
    rw [spare]
    exact fun n => apart n number
  unfold settle at h
  dsimp only at h
  split at h
  · cases h
    exact Or.inl ⟨_, rfl, rfl⟩
  · cases h
    exact Or.inl ⟨_, rfl, Directory.erase_put free _⟩
  · split at h
    · cases h
      exact Or.inl ⟨_, rfl, Directory.erase_put free _⟩
    · rename_i placed
      cases h
      obtain ⟨n, within, first, rfl, rfl⟩ := cases_of_placeFrom free aside
        (fun _ below => absurd below (Nat.not_lt_zero _)) placed
      exact Or.inr ⟨n, by omega, first, rfl, rfl⟩

/-- As long as no call fails and no name is too long, a file is made if any choice is free. -/
theorem settle_of_firstFree {files : Files} {name : List Char} {content : List UInt8} {n : Nat}
    (apart : ∀ n number, choiceName name n ≠ draftName number) (within : n ≤ lastNumber)
    (first : FirstFree files name n)
    (short : ∀ m, m ≤ n → (choiceName name m).utf8ByteSize ≤ Directory.longestName) :
    settle files name content none =
      (.ok (choiceName name n), files.put (choiceName name n) (.file content)) := by
  obtain ⟨number, spare⟩ := exists_spareName files
  have aside : ∀ n, choiceName name n ≠ spareName files := by
    rw [spare]
    exact fun n => apart n number
  have placed : placeFrom (files.put (spareName files) (.file content)) (spareName files) name
      none lastNumber 0 = .ok (choiceName name n, files.put (choiceName name n) (.file content)) :=
    placeFrom_of_firstFree (find?_spareName files) aside first short (Nat.zero_le n) (by omega)
  unfold settle place
  dsimp only
  rw [placed]

/-- **What an attempt to write a segment does.**  It makes a name and fails, and the directory is
as it was, or there is one more file in it, under the first free choice for the name. -/
theorem cases_of_attempt {w w' : Writer} {title : String} {segment : Snapshot}
    {t : Option Trouble} {result : Except Error Artifact}
    (h : w.attempt title segment t = .ok (result, w')) :
    ∃ name, fileName w.template ⟨title, segment.start, w.named + 1⟩ = .ok name ∧
      w' = { w with named := w.named + 1, files := w'.files } ∧
      ((∃ cause, result = .error cause ∧ w'.files = w.files) ∨
        ∃ files n, w.files = some files ∧ n ≤ lastNumber ∧ FirstFree files name.toList n ∧
          result = .ok ⟨Path.join w.directory (choiceName name.toList n), segment.bytes.length⟩ ∧
          w'.files = some (files.put (choiceName name.toList n) (.file segment.bytes))) := by
  unfold attempt Generator.generate at h
  dsimp only at h
  obtain ⟨name, named, h⟩ := bind_eq_ok_iff.mp h
  refine ⟨name, named, ?_⟩
  cases held : w.files with
  | none =>
    simp only [held] at h
    cases h
    exact ⟨rfl, Or.inl ⟨_, rfl, rfl⟩⟩
  | some files =>
    simp only [held] at h
    rcases settled : settle files name.toList segment.bytes t with ⟨answer, after⟩
    rw [settled] at h
    rcases cases_of_settle (choiceName_ne_draftName named) settled with
      ⟨fault, rfl, rfl⟩ | ⟨n, within, first, rfl, rfl⟩
    · cases h
      exact ⟨rfl, Or.inl ⟨_, rfl, rfl⟩⟩
    · cases h
      exact ⟨rfl, Or.inr ⟨files, n, rfl, within, first, rfl, rfl⟩⟩

/-- As long as no call fails and no name is too long, a segment is written if any choice is
free. -/
theorem attempt_of_firstFree {w : Writer} {title : String} {segment : Snapshot} {files : Files}
    {name : String} {n : Nat} (held : w.files = some files)
    (named : fileName w.template ⟨title, segment.start, w.named + 1⟩ = .ok name)
    (within : n ≤ lastNumber) (first : FirstFree files name.toList n)
    (short : ∀ m, m ≤ n → (choiceName name.toList m).utf8ByteSize ≤ Directory.longestName) :
    w.attempt title segment none =
      .ok (.ok ⟨Path.join w.directory (choiceName name.toList n), segment.bytes.length⟩,
        { w with
          named := w.named + 1
          files := some (files.put (choiceName name.toList n) (.file segment.bytes)) }) := by
  have settled : settle files name.toList segment.bytes none = _ :=
    settle_of_firstFree (choiceName_ne_draftName named) within first short
  rw [attempt, Generator.generate, named]
  simp only [bind, Except.bind, held, settled]
  rfl

/-- **What writing a segment does.**  It fails and leaves the directory as it was, or there is
one more file in it, with the bytes of the segment and under a name that was free. -/
theorem cases_of_write {w w' : Writer} {title : String} {segment : Snapshot}
    {result : Except Error Artifact} (h : w.write title segment = .ok (result, w')) :
    w'.directory = w.directory ∧
      ((∃ cause, result = .error cause ∧ w'.files = w.files) ∨
        ∃ name files, result = .ok ⟨Path.join w.directory (String.ofList name),
            segment.bytes.length⟩ ∧
          Path.Plain name ∧ w.files = some files ∧ files.find? (String.ofList name) = none ∧
          w'.files = some (files.put (String.ofList name) (.file segment.bytes))) := by
  obtain ⟨name, named, rest, failed | ⟨files, n, held, -, first, done, after⟩⟩ :=
    cases_of_attempt (t := none) h
  · exact ⟨by rw [rest], Or.inl failed⟩
  · exact ⟨by rw [rest], Or.inr ⟨choice name.toList n, files, done, plain_choice named n, held,
      first.free, after⟩⟩

/-- **What removing a file does.**  It fails and changes nothing, or the file is gone. -/
theorem cases_of_remove {w w' : Writer} {name : String} {result : Except Error Unit}
    (h : w.remove name = (result, w')) :
    (∃ cause, result = .error cause ∧ w' = w) ∨
      ∃ files content, w.files = some files ∧ files.find? name = some (.file content) ∧
        result = .ok () ∧ w' = { w with files := some (files.erase name) } := by
  rw [remove] at h
  cases held : w.files with
  | none =>
    rw [held] at h
    cases h
    exact Or.inl ⟨_, rfl, rfl⟩
  | some files =>
    rw [held] at h
    rcases there : files.find? name with _ | content | _
    · simp only [Directory.remove, Directory.read, there] at h
      cases h
      exact Or.inl ⟨_, rfl, rfl⟩
    · simp only [Directory.remove, Directory.read, there] at h
      cases h
      exact Or.inr ⟨files, content, rfl, there, rfl, rfl⟩
    · simp only [Directory.remove, Directory.read, there] at h
      cases h
      exact Or.inl ⟨_, rfl, rfl⟩

/-- A file that is there can be removed. -/
theorem remove_of_file {w : Writer} {name : String} {files : Files} {content : List UInt8}
    (held : w.files = some files) (there : files.find? name = some (.file content)) :
    w.remove name = (.ok (), { w with files := some (files.erase name) }) := by
  rw [remove, held]
  simp only [Directory.remove, Directory.read, there]

/-- A segment is discarded by its name. -/
theorem discard_of_path {w : Writer} {name : List Char} {a : Artifact} (plain : Path.Plain name)
    (path : a.path = Path.join w.directory (String.ofList name)) :
    w.discard a = w.remove (String.ofList name) := by
  rw [discard, path, Path.fileName?_join w.directory plain, Option.getD_some]

/-- Discarding a segment takes its file away and nothing else. -/
theorem discard_join {w : Writer} {files : Files} {name : List Char} {content : List UInt8}
    (plain : Path.Plain name) (held : w.files = some files)
    (there : files.find? (String.ofList name) = some (.file content)) (size : Nat) :
    (w.discard ⟨Path.join w.directory (String.ofList name), size⟩).2 =
      { w with files := some (files.erase (String.ofList name)) } := by
  rw [discard_of_path plain rfl, remove_of_file held there]

end Writer
end Segment
end StreamCatalog
