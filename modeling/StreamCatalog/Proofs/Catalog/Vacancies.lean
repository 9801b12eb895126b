import StreamCatalog.Proofs.Catalog.Reordering
import StreamCatalog.Proofs.Catalog.Stores

/-!
# Attributes without values

An attribute has one or more values, or it is not there: setting it to no values removes it.  But
a text may give an attribute an empty list, and reading it keeps the list.  Such an attribute is
*vacant*: it is there, and has no value.

Where a record has come from and what has been done to it is its `History`.  A history begins with
a new record or with a text, and goes on by edits: attributes are set and removed, updaters learn
from other records, and the record is written as text and read back.

## What makes an attribute vacant

Of a name that a text gives several times, the last time counts (`Attributes.find?_of_ofJson?`).
So a record that has been read has an attribute vacant if the last that its text says of it is an
empty list (`vacant_of_record?`).  A new record has no attribute at all.

## What ends it

No edit makes an attribute vacant.  An edit *settles* an attribute if it sets or removes it, or if
it is an updater with something to put there; a vacant attribute holds nothing that an updater
would rather keep.  Being read back changes nothing.  So an attribute is vacant in the end if it
was at the beginning and no edit has settled it, which is `vacant_of_history`.
-/

namespace StreamCatalog

/-! ## Members of an object -/

namespace Json

/-- The value that is given to a name last. -/
def Members.last? (name : String) (members : Members) : Option Value :=
  (members.filter fun m => m.1 = some name).getLast?.map Prod.snd

theorem Members.last?_cons (name : String) (m : Option String × Value) (members : Members) :
    Members.last? name (m :: members) =
      (Members.last? name members).or (if m.1 = some name then some m.2 else none) := by
  unfold Members.last?
  by_cases here : m.1 = some name
  · rw [List.filter_cons_of_pos (by simpa using here), List.getLast?_cons, if_pos here]
    cases (members.filter fun m => m.1 = some name).getLast? <;> rfl
  · rw [List.filter_cons_of_neg (by simpa using here), if_neg here, Option.or_none]

/-- The value that a name has in an object. -/
def Value.member? (name : String) : Value → Option Value
  | .object members => Members.last? name members
  | _ => none

end Json

namespace Catalog

open Json (Members)

/-! ## Reading -/

/-- The attributes that are read one after the other: of each name the last counts. -/
theorem find?_of_foldlM {members : Members} {a b : Attributes}
    (read : members.foldlM
      (fun a m => do some (a.insert (← m.1) (← valuesOfJson? m.2))) a = some b) (name : String) :
    b.find? name = (Members.last? name members).elim (a.find? name) valuesOfJson? := by
  induction members generalizing a with
  | nil =>
    obtain rfl : a = b := Option.some.inj read
    rfl
  | cons m members ih =>
    obtain ⟨key, j⟩ := m
    rw [List.foldlM_cons] at read
    obtain ⟨between, first, rest⟩ := Option.bind_eq_some_iff.mp read
    obtain ⟨n, named, inserted⟩ := Option.bind_eq_some_iff.mp first
    obtain ⟨values, valued, same⟩ := Option.bind_eq_some_iff.mp inserted
    obtain rfl : key = some n := named
    obtain rfl : a.insert n values = between := Option.some.inj same
    rw [ih rest, Members.last?_cons, Attributes.find?_insert]
    cases Members.last? name members with
    | some later => rfl
    | none =>
      rw [Option.none_or, Option.elim_none]
      by_cases here : name = n
      · rw [if_pos here, here, if_pos rfl]
        exact valued.symm
      · rw [if_neg here, if_neg fun same => here (Option.some.inj same).symm]
        rfl

/-- **Of an attribute that a text gives several times, the last time counts.** -/
theorem Attributes.find?_of_ofJson? {j : Json.Value} {a : Attributes} (read : ofJson? j = some a)
    (name : String) : a.find? name = (j.member? name).bind valuesOfJson? := by
  cases j with
  | object members =>
    rw [find?_of_foldlM read name, Json.Value.member?, find?_empty]
    cases Members.last? name members <;> rfl
  | null => exact nomatch read
  | boolean b => exact nomatch read
  | number n => exact nomatch read
  | string s => exact nomatch read
  | array items => exact nomatch read

/-- Where an object or an array that stands for a record has its attributes. -/
def attributesIn? : Json.Value → Option Json.Value
  | .object members => (Members.unique "attributes" members).join
  | .array [_, attributes] => some attributes
  | _ => none

/-- What an object or an array that stands for a record says of an attribute. -/
def said? (name : String) (j : Json.Value) : Option Json.Value :=
  (attributesIn? j).bind (Json.Value.member? name)

/-- A record has the values that are said of its attributes. -/
theorem Record.values?_of_ofJson? {j : Json.Value} {r : Record} (read : ofJson? j = some r)
    (name : String) : r.values? name = (said? name j).bind valuesOfJson? := by
  unfold ofJson? at read
  split at read
  · rename_i members
    split at read
    · obtain ⟨_, -, read⟩ := Option.bind_eq_some_iff.mp read
      obtain ⟨_, -, read⟩ := Option.bind_eq_some_iff.mp read
      obtain ⟨id, -, read⟩ := Option.bind_eq_some_iff.mp read
      obtain ⟨given, found, read⟩ := Option.bind_eq_some_iff.mp read
      rw [said?, attributesIn?, found, Option.join_some]
      cases given with
      | none =>
        cases read
        rfl
      | some j =>
        obtain ⟨a, attributes, read⟩ := Option.bind_eq_some_iff.mp read
        cases read
        exact Attributes.find?_of_ofJson? attributes name
    · exact nomatch read
  · obtain ⟨id, -, rfl⟩ := Option.map_eq_some_iff.mp read
    rfl
  · obtain ⟨id, -, read⟩ := Option.bind_eq_some_iff.mp read
    obtain ⟨a, attributes, read⟩ := Option.bind_eq_some_iff.mp read
    cases read
    exact Attributes.find?_of_ofJson? attributes name
  · exact nomatch read

/-- There are no values in the empty array and nowhere else. -/
theorem valuesOfJson?_eq_nil_iff {j : Json.Value} : valuesOfJson? j = some [] ↔ j = .array [] := by
  cases j with
  | array items =>
    cases items with
    | nil => exact iff_of_true rfl rfl
    | cons item items =>
      refine iff_of_false (fun read => ?_) (by simp)
      rw [valuesOfJson?, List.mapM_cons] at read
      obtain ⟨v, -, read⟩ := Option.bind_eq_some_iff.mp read
      obtain ⟨vs, -, read⟩ := Option.bind_eq_some_iff.mp read
      exact absurd (Option.some.inj read) (List.cons_ne_nil v vs)
  | _ => exact iff_of_false (by simp [valuesOfJson?]) (by simp)

/-! ## Vacant attributes -/

/-- Is the attribute there without a value? -/
def Record.Vacant (r : Record) (name : String) : Prop := r.values? name = some []

/-- An attribute that is set to values or removed is not vacant, and all else stays. -/
theorem Record.vacant_of_changed {r s : Record} {name other : String} {values : Option (List Value)}
    (changed : s.values? name = if name = other then values else r.values? name)
    (filled : values ≠ some []) : s.Vacant name ↔ r.Vacant name ∧ name ≠ other := by
  rw [Vacant, changed]
  by_cases here : name = other
  · rw [if_pos here]
    exact iff_of_false filled fun both => both.2 here
  · rw [if_neg here]
    exact (and_iff_left here).symm

namespace Updater

variable {parent child learned : Record} {name : String}

mutual

/-- Does an updater put something where an attribute is vacant? -/
def Settles (child : Record) (name : String) : Updater → Prop
  | .derived => name = Name.derived
  | .temporalStart => name = Name.temporalStart ∧ child.timestamp? Name.temporalStart ≠ none
  | .temporalEnd => name = Name.temporalEnd ∧ child.timestamp? Name.temporalEnd ≠ none
  | .location op => name = Name.location ∧ ∃ place, newLocation? op none child = .ok (some place)
  | .list updaters => SettlesAny child name updaters

/-- Does one of several updaters do so? -/
def SettlesAny (child : Record) (name : String) : List Updater → Prop
  | [] => False
  | u :: us => Settles child name u ∨ SettlesAny child name us

end

/-- A renewed attribute is not vacant. -/
theorem vacant_renew (r : Record) (name other : String) (v : Option Value) :
    (renew name r v).Vacant other ↔ r.Vacant other ∧ ¬ (other = name ∧ v ≠ none) := by
  cases v with
  | none => exact (and_iff_left fun both => both.2 rfl).symm
  | some v =>
    rw [renew, Record.vacant_of_changed (Record.values?_set r name other v) (by simp)]
    simp

/-- The list of derived records is never empty afterwards. -/
theorem vacant_addDerived (parent child : Record) (name : String) :
    (addDerived parent child).Vacant name ↔ parent.Vacant name ∧ name ≠ Name.derived :=
  Record.vacant_of_changed (values?_addDerived parent child name) (by simp)

/-- A point in time is taken over where there is none. -/
theorem vacant_takeTime (name other : String) (good : Time.Instant → Time.Instant → Bool)
    (parent child : Record) :
    (takeTime name good parent child).Vacant other ↔
      parent.Vacant other ∧ ¬ (other = name ∧ child.timestamp? name ≠ none) := by
  rw [takeTime_eq, vacant_renew]
  refine and_congr_right fun vacant => not_congr (and_congr_right ?_)
  rintro rfl
  have nothing : parent.timestamp? other = none := by
    rw [Record.timestamp?, show parent.values? other = some [] from vacant]
    rfl
  rw [nothing]
  cases child.timestamp? other <;> simp [newTime?]

/-- A location is set where there is none, if the segment has one that comes to something. -/
theorem vacant_addLocation {op : Footprint.Operator}
    (done : addLocation op parent child = .ok learned) :
    learned.Vacant name ↔ parent.Vacant name ∧
      ¬ (name = Name.location ∧ ∃ place, newLocation? op none child = .ok (some place)) := by
  rw [addLocation_eq] at done
  obtain ⟨place, chosen, rfl⟩ := map_eq_ok_iff.mp done
  rw [vacant_renew]
  refine and_congr_right fun vacant => not_congr (and_congr_right ?_)
  rintro rfl
  have nothing : parent.text? Name.location = none := by
    rw [Record.text?, show parent.values? Name.location = some [] from vacant]
    rfl
  rw [nothing] at chosen
  rw [chosen, Option.ne_none_iff_exists']
  simp only [Except.ok.injEq]

mutual

/-- **What becomes of a vacant attribute when a record is updated.** -/
theorem vacant_of_apply (child : Record) (name : String) : ∀ (u : Updater) {parent learned : Record},
    apply parent child u = .ok learned →
    (learned.Vacant name ↔ parent.Vacant name ∧ ¬ Settles child name u)
  | .derived, parent, learned, done => by
    rw [apply] at done
    cases done
    rw [Settles]
    exact vacant_addDerived parent child name
  | .temporalStart, parent, learned, done => by
    rw [apply] at done
    cases done
    rw [Settles]
    exact vacant_takeTime Name.temporalStart name _ parent child
  | .temporalEnd, parent, learned, done => by
    rw [apply] at done
    cases done
    rw [Settles]
    exact vacant_takeTime Name.temporalEnd name _ parent child
  | .location op, parent, learned, done => by
    rw [apply] at done
    rw [Settles]
    exact vacant_addLocation done
  | .list us, parent, learned, done => by
    rw [apply] at done
    rw [Settles]
    exact vacant_of_applyAll child name us done

theorem vacant_of_applyAll (child : Record) (name : String) :
    ∀ (us : List Updater) {parent learned : Record}, applyAll parent child us = .ok learned →
    (learned.Vacant name ↔ parent.Vacant name ∧ ¬ SettlesAny child name us)
  | [], parent, learned, done => by
    rw [applyAll] at done
    cases done
    rw [SettlesAny]
    exact (and_iff_left id).symm
  | u :: us, parent, learned, done => by
    rw [applyAll] at done
    split at done
    · rename_i between first
      rw [vacant_of_applyAll child name us done, vacant_of_apply child name u first, SettlesAny,
        not_or, and_assoc]
    · exact nomatch done

end

end Updater

/-! ## Histories -/

/-- What can be done to a record. -/
inductive Edit where
  /-- Replace the values of an attribute by one. -/
  | set (name : String) (v : Value)
  /-- Replace the values of an attribute. -/
  | setAll (name : String) (values : List Value)
  /-- Remove an attribute. -/
  | remove (name : String)
  /-- Learn from another record. -/
  | update (u : Updater) (child : Record)
  /-- Write the record as text, compact or as it is stored, and read it back. -/
  | recode (compact : Bool)

/-- The record after an edit; none if an updater breaks down. -/
def Edit.perform? (r : Record) : Edit → Option Record
  | .set name v => some (r.set name v)
  | .setAll name values => some (r.setAll name values)
  | .remove name => some (r.remove name)
  | .update u child => (Updater.apply r child u).toOption
  | .recode compact => Record.read? (if compact then r.toJson.compact else r.stored)

/-- Does an edit set or remove an attribute that is vacant? -/
def Edit.Settles (name : String) : Edit → Prop
  | .set other _ => name = other
  | .setAll other _ => name = other
  | .remove other => name = other
  | .update u child => u.Settles child name
  | .recode _ => False

/-- Where a record comes from. -/
inductive Source where
  /-- It is new. -/
  | created (id : Id)
  /-- It is read. -/
  | decoded (text : String)

/-- The record that a source gives, if there is one. -/
def Source.record? : Source → Option Record
  | .created id => some (.blank id)
  | .decoded text => Record.read? text

/-- Is an empty list the last that is said of an attribute? -/
def Source.LeavesVacant (name : String) : Source → Prop
  | .created _ => False
  | .decoded text => ∃ j, Json.read text = some j ∧ said? name j = some (.array [])

/-- How a record has come about. -/
structure History where
  source : Source
  edits : List Edit

/-- The record that a history leads to, if it leads to one. -/
def History.record? (h : History) : Option Record :=
  h.source.record?.bind fun r => h.edits.foldlM Edit.perform? r

variable {r s : Record} {name : String}

/-- **Which attributes are vacant at the beginning.** -/
theorem vacant_of_record? {source : Source} (made : source.record? = some r) :
    r.Vacant name ↔ source.LeavesVacant name := by
  cases source with
  | created id =>
    cases made
    exact iff_of_false nofun fun none => none
  | decoded text =>
    obtain ⟨j, parsed, read⟩ := Option.bind_eq_some_iff.mp made
    rw [Record.Vacant, Record.values?_of_ofJson? read, Option.bind_eq_some_iff]
    simp only [valuesOfJson?_eq_nil_iff, exists_eq_right, Source.LeavesVacant, parsed,
      Option.some.injEq, exists_eq_left']

/-- **No edit makes an attribute vacant**, and it stays so unless the edit settles it. -/
theorem vacant_of_perform {e : Edit} (done : e.perform? r = some s) :
    s.Vacant name ↔ r.Vacant name ∧ ¬ e.Settles name := by
  cases e with
  | set other v =>
    cases done
    exact Record.vacant_of_changed (Record.values?_set r other name v) (by simp)
  | setAll other values =>
    cases done
    by_cases filled : values = []
    · rw [filled, Record.setAll_nil]
      exact Record.vacant_of_changed (r.values?_remove other name) (by simp)
    · exact Record.vacant_of_changed (Record.values?_setAll filled) (by simpa using filled)
  | remove other =>
    cases done
    exact Record.vacant_of_changed (r.values?_remove other name) (by simp)
  | update u child =>
    exact Updater.vacant_of_apply child name u (eq_ok_of_toOption done)
  | recode compact =>
    have same : r = s := by
      rw [Edit.perform?] at done
      cases compact with
      | true => exact Option.some.inj (r.read?_compact.symm.trans done)
      | false => exact Option.some.inj (r.read?_stored.symm.trans done)
    rw [same]
    exact (and_iff_left id).symm

/-- An attribute stays vacant until an edit settles it. -/
theorem vacant_of_foldlM {es : List Edit} (done : es.foldlM Edit.perform? r = some s) :
    s.Vacant name ↔ r.Vacant name ∧ ∀ e ∈ es, ¬ e.Settles name := by
  induction es generalizing r with
  | nil =>
    obtain rfl : r = s := Option.some.inj done
    exact (and_iff_left (List.forall_mem_nil _)).symm
  | cons e es ih =>
    rw [List.foldlM_cons] at done
    obtain ⟨between, first, rest⟩ := Option.bind_eq_some_iff.mp done
    rw [ih rest, vacant_of_perform first, List.forall_mem_cons, and_assoc]

/-- **When an attribute has no value.**  In a record with any history, an attribute is there
without a value if the text that the history begins with leaves it vacant and no edit has settled
it since.  So if there is no such text, or it leaves nothing vacant, every attribute that is there
has a value. -/
theorem vacant_of_history {h : History} (made : h.record? = some r) :
    (∀ name, r.values? name = some [] ↔
      h.source.LeavesVacant name ∧ ∀ e ∈ h.edits, ¬ e.Settles name) ∧
    ((∀ name, ¬ h.source.LeavesVacant name) →
      ∀ name values, r.values? name = some values → values ≠ []) := by
  obtain ⟨first, begun, done⟩ := Option.bind_eq_some_iff.mp made
  have vacant (name : String) : r.values? name = some [] ↔
      h.source.LeavesVacant name ∧ ∀ e ∈ h.edits, ¬ e.Settles name := by
    rw [← vacant_of_record? begun]
    exact vacant_of_foldlM done
  refine ⟨vacant, ?_⟩
  rintro full name _ found rfl
  exact full name ((vacant name).mp found).1

/-- A record with two vacant attributes, one of them by a second mention.  A segment without a
time span is listed in it, and an attribute is set to no values. -/
def flotsam : History where
  source := .decoded ("\x7b\"id\":\"00000000-0000-4000-8000-000000000007\",\"attributes\":\x7b" ++
    "\"title\":[[\"text\",\"buoy\"]],\"title\":[],\"temporal.start\":[]\x7d\x7d")
  edits := [.update (.standard (.footprint none)) (.blank ⟨8, by decide⟩), .setAll Name.title []]

theorem vacant_of_history_flotsam :
    ∃ r, flotsam.record? = some r ∧
      (r.values? Name.temporalStart = some [] ∧ r.values? Name.title = none) ∧
      flotsam.source.LeavesVacant Name.temporalStart ∧
      ∀ e ∈ flotsam.edits, ¬ e.Settles Name.temporalStart := by
  have leads : (flotsam.record?.any fun r =>
      decide (r.values? Name.temporalStart = some [] ∧ r.values? Name.title = none)) = true := by
    decide +kernel
  obtain ⟨r, made, holds⟩ := (Option.any_eq_true _ _).mp leads
  have values := of_decide_eq_true holds
  exact ⟨r, made, values, ((vacant_of_history made).1 Name.temporalStart).mp values.1⟩

/-- **Not every attribute has a value**: a text may give it an empty list. -/
theorem not_forall_filled :
    ¬ ∀ (h : History) (r : Record), h.record? = some r →
      ∀ name values, r.values? name = some values → values ≠ [] := by
  intro all
  have found : ((History.record? ⟨.decoded
      "\x7b\"id\":\"00000000-0000-4000-8000-000000000001\",\"attributes\":\x7b\"title\":[]\x7d\x7d",
      []⟩).any fun r => decide (r.values? Name.title = some [])) = true := by
    decide +kernel
  obtain ⟨r, made, holds⟩ := (Option.any_eq_true _ _).mp found
  exact all _ r made Name.title [] (of_decide_eq_true holds) rfl

end Catalog
end StreamCatalog
