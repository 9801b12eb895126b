import StreamCatalog.Catalog.Updater
import StreamCatalog.Proofs.Outcomes

/-!
# What a stream's record learns

No updater changes the identifier of the record that it updates (`id_of_apply`).  The
standard updaters touch four attributes and leave all others alone; the list of derived
records grows by exactly the identifier of the segment's record, at its end
(`apply_standard_spec`), and the time span grows to cover the segment's
(`times_of_apply_standard`).
-/

namespace StreamCatalog
namespace Catalog
namespace Updater

variable {parent child learned : Record}

/-! ## The single updaters -/

@[simp] theorem id_addDerived (parent child : Record) : (addDerived parent child).id = parent.id :=
  Record.id_setAll parent _ _

/-- The list of derived records grows by one, and all other attributes stay. -/
theorem values?_addDerived (parent child : Record) (name : String) :
    (addDerived parent child).values? name =
      if name = Name.derived then
        some ((parent.values? Name.derived).getD [] ++ [.text child.id.text])
      else parent.values? name :=
  Record.values?_setAll (List.append_ne_nil_of_right_ne_nil _ (List.cons_ne_nil _ _))

/-- Does an update touch nothing but one attribute? -/
def Touches (name : String) (parent learned : Record) : Prop :=
  learned.id = parent.id ∧ ∀ other, other ≠ name → learned.values? other = parent.values? other

theorem touches_self (name : String) (parent : Record) : Touches name parent parent :=
  ⟨rfl, fun _ _ => rfl⟩

theorem touches_set (name : String) (parent : Record) (v : Value) :
    Touches name parent (parent.set name v) := by
  refine ⟨rfl, ?_⟩
  intro other apart
  rw [Record.values?_set, if_neg apart]

theorem touches_takeTime (name : String) (good : Time.Instant → Time.Instant → Bool)
    (parent child : Record) : Touches name parent (takeTime name good parent child) := by
  unfold takeTime
  split
  · exact touches_self name parent
  · split
    · split
      · exact touches_self name parent
      · exact touches_set name parent _
    · exact touches_set name parent _

theorem touches_addLocation {op : Footprint.Operator}
    (h : addLocation op parent child = .ok learned) : Touches Name.location parent learned := by
  unfold addLocation at h
  split at h
  · cases h
    exact touches_self _ parent
  · split at h
    · cases h
      exact touches_self _ parent
    · obtain ⟨place, -, h⟩ := bind_eq_ok_iff.mp h
      cases place with
      | none =>
        cases h
        exact touches_self _ parent
      | some text =>
        cases h
        exact touches_set _ parent _

/-- A segment's point in time is taken over, unless the one that is there is at least as good. -/
theorem values?_takeTime {name : String} {good : Time.Instant → Time.Instant → Bool}
    {old : Option Time.Instant} {t : Time.Instant}
    (had : parent.values? name = old.map fun current => [.timestamp current])
    (has : child.values? name = some [.timestamp t]) :
    (takeTime name good parent child).values? name =
      some [.timestamp (old.elim t fun current => if good current t then current else t)] := by
  have offered : child.timestamp? name = some t := by
    rw [Record.timestamp?, has]
    rfl
  cases old with
  | none =>
    have none : parent.timestamp? name = none := by
      rw [Record.timestamp?, had]
      rfl
    simp [takeTime, offered, none]
  | some current =>
    have known : parent.timestamp? name = some current := by
      rw [Record.timestamp?, had]
      rfl
    by_cases kept : good current t = true
    · simp [takeTime, offered, known, kept, had]
    · simp [takeTime, offered, known, kept]

/-! ## All updaters -/

mutual

/-- **No updater changes the identifier.** -/
theorem id_of_apply (parent child : Record) {learned : Record} : ∀ u : Updater,
    apply parent child u = .ok learned → learned.id = parent.id
  | .derived, h => by
    rw [apply] at h
    cases h
    exact id_addDerived parent child
  | .temporalStart, h => by
    rw [apply] at h
    cases h
    exact (touches_takeTime _ _ parent child).1
  | .temporalEnd, h => by
    rw [apply] at h
    cases h
    exact (touches_takeTime _ _ parent child).1
  | .location op, h => by
    rw [apply] at h
    exact (touches_addLocation h).1
  | .list us, h => by
    rw [apply] at h
    exact id_of_applyAll parent child us h

theorem id_of_applyAll (parent child : Record) {learned : Record} : ∀ us : List Updater,
    applyAll parent child us = .ok learned → learned.id = parent.id
  | [], h => by
    rw [applyAll] at h
    cases h
    rfl
  | u :: us, h => by
    rw [applyAll] at h
    split at h
    · rename_i between first
      rw [id_of_applyAll between child us h]
      exact id_of_apply parent child u first
    · exact nomatch h

end

/-- The attributes that the standard updaters touch. -/
def standardNames : List String :=
  [Name.derived, Name.temporalStart, Name.temporalEnd, Name.location]

/-- The standard updaters one after the other. -/
theorem addLocation_of_standard {op : Footprint.Operator}
    (h : apply parent child (.standard op) = .ok learned) :
    addLocation op (takeTime Name.temporalEnd (fun current t => decide (t ≤ current))
      (takeTime Name.temporalStart (fun current t => decide (current ≤ t)) (addDerived parent child)
        child) child) child = .ok learned := by
  simp only [standard, apply, applyAll] at h
  split at h
  · rename_i record located
    cases h
    exact located
  · exact nomatch h

/-- **What a stream's record learns from a segment's by the standard updaters.**  Its list of
derived records ends in the segment's identifier, and only three other attributes may
have changed. -/
theorem apply_standard_spec {op : Footprint.Operator}
    (h : apply parent child (.standard op) = .ok learned) :
    learned.id = parent.id ∧
      learned.values? Name.derived =
        some ((parent.values? Name.derived).getD [] ++ [.text child.id.text]) ∧
      ∀ name, name ∉ standardNames → learned.values? name = parent.values? name := by
  have start := touches_takeTime Name.temporalStart (fun current t => decide (current ≤ t))
    (addDerived parent child) child
  have finish := touches_takeTime Name.temporalEnd (fun current t => decide (t ≤ current))
    (takeTime Name.temporalStart (fun current t => decide (current ≤ t)) (addDerived parent child)
      child) child
  have place := touches_addLocation (addLocation_of_standard h)
  have kept (name : String) (apart : name ≠ Name.temporalStart ∧ name ≠ Name.temporalEnd ∧
      name ≠ Name.location) : learned.values? name = (addDerived parent child).values? name := by
    rw [place.2 name apart.2.2, finish.2 name apart.2.1, start.2 name apart.1]
  refine ⟨?_, ?_, ?_⟩
  · rw [place.1, finish.1, start.1, id_addDerived]
  · rw [kept Name.derived (by decide), values?_addDerived, if_pos rfl]
  · intro name untouched
    simp only [standardNames, List.mem_cons, List.not_mem_nil, or_false, not_or] at untouched
    rw [kept name untouched.2, values?_addDerived, if_neg untouched.1]

/-- **What becomes of the time span.**  The standard updaters move its start to an earlier start
and its end to a later end; a record without a time span takes over the segment's. -/
theorem times_of_apply_standard {op : Footprint.Operator} (first last : Option Time.Instant)
    {start finish : Time.Instant}
    (hadStart : parent.values? Name.temporalStart = first.map fun t => [.timestamp t])
    (hadEnd : parent.values? Name.temporalEnd = last.map fun t => [.timestamp t])
    (hasStart : child.values? Name.temporalStart = some [.timestamp start])
    (hasEnd : child.values? Name.temporalEnd = some [.timestamp finish])
    (h : apply parent child (.standard op) = .ok learned) :
    learned.values? Name.temporalStart =
        some [.timestamp (first.elim start fun t => if t ≤ start then t else start)] ∧
      learned.values? Name.temporalEnd =
        some [.timestamp (last.elim finish fun t => if finish ≤ t then t else finish)] := by
  have place := touches_addLocation (addLocation_of_standard h)
  have listed (name : String) (apart : name ≠ Name.derived) :
      (addDerived parent child).values? name = parent.values? name := by
    rw [values?_addDerived, if_neg apart]
  constructor
  · rw [place.2 _ (by decide), (touches_takeTime Name.temporalEnd _ _ child).2 _ (by decide),
      values?_takeTime ((listed _ (by decide)).trans hadStart) hasStart]
    simp
  · have kept := (touches_takeTime Name.temporalStart (fun current t => decide (current ≤ t))
      (addDerived parent child) child).2 Name.temporalEnd (by decide)
    rw [place.2 _ (by decide),
      values?_takeTime ((kept.trans (listed _ (by decide))).trans hadEnd) hasEnd]
    simp

end Updater
end Catalog
end StreamCatalog
