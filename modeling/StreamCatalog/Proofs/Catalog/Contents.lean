import Mathlib.Data.List.Sort
import StreamCatalog.Catalog.Record

/-!
# What a record holds

A record is nothing but its identifier and the values that are found under its names: two records
in which the same is found are equal (`Record.eq_of_values?`).  This is so because attributes are
kept in the order of their names, each name once.  So a record is described by what can be asked
of it, and that an update changes nothing is the same as that it sets what is there already
(`Record.set_eq_self_iff`).
-/

namespace StreamCatalog
namespace Catalog

/-! ## Entries in order -/

/-- In order, an entry is there if its values are found under its name. -/
theorem mem_iff_lookup {es : Entries} (inOrder : InOrder es) {name : String}
    {values : List Value} : (name, values) ∈ es ↔ es.lookup name = some values := by
  constructor
  · intro member
    induction es with
    | nil => exact nomatch member
    | cons e es ih =>
      obtain ⟨before, rest⟩ := List.pairwise_cons.mp inOrder
      rw [List.lookup_cons]
      rcases List.mem_cons.mp member with rfl | member
      · rw [beq_self_eq_true]
      · have later : e.1 < name := before _ member
        have apart : name ≠ e.1 := fun same => String.lt_irrefl _ (same ▸ later)
        rw [beq_false_of_ne apart]
        exact ih rest member
  · intro found
    obtain ⟨before, after, split, -⟩ := List.lookup_eq_some_iff.mp found
    rw [split]
    exact List.mem_append_right before List.mem_cons_self

theorem Attributes.eq_of_find? {a b : Attributes} (same : ∀ name, a.find? name = b.find? name) :
    a = b := by
  obtain ⟨es, inOrder⟩ := a
  obtain ⟨es', inOrder'⟩ := b
  have irrefl : Std.Irrefl fun a b : String × List Value => a.1 < b.1 :=
    ⟨fun a => String.lt_irrefl a.1⟩
  have antisymm : Std.Antisymm fun a b : String × List Value => a.1 < b.1 :=
    ⟨fun a _ before after => absurd (String.lt_trans before after) (String.lt_irrefl a.1)⟩
  have entries : es = es' := by
    refine List.Pairwise.eq_of_mem_iff inOrder inOrder' fun e => ?_
    rw [mem_iff_lookup inOrder, mem_iff_lookup inOrder']
    exact Eq.congr_left (same e.1)
  subst entries
  rfl

/-- What is dropped is not found, and all else stays. -/
theorem Attributes.find?_erase (a : Attributes) (name other : String) :
    (a.erase name).find? other = if other = name then none else a.find? other := by
  refine Option.ext fun values => ?_
  rw [find?, ← mem_iff_lookup (a.erase name).inOrder, erase, List.mem_filter,
    mem_iff_lookup a.inOrder, decide_eq_true_iff]
  by_cases same : other = name
  · rw [if_pos same]
    exact iff_of_false (fun kept => kept.2 same) nofun
  · rw [if_neg same]
    exact and_iff_left same

/-! ## Records -/

namespace Record

/-- What is removed is not found, and all else stays. -/
theorem values?_remove (r : Record) (name other : String) :
    (r.remove name).values? other = if other = name then none else r.values? other :=
  r.attributes.find?_erase name other

/-- No values remove an attribute. -/
theorem setAll_nil (r : Record) (name : String) : r.setAll name [] = r.remove name := rfl

/-- **Two records are equal if the same is found in them.** -/
theorem eq_of_values? {r s : Record} (id : r.id = s.id)
    (same : ∀ name, r.values? name = s.values? name) : r = s := by
  obtain ⟨i, a⟩ := r
  obtain ⟨j, b⟩ := s
  obtain rfl : i = j := id
  obtain rfl : a = b := Attributes.eq_of_find? same
  rfl

/-- Setting a value changes nothing if it is the only one already. -/
theorem set_eq_self_iff {r : Record} {name : String} {v : Value} :
    r.set name v = r ↔ r.values? name = some [v] := by
  constructor
  · intro same
    rw [← same, values?_set, if_pos rfl]
  · intro there
    refine eq_of_values? (id_set r name v) fun other => ?_
    rw [values?_set]
    split
    · next here => rw [here, there]
    · rfl

end Record

end Catalog
end StreamCatalog
