import StreamCatalog.Time.Instant

/-!
# Attributes

A record describes its content by attributes, each of which has a name and a list of
values.  A value is a text, an integer or a point in time.

Attributes are kept in the order of their names, each name once; both are part of the
type, so two records with the same attributes are equal.
-/

namespace StreamCatalog
namespace Catalog

/-- A value of an attribute. -/
inductive Value where
  | text (s : String)
  | integer (n : Int64)
  | timestamp (t : Time.Instant)
  deriving DecidableEq, Repr

namespace Value

/-- The text of a value, if it is a text. -/
def text? : Value → Option String
  | .text s => some s
  | _ => none

/-- The number of a value, if it is an integer. -/
def integer? : Value → Option Int64
  | .integer n => some n
  | _ => none

/-- The point in time of a value, if it is one. -/
def timestamp? : Value → Option Time.Instant
  | .timestamp t => some t
  | _ => none

end Value

/-- Attributes and their values, in order. -/
abbrev Entries : Type := List (String × List Value)

/-- Set the values of a name, in its place. -/
def insertEntry (name : String) (values : List Value) : Entries → Entries
  | [] => [(name, values)]
  | e :: es =>
    if name < e.1 then (name, values) :: e :: es
    else if name = e.1 then (name, values) :: es
    else e :: insertEntry name values es

theorem mem_insertEntry {name : String} {values : List Value} {es : Entries}
    {e : String × List Value} (h : e ∈ insertEntry name values es) :
    e = (name, values) ∨ e ∈ es := by
  induction es with
  | nil =>
    rw [insertEntry, List.mem_singleton] at h
    exact Or.inl h
  | cons d es ih =>
    rw [insertEntry] at h
    split at h
    · rw [List.mem_cons] at h
      exact h
    · split at h
      · rw [List.mem_cons] at h
        rcases h with h | h
        · exact Or.inl h
        · exact Or.inr (List.mem_cons_of_mem _ h)
      · rw [List.mem_cons] at h
        rcases h with h | h
        · exact Or.inr (h ▸ List.mem_cons_self)
        · rcases ih h with h | h
          · exact Or.inl h
          · exact Or.inr (List.mem_cons_of_mem _ h)

/-- The values that are set are found, and all else stays. -/
theorem lookup_insertEntry (name other : String) (values : List Value) (es : Entries) :
    (insertEntry name values es).lookup other =
      if other = name then some values else es.lookup other := by
  induction es with
  | nil =>
    rw [insertEntry, List.lookup_cons]
    by_cases same : other = name
    · rw [if_pos same, same, beq_self_eq_true]
    · rw [if_neg same, beq_false_of_ne same]
  | cons e es ih =>
    rw [insertEntry]
    split
    · rw [List.lookup_cons]
      by_cases same : other = name
      · rw [if_pos same, same, beq_self_eq_true]
      · rw [if_neg same, beq_false_of_ne same]
    · split
      · rename_i here
        rw [List.lookup_cons, List.lookup_cons, here]
        by_cases same : other = e.1
        · rw [if_pos same, same, beq_self_eq_true]
        · rw [if_neg same, beq_false_of_ne same]
      · rename_i elsewhere
        rw [List.lookup_cons, List.lookup_cons, ih]
        by_cases here : other = e.1
        · have other_ne : other ≠ name := fun same => elsewhere (same.symm.trans here)
          rw [beq_iff_eq.mpr here]
          exact (if_neg other_ne).symm
        · rw [beq_false_of_ne here]

/-- Is every name before all later ones? -/
def InOrder (es : Entries) : Prop := es.Pairwise fun a b => a.1 < b.1

theorem inOrder_insertEntry (name : String) (values : List Value) {es : Entries}
    (h : InOrder es) : InOrder (insertEntry name values es) := by
  induction es with
  | nil => simp [insertEntry, InOrder]
  | cons e es ih =>
    have tail := List.pairwise_cons.mp h
    rw [insertEntry]
    split
    · rename_i before
      refine List.pairwise_cons.mpr ⟨fun a ha => ?_, h⟩
      rcases List.mem_cons.mp ha with rfl | ha
      · exact before
      · exact String.lt_trans before (tail.1 a ha)
    · rename_i notBefore
      split
      · rename_i same
        exact List.pairwise_cons.mpr ⟨fun a ha => same ▸ tail.1 a ha, tail.2⟩
      · rename_i other
        refine List.pairwise_cons.mpr ⟨fun a ha => ?_, ih tail.2⟩
        rcases mem_insertEntry ha with rfl | ha
        · rcases Decidable.em (e.1 < name) with before | after
          · exact before
          · exact absurd (String.le_antisymm (String.not_lt.mp after) (String.not_lt.mp notBefore))
              (fun eq => other eq)
        · exact tail.1 a ha

/-- The attributes of a record. -/
structure Attributes where
  entries : Entries
  inOrder : InOrder entries
  deriving DecidableEq, Repr

namespace Attributes

/-- No attributes. -/
def empty : Attributes := ⟨[], List.Pairwise.nil⟩

/-- The values of an attribute. -/
def find? (a : Attributes) (name : String) : Option (List Value) := a.entries.lookup name

/-- Set the values of an attribute. -/
def insert (a : Attributes) (name : String) (values : List Value) : Attributes :=
  ⟨insertEntry name values a.entries, inOrder_insertEntry name values a.inOrder⟩

/-- Drop an attribute. -/
def erase (a : Attributes) (name : String) : Attributes :=
  ⟨a.entries.filter fun e => e.1 ≠ name, a.inOrder.filter _⟩

@[simp] theorem find?_empty (name : String) : empty.find? name = none := rfl

@[simp] theorem find?_insert (a : Attributes) (name other : String) (values : List Value) :
    (a.insert name values).find? other = if other = name then some values else a.find? other :=
  lookup_insertEntry name other values a.entries

end Attributes

end Catalog
end StreamCatalog
