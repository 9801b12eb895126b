import Mathlib.Data.List.Forall2

/-!
# Computations that may fail

Most of what is computed here may end without a result.  What has come out of several such
computations, done in a row or for each element of a list, is read off from what came out of
the single ones.

* `bind_eq_ok_iff`: two computations of which the second goes on from the result of the first.
* `map_eq_ok_iff`, `exists_map_eq_ok_iff`: a computation whose result is only put into another
  form.
* `mapM_eq_ok_iff`, `exists_mapM_iff`: the same computation for each element of a list.
* `eq_ok_of_toOption`, `exists_of_any`: what is known of a result that may not be there.
-/

namespace StreamCatalog

variable {ε α β : Type} {x : Except ε α}

/-- Two steps have an outcome if the first has one and the second has one from there. -/
theorem bind_eq_ok_iff {f : α → Except ε β} {b : β} :
    x >>= f = .ok b ↔ ∃ a, x = .ok a ∧ f a = .ok b := by
  cases x with
  | error cause => exact ⟨nofun, nofun⟩
  | ok a =>
    refine ⟨fun h => ⟨a, rfl, h⟩, ?_⟩
    rintro ⟨_, ⟨⟩, h⟩
    exact h

/-- What comes out in another form has come out before. -/
theorem map_eq_ok_iff {f : α → β} {b : β} : x.map f = .ok b ↔ ∃ a, x = .ok a ∧ f a = b := by
  cases x with
  | error cause => exact ⟨nofun, nofun⟩
  | ok a => simp [Except.map]

theorem exists_map_eq_ok_iff {f : α → β} : (∃ b, x.map f = .ok b) ↔ ∃ a, x = .ok a := by
  cases x with
  | error cause => exact ⟨nofun, nofun⟩
  | ok a => exact ⟨fun _ => ⟨a, rfl⟩, fun _ => ⟨f a, rfl⟩⟩

/-- What is left of a result when its error is forgotten was its value. -/
theorem eq_ok_of_toOption {a : α} (h : x.toOption = some a) : x = .ok a := by
  cases x with
  | error cause => exact nomatch h
  | ok b => exact congrArg Except.ok (Option.some.inj h)

/-- What has a property if it comes out does come out. -/
theorem exists_of_any {p : α → Bool} (h : x.toOption.any p = true) :
    ∃ a, x = .ok a ∧ p a = true := by
  cases x with
  | error cause => exact nomatch h
  | ok a => exact ⟨a, rfl, h⟩

/-! ## One for each element of a list -/

section Lists

variable {f : α → Except ε β} {as : List α} {bs : List β}

/-- A list of attempts succeeds if each of them does. -/
theorem mapM_eq_ok_iff : as.mapM f = .ok bs ↔ List.Forall₂ (fun a b => f a = .ok b) as bs := by
  induction as generalizing bs with
  | nil =>
    rw [List.mapM_nil, List.forall₂_nil_left_iff]
    exact ⟨fun same => (Except.ok.inj same).symm, fun empty => congrArg Except.ok empty.symm⟩
  | cons a as ih =>
    rw [List.mapM_cons, List.forall₂_cons_left_iff, bind_eq_ok_iff]
    constructor
    · rintro ⟨b, first, h⟩
      obtain ⟨rest, others, h⟩ := bind_eq_ok_iff.mp h
      exact ⟨b, rest, first, ih.mp others, (Except.ok.inj h).symm⟩
    · rintro ⟨b, rest, first, others, rfl⟩
      exact ⟨b, first, bind_eq_ok_iff.mpr ⟨rest, ih.mpr others, rfl⟩⟩

/-- If each element has a partner, there is a list of partners. -/
theorem exists_forall₂_iff {R : α → β → Prop} :
    (∃ bs, List.Forall₂ R as bs) ↔ ∀ a ∈ as, ∃ b, R a b := by
  induction as with
  | nil => exact iff_of_true ⟨[], .nil⟩ nofun
  | cons a as ih =>
    rw [List.forall_mem_cons, ← ih]
    constructor
    · rintro ⟨_, _ | ⟨first, others⟩⟩
      exact ⟨⟨_, first⟩, ⟨_, others⟩⟩
    · rintro ⟨⟨b, first⟩, bs, others⟩
      exact ⟨b :: bs, .cons first others⟩

theorem exists_mapM_iff : (∃ bs, as.mapM f = .ok bs) ↔ ∀ a ∈ as, ∃ b, f a = .ok b := by
  simp only [mapM_eq_ok_iff]
  exact exists_forall₂_iff

end Lists

end StreamCatalog
