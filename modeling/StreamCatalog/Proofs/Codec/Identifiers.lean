import StreamCatalog.Catalog.Id

/-!
# Identifiers are read back

An identifier is written in five groups of hexadecimal digits.  No digit is a hyphen, so
splitting at the hyphens gives the groups back, and the groups together are the digits of
the number, which determine it.  So reading inverts writing (`Id.read?_write`), and
identifiers with the same text are equal (`Id.text_injective`).
-/

namespace StreamCatalog

namespace Text

theorem digitChar_ne_hyphen {d : Nat} (h : d < 16) : Nat.digitChar d ≠ '-' := by
  have all : ∀ e ∈ List.range 16, Nat.digitChar e ≠ '-' := by decide
  exact all d (List.mem_range.mpr h)

/-- No hexadecimal digit is a hyphen. -/
theorem hyphen_not_mem_hexFixed (width n : Nat) : '-' ∉ hexFixed width n := by
  induction width generalizing n with
  | zero => exact List.not_mem_nil
  | succ width ih =>
    rw [hexFixed, List.mem_append, List.mem_singleton, not_or]
    exact ⟨ih (n / 16), (digitChar_ne_hyphen (Nat.mod_lt n (by decide))).symm⟩

end Text

namespace Catalog
namespace Id

theorem length_digits (i : Id) : i.digits.length = 32 := Text.length_hexFixed 32 i.number

theorem hyphen_not_mem_digits (i : Id) : '-' ∉ i.digits := Text.hyphen_not_mem_hexFixed 32 i.number

theorem length_write (i : Id) : i.write.length = 36 := by
  simp [write, length_digits]

/-- The digits are read back. -/
theorem ofDigits?_digits (i : Id) : ofDigits? i.digits = some i := by
  rw [ofDigits?, if_pos i.length_digits, digits, Text.readHex?_hexFixed i.fits]
  exact dif_pos i.fits

/-- Splitting at the hyphens gives the groups of digits. -/
theorem split_write (i : Id) :
    Text.split '-' i.write = [i.digits.take 8, (i.digits.drop 8).take 4, (i.digits.drop 12).take 4,
      (i.digits.drop 16).take 4, i.digits.drop 20] := by
  have drop (n : Nat) : '-' ∉ i.digits.drop n := fun h =>
    i.hyphen_not_mem_digits (List.mem_of_mem_drop h)
  have group (n : Nat) : '-' ∉ (i.digits.drop n).take 4 := fun h => drop n (List.mem_of_mem_take h)
  have first : '-' ∉ i.digits.take 8 := fun h => i.hyphen_not_mem_digits (List.mem_of_mem_take h)
  unfold write
  simp only [List.append_assoc, List.cons_append]
  rw [Text.split_append_cons first, Text.split_append_cons (group 8),
    Text.split_append_cons (group 12), Text.split_append_cons (group 16),
    Text.split_of_not_mem (drop 20)]

theorem flatten_groups (i : Id) :
    [i.digits.take 8, (i.digits.drop 8).take 4, (i.digits.drop 12).take 4,
      (i.digits.drop 16).take 4, i.digits.drop 20].flatten = i.digits := by
  have step (n : Nat) : (i.digits.drop n).take 4 ++ i.digits.drop (n + 4) = i.digits.drop n := by
    rw [← List.drop_drop, List.take_append_drop]
  simp only [List.flatten_cons, List.flatten_nil, List.append_nil]
  rw [step 16, step 12, step 8, List.take_append_drop]

/-- **An identifier is read back from its text.** -/
theorem read?_write (i : Id) : read? i.write = some i := by
  have length := i.length_write
  have groups : ofGroups? i.write = some i := by
    rw [ofGroups?, split_write, if_pos (by simp [length_digits]), flatten_groups]
    exact i.ofDigits?_digits
  rw [read?, if_neg (by omega), if_neg (by simp [length]), if_neg (by simp [length]), groups]

/-- Identifiers with the same text are equal. -/
theorem text_injective {i j : Id} (h : i.text = j.text) : i = j := by
  have same : i.write = j.write := String.ofList_injective h
  have read := i.read?_write
  rw [same, read?_write] at read
  exact (Option.some.inj read).symm

end Id
end Catalog
end StreamCatalog
