/-!
# Splitting at separators

A text with `n` separators has `n + 1` pieces, some of which may be empty.
-/

namespace StreamCatalog
namespace Text

/-- The pieces of a text between separators. -/
def split (separator : Char) : List Char → List (List Char)
  | [] => [[]]
  | c :: cs =>
    if c = separator then [] :: split separator cs
    else
      match split separator cs with
      | first :: others => (c :: first) :: others
      | [] => [[c]]

theorem split_ne_nil (separator : Char) (cs : List Char) : split separator cs ≠ [] := by
  cases cs with
  | nil => simp [split]
  | cons c cs =>
    rw [split]
    split
    · simp
    · split <;> simp

/-- A piece without separators is split off by the separator behind it. -/
theorem split_append_cons {separator : Char} {cs : List Char} (h : separator ∉ cs)
    (ds : List Char) : split separator (cs ++ separator :: ds) = cs :: split separator ds := by
  induction cs with
  | nil => simp [split]
  | cons c cs ih =>
    rw [List.mem_cons, not_or] at h
    rw [List.cons_append, split, if_neg (fun e => h.1 e.symm), ih h.2]

/-- A text without separators is one piece. -/
theorem split_of_not_mem {separator : Char} {cs : List Char} (h : separator ∉ cs) :
    split separator cs = [cs] := by
  induction cs with
  | nil => rfl
  | cons c cs ih =>
    rw [List.mem_cons, not_or] at h
    rw [split, if_neg (fun e => h.1 e.symm), ih h.2]

end Text
end StreamCatalog
