/-!
# Reading from the front of a text

A `Scan` is what was read from the front of a text together with what is left, and
carries the fact that something was taken away.  Readers that call each other on
what is left therefore come to an end.
-/

namespace StreamCatalog
namespace Text

/-- What was read from the front of a text, and the rest. -/
structure Scan (α : Type) (cs : List Char) where
  value : α
  rest : List Char
  shorter : rest.length < cs.length

namespace Scan

variable {α β : Type} {cs : List Char}

/-- Change what was read. -/
def map (f : α → β) (s : Scan α cs) : Scan β cs := ⟨f s.value, s.rest, s.shorter⟩

/-- The same reading seen from an earlier place. -/
def since {ds : List Char} (s : Scan α ds) (h : ds.length ≤ cs.length) : Scan α cs :=
  ⟨s.value, s.rest, Nat.lt_of_lt_of_le s.shorter h⟩

/-- The same reading seen from one character before. -/
def behind (c : Char) (s : Scan α cs) : Scan α (c :: cs) := s.since (Nat.le_succ _)

/-- A second reading, right behind the first. -/
def follow (s : Scan α cs) (t : Scan β s.rest) : Scan β cs := t.since (Nat.le_of_lt s.shorter)

/-- Drop characters of a kind from the rest. -/
def skip (p : Char → Bool) (s : Scan α cs) : Scan α cs :=
  ⟨s.value, s.rest.dropWhile p,
    Nat.lt_of_le_of_lt (List.dropWhile_suffix p).length_le s.shorter⟩

/-- A character that has to come next. -/
def thenChar (c : Char) (s : Scan α cs) : Option (Scan α cs) :=
  match h : s.rest with
  | d :: rest =>
    if d = c then
      some ⟨s.value, rest, by
        have := s.shorter
        rw [h, List.length_cons] at this
        omega⟩
    else none
  | [] => none

/-- One character. -/
def one (a : α) (c : Char) (rest : List Char) : Scan α (c :: rest) := ⟨a, rest, Nat.lt_succ_self _⟩

/-- One character and so many more, if there are as many. -/
def front? (more : Nat) (cs : List Char) : Option (Scan (List Char) cs) :=
  if long : more < cs.length then
    some ⟨cs.take (more + 1), cs.drop (more + 1), by
      rw [List.length_drop]
      omega⟩
  else none

end Scan

/-- Dropping characters of a kind leaves no more than there was. -/
theorem length_dropWhile_le (p : Char → Bool) (cs : List Char) :
    (cs.dropWhile p).length ≤ cs.length := (List.dropWhile_suffix p).length_le

end Text
end StreamCatalog
