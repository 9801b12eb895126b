import Mathlib.Data.List.TakeWhile
import StreamCatalog.Proofs.Codec.Numerals
import StreamCatalog.Proofs.Segment.Expansion
import StreamCatalog.Segment.Writer

/-!
# Names of segments

A segment is discarded by the name at the end of its path.  This is the name that it was
written under, because the names of segments are *plain*: they hold no slash, so that they
are one component of the path, and they are not empty and not one of the two names that
stand for folders (`Path.fileName?_join`, `Writer.plain_choice`).  What stands in front of the
name are the components of the directory (`Path.components_join`).

The choices for one name are pairwise different (`Writer.choice_injective`): a number makes
the name longer, and different numbers have different digits.

No draft has the name of a segment (`Writer.choiceName_ne_draftName`).  A draft's name has no
dot but its first character; a segment's name has an extension, so that there is a dot
further behind.  The one exception is the name that has nothing in front of its extension, and
this one differs from a draft's in its third character.
-/

namespace StreamCatalog

/-! ## Names at the end of a path -/

theorem Text.split_append (separator : Char) (cs ds : List Char) :
    split separator (cs ++ separator :: ds) = split separator cs ++ split separator ds := by
  induction cs with
  | nil => simp [split]
  | cons c cs ih =>
    rw [List.cons_append, split, split]
    by_cases here : c = separator
    · rw [if_pos here, if_pos here, ih, List.cons_append]
    · rw [if_neg here, if_neg here, ih]
      obtain ⟨first, others, pieces⟩ := List.exists_cons_of_ne_nil (split_ne_nil separator cs)
      rw [pieces]
      rfl

namespace Path

/-- Is this the name of a file, and one component of a path? -/
structure Plain (name : List Char) : Prop where
  noSlash : '/' ∉ name
  notEmpty : name ≠ []
  notHere : name ≠ ['.']
  notAbove : name ≠ ['.', '.']

/-- What a path ends in is its file name. -/
theorem fileName?_of_split {path name : List Char} (before : List (List Char)) (plain : Plain name)
    (pieces : Text.split '/' path = before ++ [name]) : fileName? path = some name := by
  have counts : (decide (name = []) || decide (name = ['.'])) = false := by
    simp [plain.notEmpty, plain.notHere]
  rw [fileName?, pieces, List.reverse_append, List.reverse_singleton, List.singleton_append,
    List.dropWhile_cons_of_neg (by rw [counts]; exact Bool.false_ne_true)]
  exact if_neg plain.notAbove

theorem fileName?_of_plain {name : List Char} (plain : Plain name) : fileName? name = some name :=
  fileName?_of_split [] plain (Text.split_of_not_mem plain.noSlash)

/-- The components of a path: what stands between its slashes, but for nothing and single
dots. -/
def components (path : List Char) : List (List Char) :=
  (Text.split '/' path).filter fun part => !(part = [] || part = ['.'])

/-- What ends in a slash has the components of what stands in front of it. -/
theorem components_append_slash (path : List Char) :
    components (path ++ ['/']) = components path := by
  rw [components, Text.split_append, List.filter_append]
  exact List.append_nil _

/-- The path of an entry of a directory ends in the entry's name, and in front of it stands the
directory. -/
theorem split_join (directory : String) {name : List Char} (plain : Plain name) :
    ∃ before, Text.split '/' (join directory (String.ofList name)).toList = before ++ [name] ∧
      before.filter (fun part => !(part = [] || part = ['.'])) = components directory.toList := by
  have behind (front : List Char) :
      Text.split '/' (front ++ '/' :: name) = Text.split '/' front ++ [name] := by
    rw [Text.split_append, Text.split_of_not_mem plain.noSlash]
  rw [join, String.toList_append, String.toList_ofList, lead]
  split
  · rename_i none
    rw [List.getLast?_eq_none_iff.mp none]
    exact ⟨[], Text.split_of_not_mem plain.noSlash, rfl⟩
  · rename_i last found
    split
    · rename_i slash
      obtain ⟨front, whole⟩ := List.getLast?_eq_some_iff.mp found
      rw [whole, slash, List.append_assoc, List.singleton_append, components_append_slash]
      exact ⟨_, behind front, rfl⟩
    · rw [String.toList_append, List.append_assoc]
      exact ⟨_, behind directory.toList, rfl⟩

/-- The file name of an entry of a directory is the entry's name. -/
theorem fileName?_join (directory : String) {name : List Char} (plain : Plain name) :
    fileName? (join directory (String.ofList name)).toList = some name := by
  obtain ⟨before, pieces, -⟩ := split_join directory plain
  exact fileName?_of_split before plain pieces

/-- An entry of a directory is a direct child of it: its path has the components of the
directory's and one more, the entry's name. -/
theorem components_join (directory : String) {name : List Char} (plain : Plain name) :
    components (join directory (String.ofList name)).toList =
      components directory.toList ++ [name] := by
  obtain ⟨before, pieces, same⟩ := split_join directory plain
  have counts : (decide (name = []) || decide (name = ['.'])) = false := by
    simp [plain.notEmpty, plain.notHere]
  rw [components, pieces, List.filter_append, same, List.filter_singleton, counts]
  rfl

/-- Entries of a directory with the same path have the same name. -/
theorem join_injective {directory first second : String}
    (same : join directory first = join directory second) : first = second := by
  have chars := congrArg String.toList same
  rw [join, join, String.toList_append, String.toList_append] at chars
  exact String.toList_injective (List.append_cancel_left chars)

/-- A name has no extension, or splits at a dot that is not its first character. -/
theorem cases_of_splitName (name : List Char) :
    splitName name = (name, none) ∨
      ∃ c stem extension, splitName name = (c :: stem, some extension) ∧
        name = c :: stem ++ '.' :: extension := by
  have whole := List.takeWhile_append_dropWhile (p := (· ≠ '.')) (l := name.reverse)
  rcases rest : name.reverse.dropWhile (· ≠ '.') with _ | ⟨dot, _ | ⟨d, ds⟩⟩
  · exact Or.inl (by simp only [splitName, rest])
  · exact Or.inl (by simp only [splitName, rest])
  · have further : name.reverse.dropWhile (· ≠ '.') ≠ [] := by
      rw [rest]
      exact List.cons_ne_nil _ _
    have stops := List.head_dropWhile_not _ further
    simp only [rest, List.head_cons] at stops
    have isDot : dot = '.' := Decidable.not_not.mp (of_decide_eq_false stops)
    obtain ⟨c, stem, first⟩ : ∃ c stem, (d :: ds).reverse = c :: stem :=
      List.exists_cons_of_ne_nil (by simp)
    refine Or.inr ⟨c, stem, (name.reverse.takeWhile (· ≠ '.')).reverse, ?_, ?_⟩
    · simp only [splitName, rest, first]
    · rw [rest, isDot] at whole
      have turned := congrArg List.reverse whole
      rw [List.reverse_reverse, List.reverse_append, List.reverse_cons, first] at turned
      rw [List.append_assoc, List.singleton_append] at turned
      exact turned.symm

/-- A name has an extension if there is a dot behind its first character. -/
theorem isSome_splitName_iff (name : List Char) :
    (splitName name).2.isSome = true ↔ '.' ∈ name.tail := by
  cases name with
  | nil => exact iff_of_false (by decide) (by decide)
  | cons c cs =>
    have rest : (c :: cs).reverse.dropWhile (· ≠ '.') =
        if (cs.reverse.dropWhile (· ≠ '.')).isEmpty then [c].dropWhile (· ≠ '.')
        else cs.reverse.dropWhile (· ≠ '.') ++ [c] := by
      rw [List.reverse_cons, List.dropWhile_append]
    rw [List.tail_cons]
    by_cases dot : '.' ∈ cs
    · obtain ⟨d, ds, found⟩ : ∃ d ds, cs.reverse.dropWhile (· ≠ '.') = d :: ds := by
        refine List.exists_cons_of_ne_nil fun none => ?_
        have all := List.dropWhile_eq_nil_iff.mp none '.' (List.mem_reverse.mpr dot)
        exact absurd all (by decide)
      obtain ⟨e, es, further⟩ : ∃ e es, ds ++ [c] = e :: es :=
        List.exists_cons_of_ne_nil (List.append_ne_nil_of_right_ne_nil _ (List.cons_ne_nil _ _))
      rw [found, List.isEmpty_cons, if_neg Bool.false_ne_true, List.cons_append, further] at rest
      simp only [splitName, rest, Option.isSome_some, dot]
    · have none : cs.reverse.dropWhile (· ≠ '.') = [] := by
        refine List.dropWhile_eq_nil_iff.mpr fun d member => decide_eq_true ?_
        rintro rfl
        exact dot (List.mem_reverse.mp member)
      rw [none, List.isEmpty_nil, if_pos rfl] at rest
      refine iff_of_false ?_ dot
      by_cases first : c = '.'
      · have single : [c].dropWhile (· ≠ '.') = [c] := by rw [first]; rfl
        rw [single] at rest
        simp only [splitName, rest]
        exact Bool.false_ne_true
      · have nothing : [c].dropWhile (· ≠ '.') = [] := by simp [first]
        rw [nothing] at rest
        simp only [splitName, rest]
        exact Bool.false_ne_true

theorem isSome_extension?_iff {name : List Char} (plain : Plain name) :
    (extension? name).isSome = true ↔ '.' ∈ name.tail := by
  rw [extension?, fileName?_of_plain plain, Option.bind_some, isSome_splitName_iff]

end Path

namespace Segment

/-! ## Names of segments -/

/-- May a name hold the character? -/
def Clean (c : Char) : Prop := c ∉ reserved ∧ Text.isControl c = false

theorem clean_safe (c : Char) : Clean (safe c) := by
  unfold safe
  split
  · exact ⟨by decide, by decide⟩
  · rename_i harmless
    rw [not_or] at harmless
    exact ⟨harmless.1, eq_false_of_ne_true harmless.2⟩

theorem clean_of_mem_map_safe {cs : List Char} {c : Char} (member : c ∈ cs.map safe) :
    Clean c := by
  obtain ⟨d, -, rfl⟩ := List.mem_map.mp member
  exact clean_safe d

theorem slash_not_mem_map_safe (cs : List Char) : '/' ∉ cs.map safe :=
  fun member => (clean_of_mem_map_safe member).1 (by decide)

/-- What the generator makes is safe and has an extension. -/
theorem exists_of_fileName {template : String} {naming : Naming} {name : String}
    (named : fileName template naming = .ok name) :
    ∃ text : List Char, name.toList = withExtension (text.map safe) := by
  obtain ⟨texts, -, rfl⟩ := fileName_eq_ok_iff.mp named
  exact ⟨texts.flatten, String.toList_ofList⟩

/-- With an extension a name is plain. -/
theorem plain_withExtension {name : List Char} (noSlash : '/' ∉ name) :
    Path.Plain (withExtension name) := by
  unfold withExtension
  split
  · rename_i has
    -- only a name that is one component and no folder has an extension
    have named : Path.fileName? name ≠ none := by
      intro nameless
      rw [Path.extension?, nameless] at has
      exact nomatch has
    rw [Path.fileName?, Text.split_of_not_mem noSlash] at named
    refine ⟨noSlash, ?_, ?_, ?_⟩ <;> (rintro rfl; exact named (by decide))
  · refine ⟨?_, ?_, ?_, ?_⟩
    · rw [List.mem_append, not_or]
      exact ⟨noSlash, by decide⟩
    · exact List.append_ne_nil_of_right_ne_nil _ (by decide)
    · intro same
      have := congrArg List.length same
      simp at this
    · intro same
      have := congrArg List.length same
      simp at this

/-- A name that is not made of dots is plain unless it holds a slash. -/
theorem plain_of_mem {name : List Char} {c : Char} (member : c ∈ name) (notDot : c ≠ '.')
    (noSlash : '/' ∉ name) : Path.Plain name := by
  refine ⟨noSlash, ?_, ?_, ?_⟩
  · rintro rfl
    exact nomatch member
  · rintro rfl
    exact notDot (List.mem_singleton.mp member)
  · rintro rfl
    simp only [List.mem_cons, List.not_mem_nil, or_false, or_self] at member
    exact notDot member

/-- A number before the extension brings in a hyphen, a dot and digits. -/
theorem mem_numbered {name : List Char} {n : Nat} {c : Char} (member : c ∈ numbered name n) :
    c ∈ name ∨ c = '-' ∨ c = '.' ∨ Decimal.isDigit c = true := by
  rcases Path.cases_of_splitName name with split | ⟨d, stem, extension, split, whole⟩
  · simp only [numbered, split, List.mem_append, List.mem_cons] at member
    rcases member with member | hyphen | digit
    · exact Or.inl member
    · exact Or.inr (Or.inl hyphen)
    · exact Or.inr (Or.inr (Or.inr (Decimal.isDigit_of_mem_digits digit)))
  · rw [whole]
    simp only [numbered, split, List.mem_append, List.mem_cons] at member ⊢
    rcases member with (member | hyphen | digit) | dot | member
    · exact Or.inl (Or.inl member)
    · exact Or.inr (Or.inl hyphen)
    · exact Or.inr (Or.inr (Or.inr (Decimal.isDigit_of_mem_digits digit)))
    · exact Or.inl (Or.inr (Or.inl dot))
    · exact Or.inl (Or.inr (Or.inr member))

/-- A number before the extension leaves a name plain. -/
theorem plain_numbered {name : List Char} (noSlash : '/' ∉ name) (n : Nat) :
    Path.Plain (numbered name n) := by
  have hyphen : '-' ∈ numbered name n := by
    unfold numbered
    split <;> simp
  refine plain_of_mem hyphen (by decide) fun member => ?_
  rcases mem_numbered member with member | same | same | digit
  · exact noSlash member
  · exact absurd same (by decide)
  · exact absurd same (by decide)
  · exact absurd digit (by decide)

/-! ## Choices -/

/-- A number before the extension makes a name longer. -/
theorem length_lt_length_numbered (name : List Char) (n : Nat) :
    name.length < (numbered name n).length := by
  rcases Path.cases_of_splitName name with split | ⟨c, stem, extension, split, whole⟩
  · simp only [numbered, split, List.length_append, List.length_cons]
    omega
  · have length := congrArg List.length whole
    simp only [List.length_append, List.length_cons] at length
    simp only [numbered, split, List.length_append, List.length_cons]
    omega

/-- Names with different numbers are different. -/
theorem numbered_injective (name : List Char) {m n : Nat}
    (same : numbered name m = numbered name n) : m = n := by
  rcases Path.cases_of_splitName name with split | ⟨c, stem, extension, split, -⟩
  · simp only [numbered, split] at same
    exact Decimal.digits_injective (List.cons.inj (List.append_cancel_left same)).2
  · simp only [numbered, split] at same
    have digits := List.append_cancel_left (List.append_cancel_right same)
    exact Decimal.digits_injective (List.cons.inj digits).2

namespace Writer

/-- Every name that is tried for a segment is plain. -/
theorem plain_choice {template : String} {naming : Naming} {name : String}
    (named : fileName template naming = .ok name) (n : Nat) :
    Path.Plain (choice name.toList n) := by
  obtain ⟨text, chars⟩ := exists_of_fileName named
  have plain := plain_withExtension (slash_not_mem_map_safe text)
  rw [chars]
  cases n with
  | zero => exact plain
  | succ n => exact plain_numbered plain.noSlash (n + 1)

/-- **The choices for a name are pairwise different.** -/
theorem choice_injective (name : List Char) {m n : Nat} (same : choice name m = choice name n) :
    m = n := by
  cases m with
  | zero =>
    cases n with
    | zero => rfl
    | succ n =>
      have longer := length_lt_length_numbered name (n + 1)
      rw [← show name = numbered name (n + 1) from same] at longer
      exact absurd longer (Nat.lt_irrefl _)
  | succ m =>
    cases n with
    | zero =>
      have longer := length_lt_length_numbered name (m + 1)
      rw [show numbered name (m + 1) = name from same] at longer
      exact absurd longer (Nat.lt_irrefl _)
    | succ n => exact numbered_injective name same

theorem choiceName_injective (name : List Char) {m n : Nat}
    (same : choiceName name m = choiceName name n) : m = n :=
  choice_injective name (String.ofList_injective same)

/-! ## Names of drafts -/

theorem draftName_injective {m n : Nat} (same : draftName m = draftName n) : m = n :=
  Decimal.digits_injective (List.append_cancel_left (String.ofList_injective same))

/-- No draft has a name that begins like a stem and has a dot further behind. -/
theorem cons_ne_toList_draftName {c : Char} {cs : List Char} (dot : '.' ∈ cs) (number : Nat) :
    String.ofList (c :: cs) ≠ draftName number := by
  intro same
  have chars := (List.cons.inj (String.ofList_injective same)).2
  rw [chars] at dot
  rcases List.mem_append.mp dot with here | here
  · exact absurd here (by decide)
  · exact absurd (Decimal.isDigit_of_mem_digits here) (by decide)

/-- If a name has an extension, no draft has it, and none has it with a number. -/
theorem choiceName_ne_of_extension {name : List Char}
    (has : (Path.splitName name).2.isSome = true) (n number : Nat) :
    choiceName name n ≠ draftName number := by
  rcases Path.cases_of_splitName name with split | ⟨c, stem, extension, split, whole⟩
  · rw [split] at has
    exact nomatch has
  · cases n with
    | zero =>
      rw [choiceName, choice, whole, List.cons_append]
      exact cons_ne_toList_draftName (by simp) number
    | succ n =>
      rw [choiceName, choice, numbered, split]
      exact cons_ne_toList_draftName (by simp) number

/-- What the generator makes has an extension, unless it is the extension alone. -/
theorem cases_of_withExtension {name : List Char} (noSlash : '/' ∉ name) :
    withExtension name = ['.', 't', 's'] ∨
      (Path.splitName (withExtension name)).2.isSome = true := by
  unfold withExtension
  split
  · rename_i has
    refine Or.inr ?_
    by_cases folder : name = [] ∨ name = ['.'] ∨ name = ['.', '.']
    · rcases folder with rfl | rfl | rfl <;> exact absurd has (by decide)
    · rw [not_or, not_or] at folder
      have plain : Path.Plain name := ⟨noSlash, folder.1, folder.2.1, folder.2.2⟩
      rwa [Path.isSome_extension?_iff plain, ← Path.isSome_splitName_iff] at has
  · cases name with
    | nil => exact Or.inl rfl
    | cons c cs =>
      refine Or.inr ((Path.isSome_splitName_iff _).mpr ?_)
      exact List.mem_append_right cs (List.mem_cons_self ..)

/-- **No draft has the name of a segment.** -/
theorem choiceName_ne_draftName {template : String} {naming : Naming} {name : String}
    (named : fileName template naming = .ok name) (n number : Nat) :
    choiceName name.toList n ≠ draftName number := by
  obtain ⟨text, chars⟩ := exists_of_fileName named
  rw [chars]
  rcases cases_of_withExtension (slash_not_mem_map_safe text) with bare | has
  · rw [bare]
    have third : (choice ['.', 't', 's'] n)[2]? = some 's' := by
      cases n <;> rfl
    intro same
    rw [String.ofList_injective same] at third
    exact absurd (Option.some.inj third) (by decide)
  · exact choiceName_ne_of_extension has n number

end Writer
end Segment
end StreamCatalog
