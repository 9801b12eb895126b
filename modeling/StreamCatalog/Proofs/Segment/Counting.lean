import StreamCatalog.Proofs.Segment.Confinement

/-!
# Names that tell their number

If a template holds the number of the name, no two names for one stream and one start of a
period are the same.  That different numbers have different digits is not enough for this: the
number may stand in the name several times, next to digits that come from elsewhere, and numbers
differ in length.

A name is therefore seen as a text with *gaps*, which `fill` fills with the digits of the number.
Everything between the gaps is the same for all numbers (`exists_slots`).  A text with at least
one gap tells what it was filled with: the length of the whole tells the length of the filling,
and then the place of each gap is known (`fill_injective`).

The extension is the one part of a name that is not put in piece by piece.  Whether a text has
one depends on a dot that is not its first character, and neither the dots nor the first place
change with the digits (`isSome_extension?_fill`).  So the extension is appended for every number
or for none.  The main statement is `names_differ`.
-/

namespace StreamCatalog
namespace Segment

/-! ## Texts with gaps -/

/-- Fill the gaps of a text. -/
def fill (filling : List Char) (slots : List (Option (List Char))) : List Char :=
  slots.flatMap fun slot => slot.getD filling

theorem fill_cons (filling : List Char) (slot : Option (List Char))
    (slots : List (Option (List Char))) :
    fill filling (slot :: slots) = slot.getD filling ++ fill filling slots := rfl

variable {slots : List (Option (List Char))} {x y : List Char}

/-- Every gap makes the text longer by what it is filled with. -/
theorem length_fill (x : List Char) (slots : List (Option (List Char))) :
    (fill x slots).length = (fill [] slots).length + slots.count none * x.length := by
  induction slots with
  | nil => simp [fill]
  | cons slot slots ih =>
    rw [fill_cons, fill_cons, List.length_append, List.length_append, ih]
    cases slot with
    | none =>
      rw [List.count_cons_self, Nat.succ_mul, Option.getD_none, Option.getD_none, List.length_nil]
      omega
    | some text =>
      rw [List.count_cons_of_ne (Option.some_ne_none text), Option.getD_some, Option.getD_some]
      omega

/-- **A text with a gap tells what it was filled with.** -/
theorem fill_injective (gap : none ∈ slots) (same : fill x slots = fill y slots) : x = y := by
  have lengths : x.length = y.length := by
    have total := congrArg List.length same
    rw [length_fill x, length_fill y] at total
    have some : 0 < slots.count none := List.count_pos_iff.mpr gap
    exact Nat.eq_of_mul_eq_mul_left some (Nat.add_left_cancel total)
  induction slots with
  | nil => exact nomatch gap
  | cons slot slots ih =>
    cases slot with
    | none => exact (List.append_inj same lengths).1
    | some text =>
      exact ih ((List.mem_cons.mp gap).resolve_left nofun) (List.append_cancel_left same)

/-- A character that does not come with the filling stands between the gaps. -/
theorem mem_fill_iff {c : Char} (other : c ∉ x) :
    c ∈ fill x slots ↔ ∃ text, some text ∈ slots ∧ c ∈ text := by
  rw [fill, List.mem_flatMap]
  constructor
  · rintro ⟨_ | text, member, here⟩
    · exact absurd here other
    · exact ⟨text, member, here⟩
  · rintro ⟨text, member, here⟩
    exact ⟨some text, member, here⟩

/-- Whether a character stands behind the first one does not depend on the filling, if the
filling is there and does not bring in the character. -/
theorem mem_tail_fill_iff {c : Char} (other : c ∉ x) (absent : c ∉ y) (filled : x ≠ [])
    (full : y ≠ []) : c ∈ (fill x slots).tail ↔ c ∈ (fill y slots).tail := by
  induction slots with
  | nil => exact Iff.rfl
  | cons slot slots ih =>
    rw [fill_cons, fill_cons]
    cases slot with
    | none =>
      rw [Option.getD_none, Option.getD_none, List.tail_append_of_ne_nil filled,
        List.tail_append_of_ne_nil full, List.mem_append, List.mem_append, mem_fill_iff other,
        mem_fill_iff absent]
      have outside {z : List Char} (free : c ∉ z) : c ∉ z.tail :=
        fun member => free (List.mem_of_mem_tail member)
      rw [or_iff_right (outside other), or_iff_right (outside absent)]
    | some text =>
      cases text with
      | nil => exact ih
      | cons d ds =>
        rw [Option.getD_some, Option.getD_some, List.cons_append, List.cons_append,
          List.tail_cons, List.tail_cons, List.mem_append, List.mem_append, mem_fill_iff other,
          mem_fill_iff absent]

/-! ## Gaps in names -/

/-- Do the gaps of a text leave nothing but clean characters? -/
def Tidy (slots : List (Option (List Char))) : Prop :=
  ∀ text, some text ∈ slots → ∀ c ∈ text, Clean c

theorem safe_of_clean {c : Char} (clean : Clean c) : safe c = c := by
  refine if_neg ?_
  rintro (unsafely | control)
  · exact clean.1 unsafely
  · exact Bool.false_ne_true (clean.2.symm.trans control)

theorem map_safe_digits (n : Nat) : (Decimal.digits n).map safe = Decimal.digits n := by
  refine (List.map_congr_left fun c member => ?_).trans (List.map_id _)
  exact safe_of_clean (clean_of_isDigit (Decimal.isDigit_of_mem_digits member))

/-- A text that is filled with digits holds clean characters only. -/
theorem clean_of_mem_fill {n : Nat} (tidy : Tidy slots) {c : Char}
    (member : c ∈ fill (Decimal.digits n) slots) : Clean c := by
  obtain ⟨_ | text, within, here⟩ := List.mem_flatMap.mp member
  · exact clean_of_isDigit (Decimal.isDigit_of_mem_digits here)
  · exact tidy text within c here

/-- A text with a gap is plain when it is filled with digits. -/
theorem plain_fill (tidy : Tidy slots) (gap : none ∈ slots) (n : Nat) :
    Path.Plain (fill (Decimal.digits n) slots) := by
  obtain ⟨d, ds, digits⟩ := List.exists_cons_of_ne_nil (Decimal.digits_ne_nil n)
  have first : d ∈ Decimal.digits n := digits ▸ List.mem_cons_self ..
  have member : d ∈ fill (Decimal.digits n) slots := List.mem_flatMap.mpr ⟨none, gap, first⟩
  refine plain_of_mem member ?_ fun slash => (clean_of_mem_fill tidy slash).1 (by decide)
  rintro rfl
  exact absurd (Decimal.isDigit_of_mem_digits first) (by decide)

/-- Whether there is an extension does not depend on the digits in the gaps. -/
theorem isSome_extension?_fill (tidy : Tidy slots) (gap : none ∈ slots) (m n : Nat) :
    (Path.extension? (fill (Decimal.digits m) slots)).isSome = true ↔
      (Path.extension? (fill (Decimal.digits n) slots)).isSome = true := by
  have noDot (n : Nat) : '.' ∉ Decimal.digits n := fun member =>
    absurd (Decimal.isDigit_of_mem_digits member) (by decide)
  rw [Path.isSome_extension?_iff (plain_fill tidy gap m),
    Path.isSome_extension?_iff (plain_fill tidy gap n)]
  exact mem_tail_fill_iff (noDot m) (noDot n) (Decimal.digits_ne_nil m) (Decimal.digits_ne_nil n)

/-- Names with the digits of different numbers in their gaps are different. -/
theorem withExtension_fill_injective (tidy : Tidy slots) (gap : none ∈ slots) {m n : Nat}
    (same : withExtension (fill (Decimal.digits m) slots) =
      withExtension (fill (Decimal.digits n) slots)) : m = n := by
  have agree := isSome_extension?_fill tidy gap m n
  have texts : fill (Decimal.digits m) slots = fill (Decimal.digits n) slots := by
    unfold withExtension at same
    by_cases has : (Path.extension? (fill (Decimal.digits m) slots)).isSome = true
    · rwa [if_pos has, if_pos (agree.mp has)] at same
    · rw [if_neg has, if_neg fun other => has (agree.mpr other)] at same
      exact List.append_cancel_right same
  exact Decimal.digits_injective (fill_injective gap texts)

/-! ## What a piece leaves -/

/-- Does the number of the name take the place of the piece? -/
def Piece.IsCount (piece : Piece) : Prop :=
  ∃ p, piece = .placeholder p ∧ p.name = "count".toList

/-- What a piece leaves in all names that differ in their number only: a gap for the number, or
a text. -/
structure Leaves (n : Naming) (piece : Piece) (slot : Option (List Char)) : Prop where
  gap : slot = none ↔ piece.IsCount
  clean : ∀ text, slot = some text → ∀ c ∈ text, Clean c
  expand : ∀ k, ∃ text, piece.expand { n with count := k } = .ok text ∧
    text.map safe = slot.getD (Decimal.digits (k % counterSize))

/-- Only one placeholder looks at the number of the name. -/
theorem Placeholder.expand_of_ne_count {p : Placeholder} (other : p.name ≠ "count".toList)
    (n : Naming) (k : Nat) : p.expand { n with count := k } = p.expand n := by
  simp only [expand, if_neg other]

/-- A piece that does not look at the number leaves its text. -/
theorem leaves_text {n : Naming} {piece : Piece} {text : List Char}
    (made : piece.expand n = .ok text) (other : ¬ piece.IsCount)
    (still : ∀ k, piece.expand { n with count := k } = piece.expand n) :
    Leaves n piece (some (text.map safe)) where
  gap := iff_of_false nofun other
  clean := by
    rintro _ ⟨⟩ c member
    exact clean_of_mem_map_safe member
  expand k := ⟨text, (still k).trans made, rfl⟩

/-- A piece that has a text leaves something. -/
theorem exists_leaves {n : Naming} {piece : Piece} {text : List Char}
    (made : piece.expand n = .ok text) : ∃ slot, Leaves n piece slot := by
  cases piece with
  | literal c => exact ⟨_, leaves_text made nofun fun _ => rfl⟩
  | placeholder p =>
    by_cases count : p.name = "count".toList
    · refine ⟨none, iff_of_true rfl ⟨p, rfl, count⟩, nofun, fun k => ?_⟩
      refine ⟨Decimal.digits (k % counterSize), ?_, map_safe_digits _⟩
      rw [Piece.expand, Placeholder.expand, count, if_neg (by decide), if_pos rfl]
    · refine ⟨_, leaves_text made ?_ fun k => p.expand_of_ne_count count n k⟩
      rintro ⟨_, ⟨⟩, same⟩
      exact count same

variable {n : Naming} {ps : List Piece}

/-- Whatever the number, what is left is filled with its digits. -/
theorem exists_texts_of_slots (leaves : List.Forall₂ (Leaves n) ps slots) (k : Nat) :
    ∃ texts, List.Forall₂ (fun piece text => Piece.expand { n with count := k } piece = .ok text)
        ps texts ∧
      texts.flatten.map safe = fill (Decimal.digits (k % counterSize)) slots := by
  induction leaves with
  | nil => exact ⟨[], .nil, rfl⟩
  | cons first _ ih =>
    obtain ⟨text, made, same⟩ := first.expand k
    obtain ⟨texts, others, rest⟩ := ih
    refine ⟨text :: texts, .cons made others, ?_⟩
    rw [List.flatten_cons, List.map_append, same, rest, fill_cons]

/-- There is a gap wherever the number stands. -/
theorem gap_iff (leaves : List.Forall₂ (Leaves n) ps slots) :
    none ∈ slots ↔ ∃ piece ∈ ps, piece.IsCount := by
  induction leaves with
  | nil => exact iff_of_false nofun nofun
  | cons first _ ih => rw [List.mem_cons, List.exists_mem_cons_iff, ih, ← first.gap, eq_comm]

theorem tidy_of_leaves (leaves : List.Forall₂ (Leaves n) ps slots) : Tidy slots := by
  induction leaves with
  | nil => exact nofun
  | cons first _ ih =>
    intro text member
    rcases List.mem_cons.mp member with same | further
    · exact first.clean text same.symm
    · exact ih text further

/-- **A name is a text with a gap wherever the template holds the number.** -/
theorem exists_slots {template name : String} (named : fileName template n = .ok name) :
    ∃ slots, (none ∈ slots ↔ ∃ piece ∈ pieces template.toList, piece.IsCount) ∧ Tidy slots ∧
      ∀ k, fileName template { n with count := k } =
        .ok (String.ofList (withExtension (fill (Decimal.digits (k % counterSize)) slots))) := by
  obtain ⟨texts, made, -⟩ := fileName_eq_ok_iff.mp named
  obtain ⟨slots, leaves⟩ : ∃ slots, List.Forall₂ (Leaves n) (pieces template.toList) slots :=
    exists_forall₂_iff.mpr fun piece member =>
      (exists_forall₂_iff.mp ⟨texts, made⟩ piece member).elim fun _ => exists_leaves
  refine ⟨slots, gap_iff leaves, tidy_of_leaves leaves, fun k => ?_⟩
  obtain ⟨texts, made, same⟩ := exists_texts_of_slots leaves k
  exact fileName_eq_ok_iff.mpr ⟨texts, made, by rw [same]⟩

/-- **Names that tell their number are different.**  If a template holds the number of the name
and is asked for a name twice, for one stream and one start of a period, then there is a name at
both times or at none, and the two are different.  What else the generator has been asked for
before, after and in between does not matter, and neither does the number it began with, as long
as there are no more requests than numbers that its counter tells apart. -/
theorem names_differ {g : Generator} {requests : List Request} {r : Request} {i j : Nat}
    (holds : ∃ p, .placeholder p ∈ pieces r.template.toList ∧ p.name = "count".toList)
    (few : requests.length ≤ counterSize) (first : requests[i]? = some r)
    (second : requests[j]? = some r) (apart : i ≠ j) {a : String}
    (named : (g.generateAll requests).1[i]? = some (.ok a)) :
    ∃ b, (g.generateAll requests).1[j]? = some (.ok b) ∧ a ≠ b := by
  rw [Generator.getElem?_generateAll, first, Option.map_some] at named
  obtain ⟨slots, gaps, tidy, names⟩ := exists_slots (Option.some.inj named)
  obtain ⟨p, member, count⟩ := holds
  have gap : none ∈ slots := gaps.mpr ⟨_, member, p, rfl, count⟩
  have first_eq := Except.ok.inj ((names (g.made + i + 1)).symm.trans (Option.some.inj named))
  have second_eq : (g.generateAll requests).1[j]? = some (.ok (String.ofList
      (withExtension (fill (Decimal.digits ((g.made + j + 1) % counterSize)) slots)))) := by
    rw [Generator.getElem?_generateAll, second, Option.map_some]
    exact congrArg some (names (g.made + j + 1))
  refine ⟨_, second_eq, ?_⟩
  rw [← first_eq]
  intro same
  have numbers := withExtension_fill_injective tidy gap (String.ofList_injective same)
  have before : i < requests.length := (List.getElem?_eq_some_iff.mp first).1
  have behind : j < requests.length := (List.getElem?_eq_some_iff.mp second).1
  unfold counterSize at few numbers
  omega

/-- A request with the number at both ends of the name and a digit in between. -/
def twin : Request := ⟨"%\x7bcount\x7d%\x7btitle\x7d%\x7bcount=x\x7d", "1", .epoch⟩

/-- The request is made ten times in a row, and once more behind another one. -/
def twins : List Request := List.replicate 10 twin ++ [⟨"%\x7bdate\x7d", "1", .epoch⟩, twin]

theorem names_differ_twins :
    (∃ p, .placeholder p ∈ pieces twin.template.toList ∧ p.name = "count".toList) ∧
    (Generator.generateAll {} twins).1[0]? = some (.ok "111.ts") ∧
    ∃ b, (Generator.generateAll {} twins).1[11]? = some (.ok b) ∧ "111.ts" ≠ b := by
  have holds : ∃ p, .placeholder p ∈ pieces twin.template.toList ∧ p.name = "count".toList :=
    ⟨⟨"count".toList, none⟩, by decide +kernel, rfl⟩
  have named : (Generator.generateAll {} twins).1[0]? = some (.ok "111.ts") := by decide +kernel
  exact ⟨holds, named, names_differ holds (by decide) rfl rfl (by decide) named⟩

end Segment
end StreamCatalog
