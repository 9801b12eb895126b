import StreamCatalog.Time.Format

/-!
# Date formats that cannot be written

A format is valid if all its directives are known, and a valid format can be written for
every instant, with one exception: the directive `%#z` has no text.

So a format is *unprintable* if it is `%#z` with a valid format on either side
(`unprintable_iff`).  This speaks of the text of the format and not of what the text is read
as, so it has to be known where the directives of a text begin.  A directive is recognised by
its own characters and nothing behind them: they are a `Word`.  Hence valid formats are the
texts that consist of words and of other characters, as `Reads` says, and one valid format
behind another is valid again.
-/

namespace StreamCatalog
namespace Time

/-- Is this a format that reads well and cannot be written? -/
def Unprintable (format : List Char) : Prop :=
  ∃ front back, format = front ++ '%' :: '#' :: 'z' :: back ∧
    (formatItems? front).isSome ∧ (formatItems? back).isSome

/-! ## Directives -/

/-- Is the word a directive with these items, whatever follows it? -/
structure Word (items : List Item) (word : List Char) : Prop where
  reads : ∀ rest, readDirective (word ++ rest) = some (items, word.length)
  /-- There is one word that cannot be written. -/
  readOnly : .readOnly ∈ items → word = ['#', 'z']

/-- The characters that a directive of several characters begins with. -/
def leads : List Char := ['-', '0', '_', '#', ':', '.', '3', '6', '9']

theorem directive_of_mem_leads {c : Char} (lead : c ∈ leads) : directive c = none := by
  simp only [leads, List.mem_cons, List.not_mem_nil, or_false] at lead
  rcases lead with rfl | rfl | rfl | rfl | rfl | rfl | rfl | rfl | rfl <;> rfl

/-- A directive of one letter can be written. -/
theorem readOnly_not_mem_directive {c : Char} {items : List Item}
    (known : directive c = some items) : .readOnly ∉ items := by
  unfold directive at known
  split at known <;> cases known <;> decide

/-- A letter that is a directive is a word. -/
theorem word_of_directive {c : Char} {items : List Item} (known : directive c = some items) :
    Word items [c] := by
  refine ⟨fun rest => ?_, fun member => absurd member (readOnly_not_mem_directive known)⟩
  have single : c ∉ leads := by
    intro lead
    rw [directive_of_mem_leads lead] at known
    exact nomatch known
  simp only [leads, List.mem_cons, List.not_mem_nil, or_false, not_or] at single
  rw [List.singleton_append, readDirective]
  · rw [known]
    rfl
  all_goals simp only [single, false_implies, implies_true]

/-- A directive with another padding is one number. -/
theorem exists_of_repadded {p : Padding} {c : Char} {items : List Item}
    (known : repadded p c = some items) : ∃ f, items = [.number f p] := by
  unfold repadded at known
  split at known
  · cases known
    exact ⟨_, rfl⟩
  · exact nomatch known

/-- A directive with another padding is a word. -/
theorem word_of_repadded (mark : Char) {c : Char} {p : Padding} {items : List Item} {length : Nat}
    (reads : ∀ rest, readDirective (mark :: c :: rest) = (repadded p c).map (·, 2))
    (read : (repadded p c).map (·, 2) = some (items, length)) :
    length = 2 ∧ Word items [mark, c] := by
  obtain ⟨_, known, same⟩ := Option.map_eq_some_iff.mp read
  cases same
  refine ⟨rfl, fun rest => ?_, fun member => ?_⟩
  · rw [List.cons_append, List.singleton_append, reads, known]
    rfl
  · obtain ⟨f, rfl⟩ := exists_of_repadded known
    exact nomatch List.mem_singleton.mp member

/-- **What is read as a directive is a word.** -/
theorem word_of_readDirective {cs : List Char} {items : List Item} {length : Nat}
    (read : readDirective cs = some (items, length)) :
    length ≤ cs.length ∧ Word items (cs.take length) := by
  revert read
  fun_cases readDirective cs <;> intro read
  case case1 c rest =>
    obtain ⟨rfl, word⟩ := word_of_repadded '-' (fun _ => rfl) read
    exact ⟨Nat.le_add_left _ _, word⟩
  case case2 c rest =>
    obtain ⟨rfl, word⟩ := word_of_repadded '0' (fun _ => rfl) read
    exact ⟨Nat.le_add_left _ _, word⟩
  case case3 c rest =>
    obtain ⟨rfl, word⟩ := word_of_repadded '_' (fun _ => rfl) read
    exact ⟨Nat.le_add_left _ _, word⟩
  case case15 =>
    obtain ⟨_, known, same⟩ := Option.map_eq_some_iff.mp read
    cases same
    exact ⟨Nat.le_add_left _ _, word_of_directive known⟩
  case case16 => exact nomatch read
  -- the others are spelled out
  all_goals
    cases read
    exact ⟨by simp, fun _ => rfl, by simp⟩

/-! ## Formats -/

/-- Does a text read as these items, directive by directive? -/
inductive Reads : List Char → List Item → Prop where
  | nil : Reads [] []
  | literal {c : Char} {cs : List Char} {items : List Item} (plain : c ≠ '%')
      (behind : Reads cs items) : Reads (c :: cs) (.literal c :: items)
  | directive {word cs : List Char} {items more : List Item} (front : Word items word)
      (behind : Reads cs more) : Reads ('%' :: (word ++ cs)) (items ++ more)

/-- What is read as a format reads as its items. -/
theorem reads_of_formatItems? {cs : List Char} {items : List Item}
    (read : formatItems? cs = some items) : Reads cs items := by
  induction cs using formatItems?.induct generalizing items with
  | case1 =>
    rw [formatItems?] at read
    cases read
    exact .nil
  | case2 cs unknown =>
    rw [formatItems?, if_pos rfl, unknown] at read
    exact nomatch read
  | case3 cs its length known ih =>
    rw [formatItems?, if_pos rfl, known] at read
    obtain ⟨more, behind, rfl⟩ := Option.map_eq_some_iff.mp read
    have whole := Reads.directive (word_of_readDirective known).2 (ih behind)
    rwa [List.take_append_drop] at whole
  | case4 c cs plain ih =>
    rw [formatItems?, if_neg plain] at read
    obtain ⟨more, behind, rfl⟩ := Option.map_eq_some_iff.mp read
    exact .literal plain (ih behind)

variable {cs front back : List Char} {items more : List Item}

/-- What reads as items is read as a format. -/
theorem Reads.formatItems?_eq (reads : Reads cs items) : formatItems? cs = some items := by
  induction reads with
  | nil => rw [formatItems?]
  | literal plain _ ih => rw [formatItems?, if_neg plain, ih, Option.map_some]
  | directive front _ ih =>
    rw [formatItems?, if_pos rfl, front.reads]
    dsimp only
    rw [List.drop_left, ih, Option.map_some]

/-- One valid format behind another is valid. -/
theorem Reads.append (first : Reads front items) (second : Reads back more) :
    Reads (front ++ back) (items ++ more) := by
  induction first with
  | nil => exact second
  | literal plain _ ih => exact .literal plain ih
  | directive word _ ih =>
    rw [List.cons_append, List.append_assoc, List.append_assoc]
    exact .directive word ih

/-- A format with an item that cannot be written holds the directive `%#z`. -/
theorem Reads.exists_of_readOnly (reads : Reads cs items) (member : .readOnly ∈ items) :
    Unprintable cs := by
  induction reads with
  | nil => exact nomatch member
  | @literal c cs items plain _ ih =>
    obtain ⟨front, back, rfl, valid, validBack⟩ :=
      ih ((List.mem_cons.mp member).resolve_left (by simp))
    obtain ⟨before, reads⟩ := Option.isSome_iff_exists.mp valid
    have longer := Reads.literal plain (reads_of_formatItems? reads)
    exact ⟨c :: front, back, rfl, Option.isSome_of_mem longer.formatItems?_eq, validBack⟩
  | @directive word cs items more known behind ih =>
    rcases List.mem_append.mp member with here | further
    · rw [known.readOnly here]
      exact ⟨[], cs, rfl, Option.isSome_of_mem Reads.nil.formatItems?_eq,
        Option.isSome_of_mem behind.formatItems?_eq⟩
    · obtain ⟨front, back, rfl, valid, validBack⟩ := ih further
      obtain ⟨before, reads⟩ := Option.isSome_iff_exists.mp valid
      have longer := Reads.directive known (reads_of_formatItems? reads)
      refine ⟨'%' :: (word ++ front), back, ?_, Option.isSome_of_mem longer.formatItems?_eq,
        validBack⟩
      rw [List.cons_append, List.append_assoc]

/-- A format that holds the directive `%#z` reads as an item that cannot be written. -/
theorem Unprintable.exists_items {format : List Char} (unprintable : Unprintable format) :
    ∃ items, formatItems? format = some items ∧ .readOnly ∈ items := by
  obtain ⟨front, back, rfl, valid, validBack⟩ := unprintable
  obtain ⟨before, first⟩ := Option.isSome_iff_exists.mp valid
  obtain ⟨behind, last⟩ := Option.isSome_iff_exists.mp validBack
  have word : Word [.readOnly] ['#', 'z'] := ⟨fun _ => rfl, fun _ => rfl⟩
  have whole := (reads_of_formatItems? first).append
    (.directive word (reads_of_formatItems? last))
  exact ⟨_, whole.formatItems?_eq, by simp⟩

/-! ## Writing -/

/-- One kind of item cannot be written. -/
theorem write_eq_none_iff {i : Instant} {item : Item} :
    item.write i = none ↔ item = .readOnly := by
  cases item <;> simp [Item.write]

theorem writeItems_eq_none_iff {i : Instant} : writeItems i items = none ↔ .readOnly ∈ items := by
  rw [writeItems, Option.map_eq_none_iff]
  induction items with
  | nil => simp
  | cons item items ih =>
    rw [List.mapM_cons, List.mem_cons, ← ih, eq_comm (a := Item.readOnly),
      ← write_eq_none_iff (i := i)]
    cases item.write i with
    | none => simp
    | some text => cases items.mapM (Item.write i) <;> simp

/-- **A format is unprintable if it is valid and cannot be written**, at whatever instant. -/
theorem unprintable_iff {format : List Char} (i : Instant) :
    Unprintable format ↔ ∃ items, formatItems? format = some items ∧ writeItems i items = none := by
  constructor
  · intro unprintable
    obtain ⟨items, read, member⟩ := unprintable.exists_items
    exact ⟨items, read, writeItems_eq_none_iff.mpr member⟩
  · rintro ⟨items, read, fails⟩
    exact (reads_of_formatItems? read).exists_of_readOnly (writeItems_eq_none_iff.mp fails)

end Time
end StreamCatalog
