import StreamCatalog.Proofs.Codec.Calendar
import StreamCatalog.Proofs.Codec.DateFormats
import StreamCatalog.Proofs.Codec.Numerals

/-!
# Date formats that write nothing

A date can come out as no text at all.  There is one item that may write nothing, the part of a
second with a point, and it does so on a full second (`write_eq_nil_iff`).  All others write
something at every instant: numbers have a digit, and months and weekdays have names.

So a format is *silent* at an instant if it is empty, or is made of the directive `%.f` alone and
the instant falls on a full second (`silent_iff`).  As with formats that cannot be written, this
speaks of the text of the format and not of what the text is read as.
-/

namespace StreamCatalog
namespace Time

/-- Does the format write nothing at an instant? -/
def Silent (i : Instant) (format : List Char) : Prop :=
  ∃ n, format = (List.replicate n ['%', '.', 'f']).flatten ∧ (n = 0 ∨ i.nanosecond = 0)

/-! ## Items -/

theorem fill_ne_nil (p : Padding) (width : Nat) (sign : List Char) (n : Nat) :
    fill p width sign n ≠ [] := by
  have digits := Decimal.digits_ne_nil n
  cases p with
  | bare => exact List.append_ne_nil_of_right_ne_nil _ digits
  | zeros => exact List.append_ne_nil_of_right_ne_nil _ (Decimal.padded_ne_nil _ n)
  | spaces =>
    exact List.append_ne_nil_of_right_ne_nil _ (List.append_ne_nil_of_right_ne_nil _ digits)

theorem Field.write_ne_nil (f : Field) (p : Padding) (i : Instant) : f.write p i ≠ [] := by
  unfold Field.write
  dsimp only
  split
  · exact List.append_ne_nil_of_right_ne_nil _ (Decimal.digits_ne_nil _)
  · split
    · split <;> exact fill_ne_nil _ _ _ _
    · exact fill_ne_nil _ _ _ _

/-- Every month has a name. -/
theorem monthName_ne_empty (i : Instant) : monthNames.getD (i.date.month - 1) "" ≠ "" := by
  have valid := (Date.ofDayNumber_spec i.day).1
  simp only [Date.isValid, Bool.and_eq_true, decide_eq_true_eq] at valid
  have bound : i.date.month - 1 < 12 := by
    have month : i.date.month ≤ 12 := valid.1.1.2
    omega
  have all : ∀ m ∈ List.range 12, monthNames.getD m "" ≠ "" := by decide
  exact all _ (List.mem_range.mpr bound)

/-- Every day of the week has a name. -/
theorem weekdayName_ne_empty (i : Instant) : weekdayNames.getD (weekday i.day) "" ≠ "" := by
  have bound : weekday i.day < 7 := by
    unfold weekday
    omega
  have all : ∀ d ∈ List.range 7, weekdayNames.getD d "" ≠ "" := by decide
  exact all _ (List.mem_range.mpr bound)

theorem writeFraction_eq_nil_iff (nanos : Nat) : writeFraction nanos = [] ↔ nanos = 0 := by
  unfold writeFraction
  split
  · rename_i zero
    exact iff_of_true rfl zero
  · rename_i positive
    refine iff_of_false ?_ positive
    split
    · exact List.cons_ne_nil _ _
    · split <;> exact List.cons_ne_nil _ _

/-- **One kind of item may write nothing**, and does so on a full second. -/
theorem write_eq_nil_iff {i : Instant} {item : Item} :
    item.write i = some [] ↔ item = .fraction ∧ i.nanosecond = 0 := by
  cases item with
  | fraction =>
    rw [Item.write, Option.some.injEq, writeFraction_eq_nil_iff]
    exact (and_iff_right rfl).symm
  | number f p => simp [Item.write, Field.write_ne_nil]
  | shortMonth =>
    exact iff_of_false (fun none => monthName_ne_empty i (by simpa [Item.write] using none)) (by simp)
  | longMonth =>
    exact iff_of_false (fun none => monthName_ne_empty i (by simpa [Item.write] using none)) (by simp)
  | shortWeekday =>
    exact iff_of_false (fun none => weekdayName_ne_empty i (by simpa [Item.write] using none))
      (by simp)
  | longWeekday =>
    exact iff_of_false (fun none => weekdayName_ne_empty i (by simpa [Item.write] using none))
      (by simp)
  | halfDay upper =>
    refine iff_of_false ?_ (by simp)
    by_cases morning : i.hour < 12 <;> cases upper <;> simp [Item.write, morning]
  | digits count point => simp [Item.write, writeDigits, Decimal.padded_ne_nil]
  | literal c => simp [Item.write]
  | zoneName => simp [Item.write]
  | offset colon parts => simp [Item.write, writeOffset]
  | stamp => simp [Item.write]
  | readOnly => simp [Item.write]

/-- Items write nothing if each of them does. -/
theorem writeItems_eq_nil_iff {i : Instant} {items : List Item} :
    writeItems i items = some [] ↔ ∀ item ∈ items, item.write i = some [] := by
  rw [writeItems]
  induction items with
  | nil => simp
  | cons item items ih =>
    rw [List.mapM_cons, List.forall_mem_cons, ← ih]
    cases item.write i with
    | none => simp
    | some text => cases items.mapM (Item.write i) <;> simp

/-! ## Formats -/

/-- A directive of one letter stands for something that always writes. -/
theorem exists_mem_directive {c : Char} {items : List Item} (known : directive c = some items) :
    ∃ item ∈ items, item ≠ .fraction := by
  unfold directive at known
  split at known <;> cases known <;> decide

/-- There is one directive for the part of a second with a point. -/
theorem take_of_fractions {cs : List Char} {items : List Item} {length : Nat}
    (read : readDirective cs = some (items, length)) (all : ∀ item ∈ items, item = .fraction) :
    cs.take length = ['.', 'f'] ∧ items = [.fraction] := by
  have number {c : Char} {p : Padding} (read : (repadded p c).map (·, 2) = some (items, length)) :
      False := by
    obtain ⟨_, known, same⟩ := Option.map_eq_some_iff.mp read
    cases same
    obtain ⟨f, rfl⟩ := exists_of_repadded known
    simp at all
  revert read
  fun_cases readDirective cs <;> intro read
  case case1 => exact absurd read number
  case case2 => exact absurd read number
  case case3 => exact absurd read number
  case case11 =>
    cases read
    exact ⟨rfl, rfl⟩
  case case15 =>
    obtain ⟨_, known, same⟩ := Option.map_eq_some_iff.mp read
    cases same
    obtain ⟨item, member, other⟩ := exists_mem_directive known
    exact absurd (all item member) other
  case case16 => cases read
  -- the others are spelled out
  all_goals
    cases read
    simp at all

/-- What reads as parts of a second only is made of their directive. -/
theorem Reads.exists_replicate {cs : List Char} {items : List Item} (reads : Reads cs items)
    (all : ∀ item ∈ items, item = .fraction) :
    ∃ n, cs = (List.replicate n ['%', '.', 'f']).flatten ∧ items = List.replicate n .fraction := by
  induction reads with
  | nil => exact ⟨0, rfl, rfl⟩
  | literal _ _ _ => exact nomatch all _ List.mem_cons_self
  | @directive word cs its more known _ ih =>
    have read := known.reads []
    rw [List.append_nil] at read
    obtain ⟨spelled, rfl⟩ :=
      take_of_fractions read fun item member => all item (List.mem_append_left more member)
    rw [List.take_length] at spelled
    obtain ⟨n, rfl, rfl⟩ := ih fun item member => all item (List.mem_append_right _ member)
    exact ⟨n + 1, by rw [spelled]; rfl, rfl⟩

/-- The directive for the part of a second is read any number of times. -/
theorem reads_replicate (n : Nat) :
    Reads (List.replicate n ['%', '.', 'f']).flatten (List.replicate n .fraction) := by
  induction n with
  | zero => exact .nil
  | succ n ih =>
    have word : Word [.fraction] ['.', 'f'] := ⟨fun _ => rfl, by simp⟩
    exact .directive word ih

/-- **A format is silent if it is valid and writes nothing.** -/
theorem silent_iff {i : Instant} {format : List Char} :
    Silent i format ↔ ∃ items, formatItems? format = some items ∧ writeItems i items = some [] := by
  simp only [writeItems_eq_nil_iff, write_eq_nil_iff]
  constructor
  · rintro ⟨n, rfl, full⟩
    refine ⟨_, (reads_replicate n).formatItems?_eq, fun item member => ?_⟩
    obtain ⟨some, rfl⟩ := List.mem_replicate.mp member
    exact ⟨rfl, full.resolve_left some⟩
  · rintro ⟨items, read, nothing⟩
    obtain ⟨n, rfl, rfl⟩ := (reads_of_formatItems? read).exists_replicate fun item member =>
      (nothing item member).1
    refine ⟨n, rfl, Decidable.or_iff_not_imp_left.mpr fun some => ?_⟩
    exact (nothing _ (List.mem_replicate.mpr ⟨some, rfl⟩)).2

end Time
end StreamCatalog
