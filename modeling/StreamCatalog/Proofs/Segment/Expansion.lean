import StreamCatalog.Proofs.Codec.DateFormats
import StreamCatalog.Proofs.Outcomes
import StreamCatalog.Segment.Template

/-!
# What a name is made of

A name is made of one text for each piece of its template, in order (`fileName_eq_ok_iff`).  So
there is a name if every piece has a text.  A character has one, and so has a placeholder, but
for one kind: a date whose format is valid and cannot be written (`Time.Unprintable`).

The main statement is `generates_iff`: a generator that is asked for a name, whatever for and
however many names it has made, gives one unless there is such a date in the template, and a
date with a format that is not valid is no obstacle.  That there is always a name is not true,
as `not_forall_generates` says.
-/

namespace StreamCatalog
namespace Segment

/-! ## Texts of pieces -/

/-- A name is made of one text for each piece of its template. -/
theorem fileName_eq_ok_iff {template : String} {n : Naming} {name : String} :
    fileName template n = .ok name ↔
      ∃ texts, List.Forall₂ (fun piece text => piece.expand n = .ok text)
          (pieces template.toList) texts ∧
        name = String.ofList (withExtension (texts.flatten.map safe)) := by
  simp only [← mapM_eq_ok_iff]
  unfold fileName
  rw [bind_eq_ok_iff]
  exact exists_congr fun texts => and_congr_right fun _ =>
    ⟨fun same => (Except.ok.inj same).symm, fun same => congrArg Except.ok same.symm⟩

/-! ## Dates -/

/-- Is it a date whose format is valid and cannot be written? -/
def Placeholder.IsUnprintable (p : Placeholder) : Prop :=
  p.name = "date".toList ∧ ∃ format, p.argument = some format ∧ Time.Unprintable format

/-- The format of a date without one of its own can be written. -/
theorem not_unprintable_plainDate : ¬ Time.Unprintable plainDate := by
  intro unprintable
  obtain ⟨items, read, fails⟩ := (Time.unprintable_iff .epoch).mp unprintable
  have written : ((Time.formatItems? plainDate).bind (Time.writeItems .epoch)).isSome = true := by
    decide +kernel
  rw [read, Option.bind_some, fails] at written
  exact nomatch written

/-- A date in a format that is not valid stays as it was written. -/
theorem Placeholder.expand_of_invalid {p : Placeholder} (n : Naming) (date : p.name = "date".toList)
    (invalid : Time.formatItems? (p.argument.getD plainDate) = none) :
    p.expand n = .ok p.text := by
  rw [expand, if_pos date, invalid]

/-- A date in a valid format has a text if the format can be written. -/
theorem Placeholder.expand_of_valid {p : Placeholder} (n : Naming) {items : List Time.Item}
    (date : p.name = "date".toList)
    (valid : Time.formatItems? (p.argument.getD plainDate) = some items) :
    p.expand n = (Time.writeItems n.start items).elim (.error .unprintableDate) .ok := by
  rw [expand, if_pos date]
  simp only [valid]
  cases Time.writeItems n.start items <;> rfl

/-- A date is unprintable if the format that it is written in is. -/
theorem Placeholder.isUnprintable_iff {p : Placeholder} (date : p.name = "date".toList) :
    p.IsUnprintable ↔ Time.Unprintable (p.argument.getD plainDate) := by
  cases argument : p.argument with
  | none =>
    refine iff_of_false ?_ not_unprintable_plainDate
    rintro ⟨-, format, some, -⟩
    exact nomatch argument.symm.trans some
  | some format =>
    rw [Option.getD_some]
    constructor
    · rintro ⟨-, other, same, unprintable⟩
      rwa [Option.some.inj (argument.symm.trans same)]
    · exact fun unprintable => ⟨date, format, argument, unprintable⟩

/-- A placeholder has a text, unless it is an unprintable date. -/
theorem Placeholder.exists_expand_iff {p : Placeholder} (n : Naming) :
    (∃ text, p.expand n = .ok text) ↔ ¬ p.IsUnprintable := by
  by_cases date : p.name = "date".toList
  · rw [isUnprintable_iff date, Time.unprintable_iff n.start]
    cases read : Time.formatItems? (p.argument.getD plainDate) with
    | none =>
      exact iff_of_true ⟨_, expand_of_invalid n date read⟩ fun ⟨_, same, _⟩ => nomatch same
    | some items =>
      rw [expand_of_valid n date read]
      cases written : Time.writeItems n.start items with
      | none =>
        refine iff_of_false ?_ fun printable => printable ⟨items, rfl, written⟩
        rintro ⟨_, same⟩
        exact nomatch same
      | some text =>
        refine iff_of_true ⟨text, rfl⟩ ?_
        rintro ⟨_, same, fails⟩
        rw [← Option.some.inj same, written] at fails
        exact nomatch fails
  · refine iff_of_true ?_ fun unprintable => date unprintable.1
    rw [expand, if_neg date]
    split
    · exact ⟨_, rfl⟩
    · split <;> exact ⟨_, rfl⟩

/-- A piece has a text, unless it is an unprintable date. -/
theorem Piece.exists_expand_iff {piece : Piece} (n : Naming) :
    (∃ text, piece.expand n = .ok text) ↔ ∀ p, piece = .placeholder p → ¬ p.IsUnprintable := by
  cases piece with
  | literal c => exact iff_of_true ⟨[c], rfl⟩ nofun
  | placeholder p =>
    rw [expand, Placeholder.exists_expand_iff]
    constructor
    · rintro printable q same
      rwa [← Piece.placeholder.inj same]
    · exact fun printable => printable p rfl

/-- **When there is a name**: if no date of the template is unprintable. -/
theorem exists_fileName_iff {template : String} (n : Naming) :
    (∃ name, fileName template n = .ok name) ↔
      ∀ p, .placeholder p ∈ pieces template.toList → ¬ p.IsUnprintable := by
  simp only [fileName_eq_ok_iff]
  constructor
  · rintro ⟨_, texts, made, -⟩ p member
    have has := exists_forall₂_iff.mp ⟨texts, made⟩ (.placeholder p) member
    exact (Piece.exists_expand_iff n).mp has p rfl
  · intro printable
    obtain ⟨texts, made⟩ := exists_forall₂_iff.mpr fun piece member =>
      (Piece.exists_expand_iff n).mpr fun p same => printable p (same ▸ member)
    exact ⟨_, texts, made, rfl⟩

/-! ## Generators -/

namespace Generator

/-- A generator counts its names. -/
theorem made_generateAll (g : Generator) (rs : List Request) :
    (g.generateAll rs).2.made = g.made + rs.length := by
  induction rs generalizing g with
  | nil => rfl
  | cons r rs ih =>
    have rest : (g.generateAll (r :: rs)).2.made = g.made + 1 + rs.length := ih (g.generate r).2
    rw [rest, List.length_cons, Nat.add_assoc, Nat.add_comm 1]

/-- A name is made for its own request and by its number, whatever the other requests are. -/
theorem getElem?_generateAll (g : Generator) (rs : List Request) (i : Nat) :
    (g.generateAll rs).1[i]? =
      rs[i]?.map fun r => fileName r.template ⟨r.title, r.start, g.made + i + 1⟩ := by
  induction rs generalizing g i with
  | nil => rfl
  | cons r rs ih =>
    cases i with
    | zero => rfl
    | succ i =>
      have rest : (g.generateAll (r :: rs)).1[i + 1]? =
          rs[i]?.map fun r => fileName r.template ⟨r.title, r.start, g.made + 1 + i + 1⟩ :=
        ih (g.generate r).2 i
      rw [rest, List.getElem?_cons_succ, Nat.add_assoc g.made 1 i, Nat.add_comm 1 i]

end Generator

/-- **When a generator gives a name.**  Whatever the template, the stream, the period and the
number of names so far:

* there is a name, unless a date of the template has a format that consists of the directive
  `%#z` and a valid format on either side;
* a date with a format that is not valid stays as it was written. -/
theorem generates_iff (g : Generator) (r : Request) :
    ((∃ name, (g.generate r).1 = .ok name) ↔
      ∀ p format, .placeholder p ∈ pieces r.template.toList → p.name = "date".toList →
        p.argument = some format → ¬ Time.Unprintable format) ∧
    ∀ (p : Placeholder) (n : Naming), p.name = "date".toList →
      Time.formatItems? (p.argument.getD plainDate) = none → p.expand n = .ok p.text := by
  refine ⟨(exists_fileName_iff _).trans ?_, fun p n => p.expand_of_invalid n⟩
  constructor
  · intro printable p format member date argument unprintable
    exact printable p member ⟨date, format, argument, unprintable⟩
  · rintro printable p member ⟨date, format, argument, unprintable⟩
    exact printable p format member date argument unprintable

/-- **There is not always a name**, and a date that cannot be written does not stay as it is. -/
theorem not_forall_generates :
    ¬ ∀ (g : Generator) (r : Request), ∃ name, (g.generate r).1 = .ok name := by
  intro all
  obtain ⟨name, made⟩ := all {} ⟨"seg-%\x7bdate=%#z\x7d", "harbor cam", .epoch⟩
  have broken : (Generator.generate {} ⟨"seg-%\x7bdate=%#z\x7d", "harbor cam", .epoch⟩).1 =
      .error .unprintableDate := by
    decide +kernel
  exact nomatch made.symm.trans broken

end Segment
end StreamCatalog
