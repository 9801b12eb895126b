import StreamCatalog.Config.Basic
import StreamCatalog.Proofs.Codec.SilentFormats
import StreamCatalog.Proofs.Segment.Confinement

/-!
# Extensions of segment names

A name gets the usual extension if its text has none.  Whether there is one is decided twice: for
the text of the template before the extension is added, and for the name when a number has to go
in front of it.  Both times the name is split at its last dot, unless this is its first character,
and the two splits agree.  The number goes in front of the dot that the name was split at, so a
name has the same extension with a number and without (`splitName_numbered`).

There is one text to which adding an extension gives none, the empty one: the name `.ts` is a
hidden file without an extension, and so are the numbered ones, `.ts-1` and so on.  The text is
empty if every piece of the template *vanishes*.  A title vanishes if the stream has an empty one,
and a date does in a format that writes nothing (`Time.Silent`); nothing else vanishes.

`extension_of_generate` says so: the names that are tried for a segment have one extension in
common, unless all pieces of the template vanish.  That they always have one is not true even for
the templates that are accepted in a configuration, as `not_forall_extension` says.
-/

namespace StreamCatalog

/-! ## Splitting -/

namespace Path

/-- A name is split at its last dot. -/
theorem splitName_append {stem extension : List Char} (filled : stem ≠ [])
    (noDot : '.' ∉ extension) : splitName (stem ++ '.' :: extension) = (stem, some extension) := by
  have behind : ∀ c ∈ extension.reverse, decide (c ≠ '.') = true := fun c member =>
    decide_eq_true fun dot => noDot (dot ▸ List.mem_reverse.mp member)
  have turned : (stem ++ '.' :: extension).reverse = extension.reverse ++ '.' :: stem.reverse := by
    rw [List.reverse_append, List.reverse_cons, List.append_assoc, List.singleton_append]
  have stops : Text.Stops (fun c => decide (c ≠ '.')) ('.' :: stem.reverse) :=
    Text.stops_cons rfl _
  obtain ⟨c, cs, last⟩ := List.exists_cons_of_ne_nil (List.reverse_ne_nil_iff.mpr filled)
  rw [splitName, turned, Text.takeWhile_append_of_stops behind stops,
    Text.dropWhile_append_of_stops behind stops, last]
  simp only [← last, List.reverse_reverse]

/-- An extension holds no dot. -/
theorem dot_not_mem_of_splitName {name stem extension : List Char}
    (split : splitName name = (stem, some extension)) : '.' ∉ extension := by
  unfold splitName at split
  dsimp only at split
  split at split
  · obtain rfl := Option.some.inj (Prod.mk.inj split).2
    intro dot
    have other := List.mem_takeWhile_imp (List.mem_reverse.mp dot)
    exact absurd other (by decide)
  · exact nomatch (Prod.mk.inj split).2

theorem extension?_of_plain {name : List Char} (plain : Plain name) :
    extension? name = (splitName name).2 := by
  rw [extension?, fileName?_of_plain plain, Option.bind_some]

theorem extension?_join (directory : String) {name : List Char} (plain : Plain name) :
    extension? (join directory (String.ofList name)).toList = extension? name := by
  rw [extension?_of_plain plain, extension?, fileName?_join directory plain, Option.bind_some]

end Path

namespace Segment

open Writer (choice choiceName)

/-- **A name has the same extension with a number and without.** -/
theorem splitName_numbered (name : List Char) (n : Nat) :
    (Path.splitName (numbered name n)).2 = (Path.splitName name).2 := by
  rcases Path.cases_of_splitName name with split | ⟨c, stem, extension, split, -⟩
  · -- neither the name nor the number brings in a dot behind the first character
    have noDot : '.' ∉ name.tail := by
      rw [← Path.isSome_splitName_iff, split]
      exact Bool.false_ne_true
    have noDot' : '.' ∉ (numbered name n).tail := by
      have number : '.' ∉ '-' :: Decimal.digits n := by
        rintro (_ | ⟨_, digit⟩)
        exact absurd (Decimal.isDigit_of_mem_digits digit) (by decide)
      rw [numbered, split]
      cases name with
      | nil => exact fun member => number (List.mem_cons_of_mem _ member)
      | cons c cs => exact fun member => (List.mem_append.mp member).elim noDot number
    rw [← Path.isSome_splitName_iff, Option.not_isSome_iff_eq_none] at noDot noDot'
    rw [noDot, noDot']
  · have filled : c :: stem ++ '-' :: Decimal.digits n ≠ [] := List.cons_ne_nil _ _
    rw [numbered, split]
    dsimp only
    rw [Path.splitName_append filled (Path.dot_not_mem_of_splitName split)]

/-- All names that are tried for a segment have the same extension, or none. -/
theorem extension?_choice {template : String} {naming : Naming} {name : String}
    (named : fileName template naming = .ok name) (n : Nat) :
    Path.extension? (choice name.toList n) = Path.extension? name.toList := by
  cases n with
  | zero => rfl
  | succ n =>
    have plain : Path.Plain name.toList := Writer.plain_choice named 0
    rw [Path.extension?_of_plain (Writer.plain_choice named (n + 1)),
      Path.extension?_of_plain plain]
    exact splitName_numbered name.toList (n + 1)

/-- A text that is not empty keeps its extension or gets the usual one. -/
theorem extension?_withExtension {text : List Char} (noSlash : '/' ∉ text) (filled : text ≠ []) :
    Path.extension? (withExtension text) = some ((Path.extension? text).getD ['t', 's']) := by
  have plain := plain_withExtension noSlash
  unfold withExtension at plain ⊢
  split
  · rename_i has
    obtain ⟨extension, own⟩ := Option.isSome_iff_exists.mp has
    rw [own, Option.getD_some]
  · rename_i lacks
    rw [if_neg lacks] at plain
    rw [Option.not_isSome_iff_eq_none.mp lacks, Path.extension?_of_plain plain,
      Path.splitName_append filled (by decide), Option.getD_none]

/-! ## Pieces that vanish -/

/-- Does nothing take the place of the placeholder? -/
def Placeholder.Vanishes (title : String) (start : Time.Instant) (p : Placeholder) : Prop :=
  p.name = "title".toList ∧ title = "" ∨
    p.name = "date".toList ∧ Time.Silent start (p.argument.getD plainDate)

/-- Does nothing take the place of the piece? -/
def Piece.Vanishes (title : String) (start : Time.Instant) : Piece → Prop
  | .literal _ => False
  | .placeholder p => p.Vanishes title start

theorem Placeholder.text_ne_nil (p : Placeholder) : p.text ≠ [] :=
  List.ne_nil_of_length_pos p.length_text_pos

/-- A date vanishes if its format writes nothing. -/
theorem Placeholder.expand_date_eq_nil_iff {p : Placeholder} (n : Naming)
    (date : p.name = "date".toList) :
    p.expand n = .ok [] ↔ Time.Silent n.start (p.argument.getD plainDate) := by
  rw [Time.silent_iff]
  cases read : Time.formatItems? (p.argument.getD plainDate) with
  | none =>
    rw [expand_of_invalid n date read]
    exact iff_of_false (fun same => p.text_ne_nil (Except.ok.inj same)) fun ⟨_, same, _⟩ =>
      nomatch same
  | some items =>
    rw [expand_of_valid n date read]
    cases written : Time.writeItems n.start items with
    | none =>
      refine iff_of_false nofun ?_
      rintro ⟨_, same, nothing⟩
      cases same
      exact nomatch written.symm.trans nothing
    | some text =>
      constructor
      · intro same
        exact ⟨items, rfl, written.trans (congrArg some (Except.ok.inj same))⟩
      · rintro ⟨_, same, nothing⟩
        cases same
        exact congrArg Except.ok (Option.some.inj (written.symm.trans nothing))

/-- **What vanishes is a title or a date.** -/
theorem Placeholder.expand_eq_nil_iff {p : Placeholder} {n : Naming} :
    p.expand n = .ok [] ↔ p.Vanishes n.title n.start := by
  unfold Vanishes
  by_cases date : p.name = "date".toList
  · have noTitle : p.name ≠ "title".toList := by
      rw [date]
      decide
    rw [expand_date_eq_nil_iff n date, or_iff_right fun title => noTitle title.1]
    exact (and_iff_right date).symm
  · simp only [date, false_and, or_false]
    rw [expand, if_neg date]
    by_cases count : p.name = "count".toList
    · have noTitle : p.name ≠ "title".toList := by
        rw [count]
        decide
      rw [if_pos count]
      refine iff_of_false (fun same => ?_) fun title => noTitle title.1
      exact Decimal.digits_ne_nil _ (Except.ok.inj same)
    · rw [if_neg count]
      by_cases title : p.name = "title".toList
      · rw [if_pos title, Except.ok.injEq, String.toList_eq_nil_iff]
        exact (and_iff_right title).symm
      · rw [if_neg title]
        exact iff_of_false (fun same => p.text_ne_nil (Except.ok.inj same)) fun has => title has.1

theorem Piece.expand_eq_nil_iff {piece : Piece} {n : Naming} :
    piece.expand n = .ok [] ↔ piece.Vanishes n.title n.start := by
  cases piece with
  | literal c => exact iff_of_false nofun id
  | placeholder p => exact Placeholder.expand_eq_nil_iff

/-- The texts of all pieces come to nothing if every piece vanishes. -/
theorem flatten_eq_nil_iff {n : Naming} {ps : List Piece} {texts : List (List Char)}
    (made : List.Forall₂ (fun piece text => piece.expand n = .ok text) ps texts) :
    texts.flatten = [] ↔ ∀ piece ∈ ps, piece.Vanishes n.title n.start := by
  induction made with
  | nil => exact iff_of_true rfl nofun
  | cons first _ ih =>
    rw [List.flatten_cons, List.append_eq_nil_iff, ih, List.forall_mem_cons,
      ← Piece.expand_eq_nil_iff, first, Except.ok.injEq]

/-- The text that a name is made from is empty if every piece of the template vanishes. -/
theorem exists_text_of_fileName {template : String} {n : Naming} {name : String}
    (named : fileName template n = .ok name) :
    ∃ text, name.toList = withExtension text ∧ '/' ∉ text ∧
      (text = [] ↔ ∀ piece ∈ pieces template.toList, piece.Vanishes n.title n.start) := by
  obtain ⟨texts, made, rfl⟩ := fileName_eq_ok_iff.mp named
  refine ⟨_, String.toList_ofList, slash_not_mem_map_safe texts.flatten, ?_⟩
  rw [List.map_eq_nil_iff, flatten_eq_nil_iff made]

/-! ## Generators -/

/-- **Which extension the names of a segment have.**  If a generator gives a name, then whatever
the template, the title and the date:

* the name and all numbered ones have the same extension, unless every piece of the template
  vanishes;
* if every piece vanishes, the name is the usual extension and nothing else, and neither it nor
  any numbered one has an extension;
* a writer that is given the name writes its segment to a file with the name's extension. -/
theorem extension_of_generate {g : Generator} {r : Request} {name : String}
    (named : (g.generate r).1 = .ok name) :
    ((∃ extension, ∀ n, Path.extension? (choice name.toList n) = some extension) ↔
      ∃ piece ∈ pieces r.template.toList, ¬ piece.Vanishes r.title r.start) ∧
    ((∀ piece ∈ pieces r.template.toList, piece.Vanishes r.title r.start) →
      name = ".ts" ∧ ∀ n, Path.extension? (choice name.toList n) = none) ∧
    ∀ (w w' : Writer) (segment : Snapshot) (t : Option Trouble) (a : Artifact),
      w.template = r.template → w.named = g.made → segment.start = r.start →
      w.attempt r.title segment t = .ok (.ok a, w') →
      Path.extension? a.path.toList = Path.extension? name.toList := by
  obtain ⟨text, chars, noSlash, empty⟩ := exists_text_of_fileName named
  have same (n : Nat) := extension?_choice named n
  have bare (vanish : ∀ piece ∈ pieces r.template.toList, piece.Vanishes r.title r.start) :
      name = ".ts" ∧ ∀ n, Path.extension? (choice name.toList n) = none := by
    have nothing : name.toList = ".ts".toList := by
      rw [chars, empty.mpr vanish]
      decide
    refine ⟨String.toList_injective nothing, fun n => ?_⟩
    rw [same, nothing]
    decide
  refine ⟨⟨?_, ?_⟩, bare, ?_⟩
  · rintro ⟨extension, has⟩
    by_contra all
    simp only [not_exists, not_and, not_not] at all
    exact nomatch (has 0).symm.trans ((bare all).2 0)
  · rintro ⟨piece, member, stays⟩
    have filled : text ≠ [] := fun none => stays (empty.mp none piece member)
    refine ⟨(Path.extension? text).getD ['t', 's'], fun n => ?_⟩
    rw [same, chars, extension?_withExtension noSlash filled]
  · intro w w' segment t a template made start attempted
    have named : fileName w.template ⟨r.title, segment.start, w.named + 1⟩ = .ok name := by
      rw [template, made, start]
      exact named
    obtain ⟨n, -, path⟩ := path_of_attempt named attempted
    rw [path, choiceName, Path.extension?_join w.directory (Writer.plain_choice named n), same]

/-- A request for a name that begins with a dot: the stream has no title, and the date writes
nothing but a part of a second. -/
def chime : Request :=
  ⟨"%\x7btitle\x7d%\x7bdate=%.f\x7d", "", (Time.Instant.of? 0 500000000).getD .epoch⟩

theorem extension_of_generate_chime :
    (Generator.generate {} chime).1 = .ok ".500.ts" ∧
      ∀ n, Path.extension? (choice ".500.ts".toList n) = some "ts".toList := by
  have named : (Generator.generate {} chime).1 = .ok ".500.ts" := by decide +kernel
  have member : .placeholder ⟨"date".toList, some "%.f".toList⟩ ∈ pieces chime.template.toList := by
    decide +kernel
  have stays : ¬ Placeholder.Vanishes chime.title chime.start
      ⟨"date".toList, some "%.f".toList⟩ := by
    rintro (⟨title, -⟩ | ⟨-, n, spelled, rfl | full⟩)
    · exact absurd title (by decide)
    · exact absurd spelled (by decide)
    · exact absurd full (by decide)
  obtain ⟨extension, has⟩ := (extension_of_generate named).1.mpr ⟨_, member, stays⟩
  have first : Path.extension? (choice ".500.ts".toList 0) = some "ts".toList := by decide
  exact ⟨named, fun n => (has n).trans ((has 0).symm.trans first)⟩

/-- A configuration that can be used, for a stream without a title whose segments are named by
it. -/
def untitled : Config :=
  { stream := { title := "" }, output := { filenameTemplate := "%\x7btitle\x7d" } }

/-- **Not every name has an extension**, not even with a configuration that can be used. -/
theorem not_forall_extension :
    ¬ ∀ (c : Config) (g : Generator) (start : Time.Instant) (name : String), c.check = .ok () →
      (g.generate ⟨c.output.filenameTemplate, c.stream.title, start⟩).1 = .ok name →
      ∃ extension, ∀ n, Path.extension? (choice name.toList n) = some extension := by
  intro all
  have named : (Generator.generate {}
      ⟨untitled.output.filenameTemplate, untitled.stream.title, .epoch⟩).1 = .ok ".ts" := by
    decide +kernel
  obtain ⟨extension, has⟩ := all untitled {} .epoch ".ts" rfl named
  have none : Path.extension? (choice ".ts".toList 0) = none := by decide
  exact nomatch none.symm.trans (has 0)

end Segment
end StreamCatalog
