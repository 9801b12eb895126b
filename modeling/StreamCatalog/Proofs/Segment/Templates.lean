import StreamCatalog.Proofs.Codec.Numerals
import StreamCatalog.Proofs.Segment.Expansion

/-!
# Templates as they are meant

Whoever writes a template thinks of literal texts and placeholders, one behind the other.  The
scanner knows nothing of these parts: it sees one text and takes a placeholder wherever one
begins.  The two agree on every `Phrased` list of parts, where no literal text holds the two
characters that a placeholder begins with and no two literal texts stand side by side
(`pieces_of_phrased`).  Everything else is allowed: percent signs and braces of any other kind,
placeholders that nobody knows, arguments that look like placeholders.

The rest is the meaning of a single part, which `Stands` says case by case.  Since the text of a
part is put into the name and not into the template, it is not scanned again, whatever it
holds.  The main statement is `name_of_phrased`.
-/

namespace StreamCatalog
namespace Segment

/-! ## Parts -/

/-- A part of a template. -/
inductive Part where
  | literal (text : List Char)
  | placeholder (p : Placeholder)

/-- A part as it is written. -/
def Part.text : Part → List Char
  | .literal text => text
  | .placeholder p => p.text

/-- Is it a literal text? -/
def Part.isLiteral : Part → Bool
  | .literal _ => true
  | .placeholder _ => false

/-- The pieces that a part is scanned as. -/
def Part.pieces : Part → List Piece
  | .literal text => text.map .literal
  | .placeholder p => [.placeholder p]

/-- Does a placeholder have a name of letters, and no closing brace in its argument? -/
structure Placeholder.Proper (p : Placeholder) : Prop where
  named : p.name ≠ []
  letters : ∀ c ∈ p.name, isNameLetter c = true
  closed : ∀ a, p.argument = some a → '\x7d' ∉ a

/-- The two characters that a placeholder begins with. -/
def opening : List Char := ['%', '\x7b']

/-- Is it a literal text in which no placeholder begins, or a proper placeholder? -/
def Part.Sound : Part → Prop
  | .literal text => ¬ opening <:+: text
  | .placeholder p => p.Proper

/-- Can the parts of a template be told from its text? -/
structure Phrased (parts : List Part) : Prop where
  sound : ∀ part ∈ parts, part.Sound
  /-- Literal texts side by side are one. -/
  merged : parts.IsChain fun a b => (a.isLiteral && b.isLiteral) = false

/-- Is the placeholder no date, or one that can be written if its format is valid? -/
def Placeholder.Writable (start : Time.Instant) (p : Placeholder) : Prop :=
  p.name = "date".toList → ∀ items, Time.formatItems? (p.argument.getD plainDate) = some items →
    Time.writeItems start items ≠ none

/-- What stands in a name for a part of its template. -/
inductive Stands (n : Naming) : Part → List Char → Prop where
  | literal (text : List Char) : Stands n (.literal text) text
  /-- The start of the period, in the format of the placeholder or else in the plain one. -/
  | date {p : Placeholder} {items : List Time.Item} {text : List Char}
      (named : p.name = "date".toList)
      (valid : Time.formatItems? (p.argument.getD plainDate) = some items)
      (written : Time.writeItems n.start items = some text) : Stands n (.placeholder p) text
  /-- A date in a format that is not valid stays as it is. -/
  | invalid {p : Placeholder} (named : p.name = "date".toList)
      (invalid : Time.formatItems? (p.argument.getD plainDate) = none) :
      Stands n (.placeholder p) p.text
  /-- The number of the name, as a counter of 64 bits holds it. -/
  | count {p : Placeholder} (named : p.name = "count".toList) :
      Stands n (.placeholder p) (Decimal.digits (n.count % counterSize))
  | title {p : Placeholder} (named : p.name = "title".toList) :
      Stands n (.placeholder p) n.title.toList
  /-- Any other placeholder stays as it is. -/
  | unknown {p : Placeholder} (date : p.name ≠ "date".toList) (count : p.name ≠ "count".toList)
      (title : p.name ≠ "title".toList) : Stands n (.placeholder p) p.text

/-! ## Scanning -/

/-- A proper placeholder is recognised, whatever follows. -/
theorem placeholderAt_text_append {p : Placeholder} (proper : p.Proper) (rest : List Char) :
    placeholderAt (p.text ++ rest) = some p := by
  obtain ⟨name, argument⟩ := p
  cases argument with
  | none =>
    have stops : Text.Stops isNameLetter ('\x7d' :: rest) := Text.stops_cons (by decide) rest
    have shape : (Placeholder.mk name none).text ++ rest =
        '%' :: '\x7b' :: (name ++ '\x7d' :: rest) := by
      simp [Placeholder.text]
    rw [shape, placeholderAt, Text.takeWhile_append_of_stops proper.letters stops,
      Text.dropWhile_append_of_stops proper.letters stops]
    exact if_neg proper.named
  | some a =>
    have stops : Text.Stops isNameLetter ('=' :: (a ++ '\x7d' :: rest)) :=
      Text.stops_cons (by decide) _
    have shape : (Placeholder.mk name (some a)).text ++ rest =
        '%' :: '\x7b' :: (name ++ '=' :: (a ++ '\x7d' :: rest)) := by
      simp [Placeholder.text]
    have inside : ∀ c ∈ a, decide (c ≠ '\x7d') = true := by
      intro c member
      refine decide_eq_true ?_
      rintro rfl
      exact proper.closed a rfl member
    have closes : Text.Stops (fun c => decide (c ≠ '\x7d')) ('\x7d' :: rest) :=
      Text.stops_cons (by decide) rest
    have argument : (if '\x7d' ∈ a ++ '\x7d' :: rest then
        some (Placeholder.mk name (some ((a ++ '\x7d' :: rest).takeWhile (· ≠ '\x7d'))))
        else none) = some ⟨name, some a⟩ := by
      rw [if_pos (by simp), Text.takeWhile_append_of_stops inside closes]
    rw [shape, placeholderAt, Text.takeWhile_append_of_stops proper.letters stops,
      Text.dropWhile_append_of_stops proper.letters stops]
    exact (if_neg proper.named).trans argument

/-- No placeholder begins where its two characters do not stand. -/
theorem placeholderAt_of_not_opening {cs : List Char} (other : ¬ opening <+: cs) :
    placeholderAt cs = none := by
  unfold placeholderAt
  split
  · rename_i rest
    exact absurd ⟨rest, rfl⟩ other
  · rfl

/-- A proper placeholder is one piece. -/
theorem pieces_text_append {p : Placeholder} (proper : p.Proper) (rest : List Char) :
    pieces (p.text ++ rest) = .placeholder p :: pieces rest := by
  have found := placeholderAt_text_append proper rest
  obtain ⟨c, cs, shape⟩ : ∃ c cs, p.text = c :: cs :=
    List.exists_cons_of_ne_nil (List.ne_nil_of_length_pos p.length_text_pos)
  rw [shape, List.cons_append] at found ⊢
  rw [pieces, found]
  dsimp only
  rw [← List.cons_append, ← shape, List.drop_left]

/-- A literal text is split into its characters, if what follows does not complete a
placeholder's beginning. -/
theorem pieces_literal_append {text rest : List Char} (free : ¬ opening <:+: text)
    (apart : rest.head? ≠ some '\x7b') :
    pieces (text ++ rest) = text.map .literal ++ pieces rest := by
  induction text with
  | nil => rfl
  | cons c cs ih =>
    have other : ¬ opening <+: c :: (cs ++ rest) := by
      rintro ⟨more, same⟩
      obtain ⟨rfl, behind⟩ := List.cons.inj same
      cases cs with
      | nil =>
        have first : rest = '\x7b' :: more := behind.symm
        exact apart (by rw [first, List.head?_cons])
      | cons d ds =>
        have brace : '\x7b' = d := (List.cons.inj behind).1
        rw [← brace] at free
        exact free ⟨[], ds, rfl⟩
    have free : ¬ opening <:+: cs := fun inside => free (List.infix_cons inside)
    rw [List.cons_append, pieces, placeholderAt_of_not_opening other]
    dsimp only
    rw [ih free, List.map_cons, List.cons_append]

/-- Behind a literal text there is nothing or a placeholder. -/
theorem head?_flatMap_text {text : List Char} {parts : List Part}
    (phrased : Phrased (.literal text :: parts)) :
    (parts.flatMap Part.text).head? ≠ some '\x7b' := by
  cases parts with
  | nil => exact nofun
  | cons part parts =>
    cases part with
    | literal other =>
      exact nomatch (List.isChain_cons_cons.mp phrased.merged).1
    | placeholder p =>
      intro same
      exact absurd (Option.some.inj same) (by decide)

/-- The rest of a phrased template is phrased. -/
theorem Phrased.tail {part : Part} {parts : List Part} (phrased : Phrased (part :: parts)) :
    Phrased parts where
  sound part member := phrased.sound part (List.mem_cons_of_mem _ member)
  merged := phrased.merged.of_cons

/-- **A phrased template is scanned as its parts.** -/
theorem pieces_of_phrased {parts : List Part} (phrased : Phrased parts) :
    pieces (parts.flatMap Part.text) = parts.flatMap Part.pieces := by
  induction parts with
  | nil => rw [List.flatMap_nil, List.flatMap_nil, pieces]
  | cons part parts ih =>
    have sound : part.Sound := phrased.sound part (List.mem_cons_self ..)
    rw [List.flatMap_cons, List.flatMap_cons, ← ih phrased.tail]
    cases part with
    | literal text => exact pieces_literal_append sound (head?_flatMap_text phrased)
    | placeholder p => exact pieces_text_append sound _

/-! ## Meaning -/

/-- What stands for a placeholder takes its place. -/
theorem expand_of_stands {n : Naming} {p : Placeholder} {text : List Char}
    (stands : Stands n (.placeholder p) text) : p.expand n = .ok text := by
  cases stands with
  | date named valid written =>
    rw [Placeholder.expand_of_valid n named valid, written, Option.elim_some]
  | invalid named invalid => exact Placeholder.expand_of_invalid n named invalid
  | count named =>
    rw [Placeholder.expand, named, if_neg (by decide), if_pos rfl]
  | title named =>
    rw [Placeholder.expand, named, if_neg (by decide), if_neg (by decide), if_pos rfl]
  | unknown date count title =>
    rw [Placeholder.expand, if_neg date, if_neg count, if_neg title]

/-- Something stands for every part, unless it is a date that cannot be written. -/
theorem exists_stands {n : Naming} {part : Part}
    (writable : ∀ p, part = .placeholder p → p.Writable n.start) :
    ∃ text, Stands n part text := by
  cases part with
  | literal text => exact ⟨text, .literal text⟩
  | placeholder p =>
    by_cases date : p.name = "date".toList
    · cases valid : Time.formatItems? (p.argument.getD plainDate) with
      | none => exact ⟨p.text, .invalid date valid⟩
      | some items =>
        obtain ⟨text, written⟩ := Option.ne_none_iff_exists'.mp (writable p rfl date items valid)
        exact ⟨text, .date date valid written⟩
    · by_cases count : p.name = "count".toList
      · exact ⟨_, .count count⟩
      · by_cases title : p.name = "title".toList
        · exact ⟨_, .title title⟩
        · exact ⟨p.text, .unknown date count title⟩

/-- The pieces of a part have texts, which together are what stands for the part. -/
theorem exists_texts_of_stands {n : Naming} {parts : List Part} {texts : List (List Char)}
    (stands : List.Forall₂ (Stands n) parts texts) :
    ∃ small, List.Forall₂ (fun piece text => piece.expand n = .ok text)
        (parts.flatMap Part.pieces) small ∧ small.flatten = texts.flatten := by
  induction stands with
  | nil => exact ⟨[], .nil, rfl⟩
  | @cons part text parts texts first _ ih =>
    obtain ⟨small, made, same⟩ := ih
    cases part with
    | literal other =>
      cases first
      refine ⟨text.map (fun c => [c]) ++ small, List.rel_append ?_ made, ?_⟩
      · exact List.forall₂_map_left_iff.mpr (List.forall₂_map_right_iff.mpr
          (List.forall₂_same.mpr fun _ _ => rfl))
      · rw [List.flatten_append, same, List.flatten_cons, ← List.flatMap_def,
          List.flatMap_singleton']
    | placeholder p =>
      refine ⟨text :: small, .cons (expand_of_stands first) made, ?_⟩
      rw [List.flatten_cons, List.flatten_cons, same]

/-- The name that a phrased template stands for. -/
theorem fileName_of_phrased {n : Naming} {parts : List Part} {texts : List (List Char)}
    (phrased : Phrased parts) (stands : List.Forall₂ (Stands n) parts texts) :
    fileName (String.ofList (parts.flatMap Part.text)) n =
      .ok (String.ofList (withExtension (texts.flatten.map safe))) := by
  obtain ⟨small, made, same⟩ := exists_texts_of_stands stands
  refine fileName_eq_ok_iff.mpr ⟨small, ?_, by rw [same]⟩
  rwa [String.toList_ofList, pieces_of_phrased phrased]

/-- **The name that a template means.**  If a template is put together from literal texts and
placeholders, then whatever these are, whatever the title and the start of the period and
however many names have been made before, the name is made of what stands for each part, with
unsafe characters replaced and the usual extension if it has none.  The number in it is the
number of the name.  The one condition is that no date of the template has a valid format that
cannot be written. -/
theorem name_of_phrased {parts : List Part} (title : String) {start : Time.Instant}
    (phrased : Phrased parts) (writable : ∀ p, .placeholder p ∈ parts → p.Writable start)
    (earlier : List Request) :
    ∃ texts, List.Forall₂ (Stands ⟨title, start, earlier.length + 1⟩) parts texts ∧
      ((Generator.generateAll {} earlier).2.generate
        ⟨String.ofList (parts.flatMap Part.text), title, start⟩).1 =
          .ok (String.ofList (withExtension (texts.flatten.map safe))) := by
  obtain ⟨texts, stands⟩ : ∃ texts,
      List.Forall₂ (Stands ⟨title, start, earlier.length + 1⟩) parts texts :=
    exists_forall₂_iff.mpr fun part member =>
      exists_stands fun p same => writable p (same ▸ member)
  refine ⟨texts, stands, ?_⟩
  rw [Generator.generate, Generator.made_generateAll, Nat.zero_add]
  exact fileName_of_phrased phrased stands

/-- A template with a percent sign in front of placeholders, braces behind one, an argument that
looks like a placeholder, a placeholder that nobody knows and a line break. -/
def motley : List Part :=
  [.literal "100%".toList, .placeholder ⟨"title".toList, none⟩, .literal "{}-".toList,
    .placeholder ⟨"date".toList, some "%Y/%m".toList⟩,
    .placeholder ⟨"date".toList, some "%\x7bcount".toList⟩,
    .placeholder ⟨"frame".toList, none⟩, .literal "\n%".toList,
    .placeholder ⟨"count".toList, some []⟩]

theorem phrased_motley : Phrased motley where
  sound := by
    have proper (name : List Char) (argument : Option (List Char)) (named : name ≠ [])
        (letters : name.all isNameLetter = true) (closed : ∀ a ∈ argument, '\x7d' ∉ a) :
        Placeholder.Proper ⟨name, argument⟩ :=
      ⟨named, List.all_eq_true.mp letters, closed⟩
    simp only [motley, List.forall_mem_cons, Part.Sound]
    exact ⟨by decide, proper _ _ (by decide) (by decide) (by decide), by decide,
      proper _ _ (by decide) (by decide) (by decide),
      proper _ _ (by decide) (by decide) (by decide),
      proper _ _ (by decide) (by decide) (by decide), by decide,
      proper _ _ (by decide) (by decide) (by decide), nofun⟩
  merged := by decide

theorem name_of_phrased_motley :
    Phrased motley ∧ (∀ p, .placeholder p ∈ motley → p.Writable .epoch) ∧
    ∃ texts, List.Forall₂ (Stands ⟨"%\x7bcount\x7d", .epoch, 2⟩) motley texts ∧
      String.ofList (withExtension (texts.flatten.map safe)) =
        "100%%\x7bcount\x7d\x7b\x7d-1970_01%\x7bdate=%\x7bcount\x7d%\x7bframe\x7d_%2.ts" ∧
      ((Generator.generateAll {} [⟨"", "", .epoch⟩]).2.generate
        ⟨String.ofList (motley.flatMap Part.text), "%\x7bcount\x7d", .epoch⟩).1 =
          .ok (String.ofList (withExtension (texts.flatten.map safe))) := by
  have formats : motley.all (fun part =>
      match part with
      | .literal _ => true
      | .placeholder p => (Time.formatItems? (p.argument.getD plainDate)).all fun items =>
        (Time.writeItems .epoch items).isSome) = true := by decide +kernel
  have writable : ∀ p, .placeholder p ∈ motley → p.Writable .epoch := by
    intro p member _ items valid fails
    have written : ((Time.formatItems? (p.argument.getD plainDate)).all fun items =>
        (Time.writeItems .epoch items).isSome) = true := List.all_eq_true.mp formats _ member
    rw [valid, Option.all_some, fails] at written
    exact nomatch written
  obtain ⟨texts, stands, named⟩ :=
    name_of_phrased "%\x7bcount\x7d" phrased_motley writable [⟨"", "", .epoch⟩]
  refine ⟨phrased_motley, writable, texts, stands, ?_, named⟩
  have checked : ((Generator.generateAll {} [⟨"", "", .epoch⟩]).2.generate
      ⟨String.ofList (motley.flatMap Part.text), "%\x7bcount\x7d", .epoch⟩).1 =
        .ok "100%%\x7bcount\x7d\x7b\x7d-1970_01%\x7bdate=%\x7bcount\x7d%\x7bframe\x7d_%2.ts" := by
    decide +kernel
  exact Except.ok.inj (named.symm.trans checked)

end Segment
end StreamCatalog
