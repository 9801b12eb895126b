import StreamCatalog.Proofs.Segment.Sessions

/-!
# Names that stay in their directory

A name comes from a template, a title and a date, and each of these may hold anything: slashes,
dots, control characters.  What is tried in its place when it is taken has gone through a
split at a dot besides.

None of this leads out of the directory.  Every name that is tried for a segment is `Harmless`:
it is one component of a path, it names no folder, and it holds none of the reserved characters
and no control character.  This is kept by every step on the way.  The characters of the text
are made safe (`clean_safe`), the usual extension and the number bring in clean ones only
(`clean_withExtension`, `clean_numbered`), and what names a folder gets an extension or a number
(`plain_withExtension`, `plain_numbered`).

So whatever a writer does for a name, it does to entries of its directory under harmless names,
as `confined_of_generate` says.
-/

namespace StreamCatalog
namespace Segment

open Writer (choice choiceName lastNumber)

/-- Is this the name of a file in every directory, and free of unsafe characters? -/
structure Harmless (name : List Char) : Prop extends Path.Plain name where
  clean : ∀ c ∈ name, Clean c

/-! ## Clean characters -/

theorem clean_of_isDigit {c : Char} (digit : Decimal.isDigit c = true) : Clean c := by
  refine ⟨fun member => ?_, ?_⟩
  · have none : reserved.all (fun c => !Decimal.isDigit c) = true := by decide
    have other := List.all_eq_true.mp none c member
    rw [digit] at other
    exact Bool.false_ne_true other
  · rw [Decimal.isDigit, Decimal.digitValue?] at digit
    split at digit
    · rename_i range
      have low : 48 ≤ c.toNat := range.1
      have high : c.toNat ≤ 57 := range.2
      simp only [Text.isControl, Bool.or_eq_false_iff, Bool.and_eq_false_iff,
        decide_eq_false_iff_not]
      omega
    · exact absurd digit Bool.false_ne_true

/-- The usual extension is clean. -/
theorem clean_withExtension {name : List Char} (clean : ∀ c ∈ name, Clean c) :
    ∀ c ∈ withExtension name, Clean c := by
  unfold withExtension
  split
  · exact clean
  · intro c member
    rcases List.mem_append.mp member with here | here
    · exact clean c here
    · simp only [List.mem_cons, List.not_mem_nil, or_false] at here
      rcases here with rfl | rfl | rfl <;> exact ⟨by decide, by decide⟩

/-- A number before the extension is clean. -/
theorem clean_numbered {name : List Char} (clean : ∀ c ∈ name, Clean c) (n : Nat) :
    ∀ c ∈ numbered name n, Clean c := by
  intro c member
  rcases mem_numbered member with here | rfl | rfl | digit
  · exact clean c here
  · exact ⟨by decide, by decide⟩
  · exact ⟨by decide, by decide⟩
  · exact clean_of_isDigit digit

/-- **Every name that is tried for a segment is harmless.** -/
theorem harmless_choice {template : String} {naming : Naming} {name : String}
    (named : fileName template naming = .ok name) (n : Nat) : Harmless (choice name.toList n) := by
  obtain ⟨text, chars⟩ := exists_of_fileName named
  have clean : ∀ c ∈ name.toList, Clean c := by
    rw [chars]
    exact clean_withExtension fun c => clean_of_mem_map_safe
  refine ⟨Writer.plain_choice named n, ?_⟩
  cases n with
  | zero => exact clean
  | succ n => exact clean_numbered clean (n + 1)

/-! ## Writing -/

/-- Whatever comes of an attempt to write a segment, only the names that are tried for it can
stand for anything else afterwards. -/
theorem content?_of_attempt {w w' : Writer} {title : String} {segment : Snapshot}
    {t : Option Trouble} {result : Except Error Artifact} {name other : String}
    (named : fileName w.template ⟨title, segment.start, w.named + 1⟩ = .ok name)
    (attempted : w.attempt title segment t = .ok (result, w'))
    (apart : ∀ n, n ≤ lastNumber → other ≠ choiceName name.toList n) :
    w'.content? other = w.content? other := by
  obtain ⟨name', named', -, ⟨_, -, same⟩ | ⟨files, n, held, within, -, -, after⟩⟩ :=
    Writer.cases_of_attempt attempted
  · rw [Writer.content?, same, Writer.content?]
  · cases named.symm.trans named'
    rw [Writer.content?, after, Option.bind_some, Directory.find?_put, if_neg (apart n within),
      Writer.content?, held, Option.bind_some]

/-- A segment that is written is in the directory, under one of the names that are tried for
it. -/
theorem path_of_attempt {w w' : Writer} {title : String} {segment : Snapshot}
    {t : Option Trouble} {a : Artifact} {name : String}
    (named : fileName w.template ⟨title, segment.start, w.named + 1⟩ = .ok name)
    (attempted : w.attempt title segment t = .ok (.ok a, w')) :
    ∃ n, n ≤ lastNumber ∧ a.path = Path.join w.directory (choiceName name.toList n) := by
  obtain ⟨name', named', -, ⟨_, failed, -⟩ | ⟨_, n, -, within, -, done, -⟩⟩ :=
    Writer.cases_of_attempt attempted
  · exact nomatch failed
  · cases named.symm.trans named'
    exact ⟨n, within, congrArg Artifact.path (Except.ok.inj done)⟩

/-- **No name leads out of the directory.**  If a generator gives a name, then whatever the
template, the title and the date:

* the name and all numbered ones are harmless;
* as an entry of a directory, each of them is a direct child of it and the file name of its path;
* a writer that is given the name writes its segment to one of these entries, and leaves all
  other entries as they are. -/
theorem confined_of_generate {g : Generator} {r : Request} {name : String}
    (named : (g.generate r).1 = .ok name) :
    (∀ n, Harmless (choice name.toList n)) ∧
    (∀ directory n,
      Path.components (Path.join directory (choiceName name.toList n)).toList =
          Path.components directory.toList ++ [choice name.toList n] ∧
        Path.fileName? (Path.join directory (choiceName name.toList n)).toList =
          some (choice name.toList n)) ∧
    ∀ (w w' : Writer) (segment : Snapshot) (t : Option Trouble) (result : Except Error Artifact),
      w.template = r.template → w.named = g.made → segment.start = r.start →
      w.attempt r.title segment t = .ok (result, w') →
      (∀ a, result = .ok a →
        ∃ n, n ≤ lastNumber ∧ a.path = Path.join w.directory (choiceName name.toList n)) ∧
      ∀ other, (∀ n, n ≤ lastNumber → other ≠ choiceName name.toList n) →
        w'.content? other = w.content? other := by
  have harmless (n : Nat) : Harmless (choice name.toList n) := harmless_choice named n
  refine ⟨harmless, fun directory n => ?_, ?_⟩
  · have plain := (harmless n).toPlain
    exact ⟨Path.components_join directory plain, Path.fileName?_join directory plain⟩
  · intro w w' segment t result template made start attempted
    have named : fileName w.template ⟨r.title, segment.start, w.named + 1⟩ = .ok name := by
      rw [template, made, start]
      exact named
    refine ⟨?_, fun other => content?_of_attempt named attempted⟩
    rintro a rfl
    exact path_of_attempt named attempted

/-- A request whose template and title lead out of the directory, if they are read as paths. -/
def breakout : Request := ⟨"%\x7btitle\x7d/%\x7bdate=%+\x7d..", "../\x00|..", .epoch⟩

theorem confined_of_generate_breakout :
    (Generator.generate {} breakout).1 = .ok "..___.._1970-01-01T00_00_00+00_00.." ∧
    (∀ n, Harmless (choice "..___.._1970-01-01T00_00_00+00_00..".toList n)) ∧
    ∀ n, Path.components
        (Path.join "/segments" (choiceName "..___.._1970-01-01T00_00_00+00_00..".toList n)).toList =
      ["segments".toList, choice "..___.._1970-01-01T00_00_00+00_00..".toList n] := by
  have named : (Generator.generate {} breakout).1 =
      .ok "..___.._1970-01-01T00_00_00+00_00.." := by decide +kernel
  obtain ⟨harmless, child, -⟩ := confined_of_generate named
  exact ⟨named, harmless, fun n => (child "/segments" n).1⟩

end Segment
end StreamCatalog
