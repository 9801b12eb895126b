import StreamCatalog.Proofs.Codec.Numerals
import StreamCatalog.Proofs.Wkt.Grammar

/-!
# The text of a geometry is scanned as its tokens

A text is put together from words, numbers, parentheses and commas, and each piece is
scanned on its own: `Scans cs ts` says that the characters `cs` give the tokens `ts`, whatever
follows.  A word or a number would swallow what follows if that were not a delimiter, so
`Scans` asks for one; parentheses and commas are delimiters themselves and end whatever stands
before them.

Words are known.  What a coordinate looks like is another question, which is left open here:
`scans_write` asks of every coordinate that its text is scanned as the number itself.
-/

namespace StreamCatalog
namespace Wkt

open Text (Stops)

/-- Does no word or number go on where this text begins? -/
abbrev Delimited (cs : List Char) : Prop := Stops (fun c => !isDelimiter c) cs

theorem delimited_cons {c : Char} (h : isDelimiter c = true) (cs : List Char) :
    Delimited (c :: cs) := Text.stops_cons (by rw [h]; rfl) cs

/-- Are these the tokens of a text, whatever follows? -/
def Scans (cs : List Char) (ts : List Token) : Prop :=
  ∀ rest, Delimited rest → tokens (cs ++ rest) = ts ++ tokens rest

/-! ## Single tokens -/

theorem tokens_space (cs : List Char) : tokens (' ' :: cs) = tokens cs := by
  rw [tokens, if_pos (by decide)]

theorem tokens_opening (cs : List Char) : tokens ('(' :: cs) = .opening :: tokens cs := by
  rw [tokens, if_neg (by decide), if_neg (by decide), if_pos rfl]

theorem tokens_closing (cs : List Char) : tokens (')' :: cs) = .closing :: tokens cs := by
  rw [tokens, if_neg (by decide), if_neg (by decide), if_neg (by decide), if_pos rfl]

theorem tokens_comma (cs : List Char) : tokens (',' :: cs) = .comma :: tokens cs := by
  rw [tokens, if_neg (by decide), if_neg (by decide), if_neg (by decide), if_neg (by decide),
    if_pos rfl]

/-- A run of characters between delimiters is one token. -/
theorem scans_run {c : Char} {run : List Char} (inside : ∀ d ∈ c :: run, isDelimiter d = false) :
    Scans (c :: run) [Token.ofRun c run] := by
  intro rest delimited
  have first : isDelimiter c = false := inside c List.mem_cons_self
  simp only [isDelimiter, Bool.or_eq_false_iff, decide_eq_false_iff_not] at first
  obtain ⟨⟨⟨⟨space, opening⟩, closing⟩, comma⟩, nul⟩ := first
  have all : ∀ d ∈ run, (!isDelimiter d) = true := by
    intro d member
    rw [inside d (List.mem_cons_of_mem _ member)]
    rfl
  rw [List.cons_append, tokens, space, if_neg Bool.false_ne_true, if_neg nul, if_neg opening,
    if_neg closing, if_neg comma, Text.takeWhile_append_of_stops all delimited,
    Text.dropWhile_append_of_stops all delimited]
  rfl

theorem inside_of_all {cs : List Char} (inside : cs.all (!isDelimiter ·) = true) :
    ∀ d ∈ cs, isDelimiter d = false := by
  intro d member
  have outside := List.all_eq_true.mp inside d member
  rwa [Bool.not_eq_true'] at outside

/-- A word is scanned as a word. -/
theorem scans_word {c : Char} {run : List Char} (inside : ∀ d ∈ c :: run, isDelimiter d = false)
    (letter : startsNumber c = false) : Scans (c :: run) [.word (c :: run)] := by
  have scanned := scans_run inside
  rwa [Token.ofRun, letter, if_neg Bool.false_ne_true] at scanned

theorem scans_keyword (s : Shape) : Scans s.keyword [.word s.keyword] := by
  cases s <;> exact scans_word (inside_of_all (by decide)) (by decide)

theorem scans_empty : Scans "EMPTY".toList [.word "EMPTY".toList] :=
  scans_word (inside_of_all (by decide)) (by decide)

/-! ## Pieces put together -/

theorem scans_nil : Scans [] [] := fun _ _ => rfl

/-- A piece may be followed by one that begins with a delimiter. -/
theorem Scans.append {cs ds : List Char} {ts us : List Token} (front : Scans cs ts)
    (back : Scans ds us) (between : ∀ rest, Delimited rest → Delimited (ds ++ rest)) :
    Scans (cs ++ ds) (ts ++ us) := by
  intro rest delimited
  rw [List.append_assoc, front _ (between rest delimited), back rest delimited,
    List.append_assoc]

/-- A space separates, and leaves no token. -/
theorem Scans.behindSpace {cs : List Char} {ts : List Token} (h : Scans cs ts) :
    Scans (' ' :: cs) ts := by
  intro rest delimited
  rw [List.cons_append, tokens_space, h rest delimited]

theorem Scans.inParens {cs : List Char} {ts : List Token} (h : Scans cs ts) :
    Scans (inParens cs) (parenTokens ts) := by
  intro rest _
  have flat : Wkt.inParens cs ++ rest = '(' :: (cs ++ ')' :: rest) := by simp [Wkt.inParens]
  rw [flat, tokens_opening, h _ (delimited_cons (by decide) rest), tokens_closing]
  simp [parenTokens]

/-- A comma separates, and leaves its own token. -/
theorem Scans.beforeComma {cs ds : List Char} {ts us : List Token} (front : Scans cs ts)
    (back : Scans ds us) : Scans (cs ++ ',' :: ds) (ts ++ .comma :: us) := by
  intro rest delimited
  rw [List.append_assoc, List.cons_append, front _ (delimited_cons (by decide) _), tokens_comma,
    back rest delimited, List.append_assoc, List.cons_append]

/-- A list is scanned piece by piece. -/
theorem scans_commaSeparated {α : Type} {textOf : α → List Char} {tokensOf : α → List Token}
    {xs : List α} (each : ∀ x ∈ xs, Scans (textOf x) (tokensOf x)) :
    Scans (commaSeparated (xs.map textOf)) (commaTokens (xs.map tokensOf)) := by
  induction xs with
  | nil => exact scans_nil
  | cons x xs ih =>
    have here := each x List.mem_cons_self
    have more := ih fun y member => each y (List.mem_cons_of_mem _ member)
    cases xs with
    | nil => exact here
    | cons y ys => exact here.beforeComma more

/-- A keyword is scanned with its members. -/
theorem scans_tagged {α : Type} {textOf : α → List Char} {tokensOf : α → List Token}
    {keyword : String} {s : Shape} (known : keyword.toList = s.keyword) {xs : List α}
    (each : ∀ x ∈ xs, Scans (textOf x) (tokensOf x)) :
    Scans (tagged keyword (xs.map textOf)) (headed s (xs.map tokensOf)) := by
  cases xs with
  | nil =>
    show Scans (keyword.toList ++ ' ' :: "EMPTY".toList)
      ([.word s.keyword] ++ [.word "EMPTY".toList])
    rw [known]
    exact (scans_keyword s).append scans_empty.behindSpace
      fun rest _ => delimited_cons (by decide) _
  | cons x xs =>
    show Scans (keyword.toList ++ inParens (commaSeparated ((x :: xs).map textOf)))
      ([.word s.keyword] ++ parenTokens (commaTokens ((x :: xs).map tokensOf)))
    rw [known]
    exact (scans_keyword s).append (scans_commaSeparated each).inParens
      fun rest _ => delimited_cons (by decide) _

/-! ## Geometries -/

/-- Is the text of a coordinate scanned as this coordinate? -/
def IsShown (x : Float) : Prop := Scans (Decimal.Layout.plain.write x) [.number x]

/-- Are both coordinates of a point shown as they are? -/
structure PointIsShown (p : Point) : Prop where
  x : IsShown p.x
  y : IsShown p.y

theorem scans_writePoint {p : Point} (h : PointIsShown p) :
    Scans (writePoint p) (pointTokens p) :=
  h.x.append h.y.behindSpace fun _ _ => delimited_cons (by decide) _

theorem scans_writePoints {ps : List Point} (h : ∀ p ∈ ps, PointIsShown p) :
    Scans (writePoints ps) (pointsTokens ps) :=
  (scans_commaSeparated fun p member => scans_writePoint (h p member)).inParens

theorem mem_points_of_mem_shownRings {p : Polygon} {ring : List Point} (shows : ring ∈ shownRings p)
    {q : Point} (member : q ∈ ring) : q ∈ p.points := by
  unfold shownRings at shows
  refine List.mem_append.mpr ?_
  split at shows
  · exact Or.inr (List.mem_flatten.mpr ⟨ring, shows, member⟩)
  · rcases List.mem_cons.mp shows with rfl | hole
    · exact Or.inl member
    · exact Or.inr (List.mem_flatten.mpr ⟨ring, hole, member⟩)

theorem scans_rings {p : Polygon} (h : ∀ q ∈ p.points, PointIsShown q) :
    ∀ ring ∈ shownRings p, Scans (writePoints ring) (pointsTokens ring) :=
  fun _ shows => scans_writePoints fun q member => h q (mem_points_of_mem_shownRings shows member)

theorem scans_writePolygon {p : Polygon} (h : ∀ q ∈ p.points, PointIsShown q) :
    Scans (writePolygon p) (headed .polygon (ringsTokens p)) :=
  scans_tagged rfl (scans_rings h)

/-- A polygon among several; one without rings is not shown as such, but with an empty ring. -/
theorem scans_writeMemberPolygon {p : Polygon} (outer : p.exterior ≠ [])
    (h : ∀ q ∈ p.points, PointIsShown q) :
    Scans (writeMemberPolygon p) (parenTokens (commaTokens (ringsTokens p))) := by
  have rings : shownRings p = p.exterior :: p.interiors :=
    if_neg fun none => outer (List.isEmpty_iff.mp none)
  have shows : writeMemberPolygon p =
      inParens (commaSeparated ((shownRings p).map writePoints)) := by
    unfold writeMemberPolygon
    rw [rings]
  rw [shows]
  exact (scans_commaSeparated (scans_rings h)).inParens

theorem writeAll_eq_map (gs : List Geometry) : writeAll gs = gs.map write := by
  induction gs with
  | nil => rfl
  | cons g gs ih => rw [writeAll, ih, List.map_cons]

mutual

/-- **The text of a geometry is scanned as its tokens**, if that of every coordinate is. -/
theorem scans_write : (g : Geometry) → g.Regular → (∀ p ∈ g.points, PointIsShown p) →
    Scans (write g) (shown g)
  | .point p, _, h =>
    (scans_keyword .point).append (scans_writePoint (h p List.mem_cons_self)).inParens
      fun _ _ => delimited_cons (by decide) _
  | .line a b, _, h =>
    scans_tagged (s := .lineString) rfl fun p member => scans_writePoint (h p member)
  | .lineString ps, _, h => scans_tagged rfl fun p member => scans_writePoint (h p member)
  | .polygon _, _, h => scans_writePolygon h
  | .multiPoint ps, _, h =>
    scans_tagged rfl fun p member => (scans_writePoint (h p member)).inParens
  | .multiLineString lines, _, h =>
    scans_tagged rfl fun line member => scans_writePoints fun p here =>
      h p (List.mem_flatten.mpr ⟨line, member, here⟩)
  | .multiPolygon ps, regular, h =>
    scans_tagged rfl fun p member => scans_writeMemberPolygon (regular p member).1 fun q here =>
      h q (List.mem_flatMap.mpr ⟨p, member, here⟩)
  | .collection members, regular, h => by
    have each := scans_write_of_mem members regular h
    have scanned : Scans (tagged "GEOMETRYCOLLECTION" (members.map write))
        (headed .collection (members.map shown)) := scans_tagged rfl each
    rw [← writeAll_eq_map, ← shownAll_eq_map] at scanned
    exact scanned
  | .rect _, _, h => scans_writePolygon h
  | .triangle _, _, h => scans_writePolygon h

/-- So is that of each of several geometries. -/
theorem scans_write_of_mem : (gs : List Geometry) → Geometry.AllRegular gs →
    (∀ p ∈ Geometry.pointsOf gs, PointIsShown p) → ∀ g ∈ gs, Scans (write g) (shown g)
  | [], _, _, _, member => nomatch member
  | g :: _, regular, h, _, .head _ =>
    scans_write g regular.1 fun p here => h p (List.mem_append_left _ here)
  | _ :: gs, regular, h, k, .tail _ later =>
    scans_write_of_mem gs regular.2 (fun p here => h p (List.mem_append_right _ here)) k later

end

end Wkt
end StreamCatalog
