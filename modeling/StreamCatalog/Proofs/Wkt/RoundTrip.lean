import StreamCatalog.Proofs.Wkt.Scanning

/-!
# Geometry text is read back

What is written for a regular geometry is read as its plain form, provided that the text of
each of its coordinates is: `parse_render`.  Scanning the text gives the tokens that the
geometry is shown with, and the grammar reads these.  Two things remain, both about the ends of
the text.  Nothing is trimmed, since a text begins with a keyword and ends with a parenthesis
or the word `EMPTY`.  And nothing follows the text that could be taken for more of it.
-/

namespace StreamCatalog

namespace Text

theorem dropWhile_of_stops {p : Char → Bool} {cs : List Char} (stops : Stops p cs) :
    cs.dropWhile p = cs := by
  have none : ∀ c ∈ ([] : List Char), p c = true := fun _ member => nomatch member
  exact dropWhile_append_of_stops none stops

/-- Nothing is trimmed if no blank character stands at either end. -/
theorem trim_of_stops {cs : List Char} (front : Stops isBlank cs)
    (back : Stops isBlank cs.reverse) : trim cs = cs := by
  rw [trim, trimLeft, trimLeft, dropWhile_of_stops front, dropWhile_of_stops back,
    List.reverse_reverse]

end Text

namespace Wkt

open Text (Stops)

theorem stops_keyword (s : Shape) (cs : List Char) : Stops Text.isBlank (s.keyword ++ cs) := by
  cases s <;> exact Text.stops_cons (by decide) _

/-- A text that ends with a parenthesis does not end with a blank. -/
theorem stops_closing (cs : List Char) : Stops Text.isBlank (cs ++ [')']).reverse := by
  rw [List.reverse_append]
  exact Text.stops_cons (by decide) _

theorem stops_tagged (keyword : String) (members : List (List Char)) :
    Stops Text.isBlank (tagged keyword members).reverse := by
  unfold tagged
  split
  · rw [List.reverse_append]
    exact Text.stops_cons (c := 'Y') (by decide) _
  · rw [inParens, ← List.append_assoc]
    exact stops_closing _

/-- A geometry's text begins with a keyword ... -/
theorem exists_keyword_of_tagged {keyword : String} {s : Shape} (known : keyword.toList = s.keyword)
    (members : List (List Char)) : ∃ s cs, tagged keyword members = Shape.keyword s ++ cs := by
  unfold tagged
  rw [known]
  split
  · exact ⟨s, _, rfl⟩
  · exact ⟨s, _, rfl⟩

theorem exists_keyword_of_writePolygon (p : Polygon) :
    ∃ s cs, writePolygon p = Shape.keyword s ++ cs :=
  exists_keyword_of_tagged (s := .polygon) rfl _

theorem exists_keyword_of_write (g : Geometry) : ∃ s cs, write g = Shape.keyword s ++ cs := by
  cases g with
  | point p => exact ⟨.point, _, rfl⟩
  | line | lineString => exact exists_keyword_of_tagged (s := .lineString) rfl _
  | polygon p => exact exists_keyword_of_writePolygon p
  | rect b => exact exists_keyword_of_writePolygon b.polygon
  | triangle t => exact exists_keyword_of_writePolygon t.polygon
  | multiPoint => exact exists_keyword_of_tagged (s := .multiPoint) rfl _
  | multiLineString => exact exists_keyword_of_tagged (s := .multiLineString) rfl _
  | multiPolygon => exact exists_keyword_of_tagged (s := .multiPolygon) rfl _
  | collection => exact exists_keyword_of_tagged (s := .collection) rfl _

/-- ... and so do its tokens. -/
theorem exists_keyword_of_shown (g : Geometry) :
    ∃ s ts, shown g = .word (Shape.keyword s) :: ts := by
  cases g <;> exact ⟨_, _, rfl⟩

theorem stops_writePolygon (p : Polygon) : Stops Text.isBlank (writePolygon p).reverse :=
  stops_tagged _ _

theorem stops_write (g : Geometry) : Stops Text.isBlank (write g).reverse := by
  cases g with
  | point p => exact stops_closing ("POINT".toList ++ '(' :: writePoint p)
  | rect b => exact stops_writePolygon b.polygon
  | triangle t => exact stops_writePolygon t.polygon
  | _ => exact stops_tagged _ _

/-- A text that does not begin or end with a blank is read as the geometry that its tokens are
read as, if the first of them is a keyword. -/
theorem read_of_yields {cs : List Char} {s : Shape} {ts : List Token} {g : Geometry}
    (scans : Scans cs (.word s.keyword :: ts)) (front : Stops Text.isBlank cs)
    (back : Stops Text.isBlank cs.reverse)
    (grammar : (member (.word s.keyword :: ts)).Yields g []) : read cs = .ok g := by
  have scanned := scans [] (Text.stops_nil _)
  have ascii : s.keyword.all (·.toNat < 128) = true := by cases s <;> decide
  have none : tokens [] = [] := by rw [tokens]
  rw [List.append_nil, none, List.append_nil] at scanned
  rw [read, Text.trim_of_stops front back, scanned, ofTokens, if_pos ascii]
  exact grammar.value

/-- So is one that is scanned as the tokens of a regular geometry. -/
theorem read_of_scans {cs : List Char} {g : Geometry} (scans : Scans cs (shown g))
    (front : Stops Text.isBlank cs) (back : Stops Text.isBlank cs.reverse) (regular : g.Regular)
    (meets : ∀ p ∈ g.points, p.meets p = true) : read cs = .ok g.plainForm := by
  have grammar := member_shown g regular meets []
  obtain ⟨s, ts, shows⟩ := exists_keyword_of_shown g
  rw [List.append_nil, shows] at grammar
  rw [shows] at scans
  exact read_of_yields scans front back grammar

/-- What is written for a regular geometry is read as its plain form if the text of each
coordinate is read as the coordinate. -/
theorem parse_render {g : Geometry} (regular : g.Regular)
    (coordinates : ∀ p ∈ g.points, PointIsShown p ∧ p.meets p = true) :
    parse (render g) = .ok g.plainForm := by
  have scans := scans_write g regular fun p member => (coordinates p member).1
  have front : Stops Text.isBlank (write g) := by
    obtain ⟨s, cs, eq⟩ := exists_keyword_of_write g
    rw [eq]
    exact stops_keyword s cs
  rw [parse, render, String.toList_ofList, read_of_scans scans front (stops_write g) regular
    fun p member => (coordinates p member).2]

end Wkt
end StreamCatalog
