import StreamCatalog.Wkt.Reader
import StreamCatalog.Wkt.Writer

/-!
# The tokens of a geometry are read as the geometry

`shown` lists the tokens that a geometry is shown with, kind by kind, and the grammar reads
them as the geometry in its plain form: `member_shown`.

## Where a reading ends

Every part of a geometry is read together with whatever stands behind it, since the text goes
on behind most of them.  No reader looks beyond the part that it reads, except that a list
looks whether a comma follows.  So the tokens behind a part are arbitrary, and those behind a
list must not begin with a comma.

## Which geometries

Empty parentheses cannot be read.  `Geometry.Regular` excludes what would be shown with them:
an empty line among several, a polygon without rings among several, and an empty hole.  It also
asks for closed rings, for a ring that is not closed is read as one that is.  The outline of a
box or a triangle ends where it starts, which makes it closed as long as its corners are
numbers: one that is not a number equals nothing, not even itself.
-/

namespace StreamCatalog

/-! ## Regular geometries -/

/-- Are all rings closed and no hole empty, and are there holes only inside something? -/
structure Polygon.Regular (p : Polygon) : Prop where
  exterior : isClosed p.exterior = true
  interiors : ∀ ring ∈ p.interiors, ring ≠ [] ∧ isClosed ring = true
  outside : p.exterior = [] → p.interiors = []

mutual

/-- Is every part of a geometry shown with something in it, and every ring closed? -/
def Geometry.Regular : Geometry → Prop
  | .polygon p => p.Regular
  | .multiLineString lines => ∀ line ∈ lines, line ≠ []
  | .multiPolygon ps => ∀ p ∈ ps, p.exterior ≠ [] ∧ p.Regular
  | .collection members => Geometry.AllRegular members
  | _ => True

/-- Are all these geometries regular? -/
def Geometry.AllRegular : List Geometry → Prop
  | [] => True
  | g :: gs => g.Regular ∧ Geometry.AllRegular gs

end

instance (p : Polygon) : Decidable p.Regular :=
  decidable_of_iff (isClosed p.exterior = true ∧
      (∀ ring ∈ p.interiors, ring ≠ [] ∧ isClosed ring = true) ∧
      (p.exterior = [] → p.interiors = []))
    ⟨fun h => ⟨h.1, h.2.1, h.2.2⟩, fun h => ⟨h.exterior, h.interiors, h.outside⟩⟩

mutual

/-- Whether a geometry is regular is decided part by part. -/
def Geometry.decideRegular : (g : Geometry) → Decidable g.Regular
  | .polygon p => inferInstanceAs (Decidable p.Regular)
  | .multiLineString lines => inferInstanceAs (Decidable (∀ line ∈ lines, line ≠ []))
  | .multiPolygon ps => inferInstanceAs (Decidable (∀ p ∈ ps, p.exterior ≠ [] ∧ p.Regular))
  | .collection members => Geometry.decideAllRegular members
  | .point _ | .line _ _ | .lineString _ | .multiPoint _ | .rect _ | .triangle _ => .isTrue trivial

def Geometry.decideAllRegular : (gs : List Geometry) → Decidable (Geometry.AllRegular gs)
  | [] => .isTrue trivial
  | g :: gs => @instDecidableAnd _ _ g.decideRegular (Geometry.decideAllRegular gs)

end

instance (g : Geometry) : Decidable g.Regular := g.decideRegular

/-- The points of a polygon, ring by ring. -/
def Polygon.points (p : Polygon) : List Point := p.exterior ++ p.interiors.flatten

mutual

/-- All points that a geometry is shown with. -/
def Geometry.points : Geometry → List Point
  | .point p => [p]
  | .line a b => [a, b]
  | .lineString ps => ps
  | .polygon p => p.points
  | .multiPoint ps => ps
  | .multiLineString lines => lines.flatten
  | .multiPolygon ps => ps.flatMap Polygon.points
  | .collection members => Geometry.pointsOf members
  | .rect b => b.polygon.points
  | .triangle t => t.polygon.points

/-- All points of several geometries. -/
def Geometry.pointsOf : List Geometry → List Point
  | [] => []
  | g :: gs => g.points ++ Geometry.pointsOf gs

end

/-- An outline that ends where it starts is regular if the corner there is made of numbers. -/
theorem Polygon.regular_closing (p : Point) (ps : List Point)
    (meets : ∀ q ∈ (closing (p :: (ps ++ [p])) []).points, q.meets q = true) :
    (closing (p :: (ps ++ [p])) []).Regular := by
  have corner : p ∈ closeRing (p :: (ps ++ [p])) :=
    (prefix_closeRing _).subset List.mem_cons_self
  have closed : isClosed (p :: (ps ++ [p])) = true := by
    rw [isClosed, List.head?_cons, List.getLast?_cons, List.getLast?_concat]
    exact meets p (List.mem_append_left _ corner)
  rw [closing, closeRing_of_isClosed closed]
  exact ⟨closed, nofun, nofun⟩

/-- So the outline of a box is regular if the corner where it starts is made of numbers. -/
theorem Box.regular_polygon {b : Box} (meets : ∀ p ∈ b.polygon.points, p.meets p = true) :
    b.polygon.Regular :=
  Polygon.regular_closing _ [⟨b.maxX, b.maxY⟩, ⟨b.minX, b.maxY⟩, ⟨b.minX, b.minY⟩] meets

/-- So is that of a triangle. -/
theorem Triangle.regular_polygon {t : Triangle}
    (meets : ∀ p ∈ t.polygon.points, p.meets p = true) : t.polygon.Regular :=
  Polygon.regular_closing _ [t.b, t.c] meets

namespace Wkt

/-! ## The tokens of a geometry -/

/-- Put commas between lists of tokens. -/
def commaTokens : List (List Token) → List Token
  | [] => []
  | [ts] => ts
  | ts :: rest => ts ++ .comma :: commaTokens rest

/-- Tokens in parentheses. -/
def parenTokens (ts : List Token) : List Token := .opening :: ts ++ [.closing]

/-- Members in parentheses, or `EMPTY` if there are none. -/
def membersTokens (members : List (List Token)) : List Token :=
  if members.isEmpty then [.word "EMPTY".toList] else parenTokens (commaTokens members)

/-- The two coordinates of a point. -/
def pointTokens (p : Point) : List Token := [.number p.x, .number p.y]

/-- A list of points in parentheses. -/
def pointsTokens (ps : List Point) : List Token := parenTokens (commaTokens (ps.map pointTokens))

/-- The rings of a polygon. -/
def ringsTokens (p : Polygon) : List (List Token) := (shownRings p).map pointsTokens

/-- The keyword of a shape, with its members. -/
def headed (s : Shape) (members : List (List Token)) : List Token :=
  .word s.keyword :: membersTokens members

mutual

/-- The tokens that a geometry is shown with. -/
def shown : Geometry → List Token
  | .point p => .word Shape.point.keyword :: parenTokens (pointTokens p)
  | .line a b => headed .lineString [pointTokens a, pointTokens b]
  | .lineString ps => headed .lineString (ps.map pointTokens)
  | .polygon p => headed .polygon (ringsTokens p)
  | .multiPoint ps => headed .multiPoint (ps.map fun p => parenTokens (pointTokens p))
  | .multiLineString lines => headed .multiLineString (lines.map pointsTokens)
  | .multiPolygon ps =>
    headed .multiPolygon (ps.map fun p => parenTokens (commaTokens (ringsTokens p)))
  | .collection members => headed .collection (shownAll members)
  | .rect b => headed .polygon (ringsTokens b.polygon)
  | .triangle t => headed .polygon (ringsTokens t.polygon)

/-- The tokens of several geometries. -/
def shownAll : List Geometry → List (List Token)
  | [] => []
  | g :: gs => shown g :: shownAll gs

end

/-! ## Readings -/

/-- Does a reading give this value and leave these tokens over? -/
structure Reading.Yields {α : Type} {ts : List Token} (r : Reading α ts) (a : α)
    (us : List Token) : Prop where
  value : r.value = .ok a
  rest : r.rest = us

namespace Reading.Yields

variable {α β : Type} {ts us vs : List Token} {a : α}

theorem eq {r : Reading α ts} (h : r.Yields a us) : ∃ shorter, r = ⟨.ok a, us, shorter⟩ := by
  obtain ⟨value, rest, shorter⟩ := r
  obtain ⟨rfl, rfl⟩ := h
  exact ⟨shorter, rfl⟩

theorem map {r : Reading α ts} (f : α → β) (h : r.Yields a us) : (r.map f).Yields (f a) us := by
  obtain ⟨shorter, rfl⟩ := h.eq
  exact ⟨rfl, rfl⟩

theorem past {r : Reading α us} (le : us.length ≤ ts.length) (h : r.Yields a vs) :
    (r.past le).Yields a vs := ⟨h.value, h.rest⟩

end Reading.Yields

/-! ## Parentheses and lists -/

section

variable {α β : Type}

/-- A body is read up to the parenthesis that closes it. -/
theorem parens_yields {empty a : α} {us rest : List Token}
    {body : (vs : List Token) → vs.length < (Token.opening :: us).length → Reading α vs}
    (read : ∀ shorter, (body us shorter).Yields a (.closing :: rest)) :
    (parens empty (.opening :: us) body).Yields a rest := by
  have within := read (Nat.lt_succ_self _)
  unfold parens
  refine Reading.Yields.past _ ?_
  rw [within.value, within.rest]
  exact ⟨rfl, rfl⟩

/-- The word `EMPTY` stands for a body with nothing in it. -/
theorem parens_yields_empty (empty : α) (rest : List Token)
    (body : (vs : List Token) → vs.length < (Token.word "EMPTY".toList :: rest).length →
      Reading α vs) :
    (parens empty (.word "EMPTY".toList :: rest) body).Yields empty rest := by
  have isEmpty : isEmptyWord "EMPTY".toList = true := by decide
  unfold parens
  simp only [isEmpty, if_true]
  exact ⟨rfl, rfl⟩

section

variable {bound : Nat} {item : (us : List Token) → us.length ≤ bound → Reading α us}
  {ts us : List Token} {inBound : ts.length ≤ bound} {a : α}

/-- A list ends with an item that no comma follows. -/
theorem commaList_last (read : (item ts inBound).Yields a us) (noComma : us.head? ≠ some .comma) :
    (commaList bound item ts inBound).Yields [a] us := by
  have last : afterComma us = none := by
    unfold afterComma
    split
    · exact absurd rfl noComma
    · rfl
  obtain ⟨shorter, eq⟩ := read.eq
  unfold commaList
  simp only [eq, last]
  exact ⟨rfl, rfl⟩

/-- A list goes on past a comma. -/
theorem commaList_more {vs : List Token} {as : List α}
    (read : (item ts inBound).Yields a (.comma :: us))
    (more : ∀ inBound, (commaList bound item us inBound).Yields as vs) :
    (commaList bound item ts inBound).Yields (a :: as) vs := by
  obtain ⟨shorter, eq⟩ := read.eq
  unfold commaList
  simp only [eq, afterComma]
  have more := more (by simp only [List.length_cons] at shorter; omega)
  exact ⟨by rw [more.value]; rfl, more.rest⟩

/-- A list is read item by item, up to where no comma follows. -/
theorem commaList_yields {tokensOf : β → List Token} {valueOf : β → α} {xs : List β}
    (members : xs ≠ [])
    (read : ∀ x ∈ xs, ∀ rest inBound,
      (item (tokensOf x ++ rest) inBound).Yields (valueOf x) rest)
    {rest : List Token} (noComma : rest.head? ≠ some .comma)
    (inBound : (commaTokens (xs.map tokensOf) ++ rest).length ≤ bound) :
    (commaList bound item (commaTokens (xs.map tokensOf) ++ rest) inBound).Yields
      (xs.map valueOf) rest := by
  induction xs with
  | nil => exact absurd rfl members
  | cons x xs ih =>
    have here := read x List.mem_cons_self
    cases xs with
    | nil => exact commaList_last (here rest inBound) noComma
    | cons y ys =>
      have flat : commaTokens ((x :: y :: ys).map tokensOf) ++ rest =
          tokensOf x ++ .comma :: (commaTokens ((y :: ys).map tokensOf) ++ rest) := by
        rw [List.map_cons, List.map_cons, commaTokens, List.append_assoc, List.cons_append]
        exact nofun
      revert inBound
      rw [flat]
      intro inBound
      refine commaList_more (here _ inBound) fun inBound => ?_
      exact ih (List.cons_ne_nil _ _) (fun z member => read z (List.mem_cons_of_mem _ member)) _

end

variable {item : (us : List Token) → Reading α us} {tokensOf : β → List Token} {valueOf : β → α}
  {xs : List β}

/-- A list in parentheses is read item by item, if it has any. -/
theorem parens_yields_list (members : xs ≠ [])
    (read : ∀ x ∈ xs, ∀ rest, (item (tokensOf x ++ rest)).Yields (valueOf x) rest)
    (rest : List Token) :
    (parens [] (parenTokens (commaTokens (xs.map tokensOf)) ++ rest) fun us _ =>
      listOf item us).Yields (xs.map valueOf) rest := by
  have flat : parenTokens (commaTokens (xs.map tokensOf)) ++ rest =
      .opening :: (commaTokens (xs.map tokensOf) ++ .closing :: rest) := by simp [parenTokens]
  rw [flat]
  refine parens_yields fun _ => ?_
  exact commaList_yields members (fun x member rest _ => read x member rest) (by simp) _

/-- Members are read item by item, also if there are none. -/
theorem parens_yields_members
    (read : ∀ x ∈ xs, ∀ rest, (item (tokensOf x ++ rest)).Yields (valueOf x) rest)
    (rest : List Token) :
    (parens [] (membersTokens (xs.map tokensOf) ++ rest) fun us _ => listOf item us).Yields
      (xs.map valueOf) rest := by
  cases xs with
  | nil => exact parens_yields_empty [] rest _
  | cons x xs => exact parens_yields_list (List.cons_ne_nil _ _) read rest

end

/-! ## Points, lines and rings -/

theorem point_yields (p : Point) (rest : List Token) :
    (point .xy (pointTokens p ++ rest)).Yields p rest := ⟨rfl, rfl⟩

/-- A point in parentheses of its own. -/
theorem parens_yields_point (p : Point) (rest : List Token) :
    (parens none (.opening :: (pointTokens p ++ .closing :: rest)) fun us _ =>
      (point .xy us).map some).Yields (some p) rest :=
  parens_yields fun _ => (point_yields p (.closing :: rest)).map some

theorem memberPoint_yields (p : Point) (rest : List Token) :
    (memberPoint .xy (parenTokens (pointTokens p) ++ rest)).Yields (some p) rest := by
  show (memberPoint .xy (.opening :: (pointTokens p ++ .closing :: rest))).Yields (some p) rest
  unfold memberPoint
  exact parens_yields_point p rest

theorem points_yields {ps : List Point} (members : ps ≠ []) (rest : List Token) :
    (points .xy (pointsTokens ps ++ rest)).Yields ps rest := by
  have read : (points .xy (pointsTokens ps ++ rest)).Yields (ps.map id) rest :=
    parens_yields_list members (fun p _ rest => point_yields p rest) rest
  rwa [List.map_id] at read

/-- Lines are read as lines, if there are any and each has points. -/
theorem pointLists_yields {lines : List (List Point)} (members : lines ≠ [])
    (filled : ∀ line ∈ lines, line ≠ []) (rest : List Token) :
    (pointLists .xy (parenTokens (commaTokens (lines.map pointsTokens)) ++ rest)).Yields lines
      rest := by
  have read : (pointLists .xy (parenTokens (commaTokens (lines.map pointsTokens)) ++ rest)).Yields
      (lines.map id) rest :=
    parens_yields_list members (fun line member rest => points_yields (filled line member) rest)
      rest
  rwa [List.map_id] at read

/-- The same for lines that are the members of a geometry, of which there may be none. -/
theorem pointLists_yields_members {lines : List (List Point)}
    (filled : ∀ line ∈ lines, line ≠ []) (rest : List Token) :
    (pointLists .xy (membersTokens (lines.map pointsTokens) ++ rest)).Yields lines rest := by
  cases lines with
  | nil => exact parens_yields_empty [] rest _
  | cons line lines => exact pointLists_yields (List.cons_ne_nil _ _) filled rest

/-- A list does not change if none of its members does. -/
theorem map_eq_self {α : Type} {f : α → α} {xs : List α} (same : ∀ x ∈ xs, f x = x) :
    xs.map f = xs :=
  (List.map_congr_left same).trans (List.map_id xs)

/-- A regular polygon is made of its rings. -/
theorem polygonOfRings_shownRings {p : Polygon} (regular : p.Regular) :
    polygonOfRings (shownRings p) = p := by
  obtain ⟨exterior, interiors⟩ := p
  obtain ⟨closed, inside, outside⟩ := regular
  have same : interiors.map closeRing = interiors :=
    map_eq_self fun ring member => closeRing_of_isClosed (inside ring member).2
  cases exterior with
  | nil =>
    have none : interiors = [] := outside rfl
    rw [none]
    rfl
  | cons p ps =>
    show Polygon.mk (closeRing (p :: ps)) (interiors.map closeRing) = ⟨p :: ps, interiors⟩
    rw [closeRing_of_isClosed closed, same]

/-- A regular polygon has no empty ring to show. -/
theorem ne_nil_of_mem_shownRings {p : Polygon} (regular : p.Regular) :
    ∀ ring ∈ shownRings p, ring ≠ [] := by
  intro ring member
  unfold shownRings at member
  split at member
  · exact (regular.interiors ring member).1
  · rename_i filled
    rcases List.mem_cons.mp member with rfl | hole
    · exact fun none => filled (List.isEmpty_iff.mpr none)
    · exact (regular.interiors ring hole).1

/-! ## Geometries -/

theorem keyword?_keyword (s : Shape) : keyword? s.keyword = some (s, none) := by
  cases s <;> decide

/-- Without a word for the dimension there are two. -/
theorem dimension_yields (members : List (List Token)) (rest : List Token) :
    (dimension none (membersTokens members ++ rest)).Yields .xy
      (membersTokens members ++ rest) := by
  cases members with
  | nil => exact ⟨rfl, rfl⟩
  | cons ts members => exact ⟨rfl, rfl⟩

/-- A geometry is read if its body is. -/
theorem member_yields {s : Shape} {us rest : List Token} {g : Geometry}
    (plane : (dimension none us).Yields .xy us) (read : (body s .xy us).Yields g rest) :
    (member (.word s.keyword :: us)).Yields g rest := by
  obtain ⟨shorter, eq⟩ := plane.eq
  unfold member
  simp only [keyword?_keyword, eq]
  exact read.past _

theorem member_yields_headed {s : Shape} {members : List (List Token)} {rest : List Token}
    {g : Geometry} (read : (body s .xy (membersTokens members ++ rest)).Yields g rest) :
    (member (headed s members ++ rest)).Yields g rest :=
  member_yields (dimension_yields members rest) read

theorem body_point (p : Point) (rest : List Token) :
    (body .point .xy (parenTokens (pointTokens p) ++ rest)).Yields (.point p) rest := by
  show (body .point .xy (.opening :: (pointTokens p ++ .closing :: rest))).Yields (.point p) rest
  unfold body
  exact (parens_yields_point p rest).map _

theorem body_lineString (ps : List Point) (rest : List Token) :
    (body .lineString .xy (membersTokens (ps.map pointTokens) ++ rest)).Yields (.lineString ps)
      rest := by
  have read : (points .xy (membersTokens (ps.map pointTokens) ++ rest)).Yields (ps.map id) rest :=
    parens_yields_members (fun p _ rest => point_yields p rest) rest
  rw [List.map_id] at read
  unfold body
  exact read.map Geometry.lineString

/-- A polygon is read from its rings, whether or not they are closed. -/
theorem body_polygon_of_rings {rings : List (List Point)} (filled : ∀ ring ∈ rings, ring ≠ [])
    (rest : List Token) :
    (body .polygon .xy (membersTokens (rings.map pointsTokens) ++ rest)).Yields
      (.polygon (polygonOfRings rings)) rest := by
  unfold body
  exact (pointLists_yields_members filled rest).map fun rings =>
    Geometry.polygon (polygonOfRings rings)

theorem body_polygon {p : Polygon} (regular : p.Regular) (rest : List Token) :
    (body .polygon .xy (membersTokens (ringsTokens p) ++ rest)).Yields (.polygon p) rest := by
  have read := body_polygon_of_rings (ne_nil_of_mem_shownRings regular) rest
  rwa [polygonOfRings_shownRings regular] at read

theorem body_multiPoint (ps : List Point) (rest : List Token) :
    (body .multiPoint .xy (membersTokens (ps.map fun p => parenTokens (pointTokens p)) ++
      rest)).Yields (.multiPoint ps) rest := by
  have read := (parens_yields_members (fun p (_ : p ∈ ps) rest => memberPoint_yields p rest)
    rest).map fun ps => Geometry.multiPoint (ps.filterMap id)
  have same : (ps.map some).filterMap id = ps := by simp
  rw [same] at read
  unfold body
  exact read

theorem body_multiLineString {lines : List (List Point)} (filled : ∀ line ∈ lines, line ≠ [])
    (rest : List Token) :
    (body .multiLineString .xy (membersTokens (lines.map pointsTokens) ++ rest)).Yields
      (.multiLineString lines) rest := by
  unfold body
  exact (pointLists_yields_members filled rest).map Geometry.multiLineString

theorem body_multiPolygon {ps : List Polygon} (regular : ∀ p ∈ ps, p.exterior ≠ [] ∧ p.Regular)
    (rest : List Token) :
    (body .multiPolygon .xy (membersTokens (ps.map fun p =>
      parenTokens (commaTokens (ringsTokens p))) ++ rest)).Yields (.multiPolygon ps) rest := by
  have each (p : Polygon) (member : p ∈ ps) (rest : List Token) :
      (pointLists .xy (parenTokens (commaTokens (ringsTokens p)) ++ rest)).Yields (shownRings p)
        rest := by
    refine pointLists_yields ?_ (ne_nil_of_mem_shownRings (regular p member).2) rest
    rw [shownRings, if_neg (fun none => (regular p member).1 (List.isEmpty_iff.mp none))]
    exact List.cons_ne_nil _ _
  have same : (ps.map shownRings).map polygonOfRings = ps := by
    rw [List.map_map]
    exact map_eq_self fun p member => polygonOfRings_shownRings (regular p member).2
  have read := (parens_yields_members each rest).map fun ps =>
    Geometry.multiPolygon (ps.map polygonOfRings)
  rw [same] at read
  unfold body
  exact read

theorem shownAll_eq_map (gs : List Geometry) : shownAll gs = gs.map shown := by
  induction gs with
  | nil => rfl
  | cons g gs ih => rw [shownAll, ih, List.map_cons]

theorem plainForms_eq_map (gs : List Geometry) :
    Geometry.plainForms gs = gs.map Geometry.plainForm := by
  induction gs with
  | nil => rfl
  | cons g gs ih => rw [Geometry.plainForms, ih, List.map_cons]

/-- A collection is read member by member, whatever its members are made from. -/
theorem body_collection_of_yields {α : Type} {tokensOf : α → List Token} {valueOf : α → Geometry}
    {xs : List α}
    (read : ∀ x ∈ xs, ∀ rest, (member (tokensOf x ++ rest)).Yields (valueOf x) rest)
    (rest : List Token) :
    (body .collection .xy (membersTokens (xs.map tokensOf) ++ rest)).Yields
      (.collection (xs.map valueOf)) rest := by
  unfold body
  exact (parens_yields_members read rest).map Geometry.collection

theorem body_collection {members : List Geometry}
    (read : ∀ g ∈ members, ∀ rest, (member (shown g ++ rest)).Yields g.plainForm rest)
    (rest : List Token) :
    (body .collection .xy (membersTokens (shownAll members) ++ rest)).Yields
      (.collection (Geometry.plainForms members)) rest := by
  rw [shownAll_eq_map, plainForms_eq_map]
  exact body_collection_of_yields read rest

mutual

/-- **The tokens of a regular geometry are read as its plain form.** -/
theorem member_shown : (g : Geometry) → g.Regular → (∀ p ∈ g.points, p.meets p = true) →
    (rest : List Token) → (member (shown g ++ rest)).Yields g.plainForm rest
  | .point p, _, _, rest => member_yields (s := .point) ⟨rfl, rfl⟩ (body_point p rest)
  | .line a b, _, _, rest => member_yields_headed (body_lineString [a, b] rest)
  | .lineString ps, _, _, rest => member_yields_headed (body_lineString ps rest)
  | .polygon _, regular, _, rest => member_yields_headed (body_polygon regular rest)
  | .multiPoint ps, _, _, rest => member_yields_headed (body_multiPoint ps rest)
  | .multiLineString _, filled, _, rest =>
    member_yields_headed (body_multiLineString filled rest)
  | .multiPolygon _, regular, _, rest => member_yields_headed (body_multiPolygon regular rest)
  | .collection members, regular, meets, rest =>
    member_yields_headed (body_collection (member_shown_of_mem members regular meets) rest)
  | .rect _, _, meets, rest =>
    member_yields_headed (body_polygon (Box.regular_polygon meets) rest)
  | .triangle _, _, meets, rest =>
    member_yields_headed (body_polygon (Triangle.regular_polygon meets) rest)

/-- So are those of each of several geometries. -/
theorem member_shown_of_mem : (gs : List Geometry) → Geometry.AllRegular gs →
    (∀ p ∈ Geometry.pointsOf gs, p.meets p = true) → ∀ g ∈ gs, ∀ rest : List Token,
    (member (shown g ++ rest)).Yields g.plainForm rest
  | [], _, _, _, member, _ => nomatch member
  | g :: _, regular, meets, _, .head _, rest =>
    member_shown g regular.1 (fun p here => meets p (List.mem_append_left _ here)) rest
  | _ :: gs, regular, meets, h, .tail _ later, rest =>
    member_shown_of_mem gs regular.2 (fun p here => meets p (List.mem_append_right _ here)) h
      later rest

end

end Wkt
end StreamCatalog
