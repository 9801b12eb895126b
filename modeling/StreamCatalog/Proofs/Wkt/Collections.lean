import StreamCatalog.Proofs.Outcomes
import StreamCatalog.Proofs.Wkt.Coordinates
import StreamCatalog.Wkt.Builder

/-!
# A collection that is put together is read back

A builder puts the texts of its parts between one pair of parentheses, and if every part is read
as some geometry whatever follows it, the whole is read as the collection of these geometries:
`Builder.parse_render_of_reads`.  The text differs from that of a collection by its spaces, and
spaces leave no token.  In particular a geometry that is taken apart into its leaves is read back
as the collection of the leaves in their plain forms, if every leaf can be restored from its own
text: `parse_render_addGeometry`.

Text does not hold everything that reading gives, for an empty line among several and infinity
are read and cannot be shown.  But there are no segments, boxes or triangles in what is read
(`plainForm_of_parse`), so nothing changes its kind on the way.
-/

namespace StreamCatalog

/-! ## Leaves -/

namespace Geometry

variable {P : Geometry → Prop} {g leaf : Geometry}

theorem of_mem_single (alone : g.leaves = if g.hasPoints then [g] else []) (holds : P g)
    (member : leaf ∈ g.leaves) : P leaf ∧ leaf.leaves = [leaf] := by
  rw [alone] at member
  split at member
  · rename_i filled
    rw [List.mem_singleton] at member
    rw [if_pos filled] at alone
    rw [member]
    exact ⟨holds, alone⟩
  · cases member

mutual

/-- A leaf is its own only leaf, and what a collection hands down to its members comes down to
the leaves. -/
theorem of_mem_leaves (down : ∀ members, P (.collection members) → ∀ g ∈ members, P g) :
    (g : Geometry) → P g → ∀ leaf ∈ g.leaves, P leaf ∧ leaf.leaves = [leaf]
  | .collection members, holds, _, member =>
    of_mem_leavesOf down members (down members holds) _ member
  | .point _, holds, _, member | .line _ _, holds, _, member | .lineString _, holds, _, member
  | .polygon _, holds, _, member | .multiPoint _, holds, _, member
  | .multiLineString _, holds, _, member | .multiPolygon _, holds, _, member
  | .rect _, holds, _, member | .triangle _, holds, _, member => of_mem_single rfl holds member

theorem of_mem_leavesOf (down : ∀ members, P (.collection members) → ∀ g ∈ members, P g) :
    (gs : List Geometry) → (∀ g ∈ gs, P g) → ∀ leaf ∈ leavesOf gs, P leaf ∧ leaf.leaves = [leaf]
  | [], _, _, member => nomatch member
  | g :: gs, holds, _, member => by
    rcases List.mem_append.mp member with here | later
    · exact of_mem_leaves down g (holds g List.mem_cons_self) _ here
    · exact of_mem_leavesOf down gs (fun h below => holds h (List.mem_cons_of_mem _ below)) _ later

end

/-- Leaves stay as they are when they are taken apart. -/
theorem leavesOf_of_leaves {gs : List Geometry} (leaves : ∀ g ∈ gs, g.leaves = [g]) :
    leavesOf gs = gs := by
  induction gs with
  | nil => rfl
  | cons g gs ih =>
    rw [leavesOf, leaves g List.mem_cons_self,
      ih fun h member => leaves h (List.mem_cons_of_mem _ member), List.singleton_append]

theorem leaves_of_mem_leaves (member : leaf ∈ g.leaves) : leaf.leaves = [leaf] :=
  (of_mem_leaves (P := fun _ => True) (fun _ _ _ _ => trivial) g trivial leaf member).2

/-- The leaves of a plain geometry are plain. -/
theorem plainForm_of_mem_leaves (plain : g.plainForm = g) (member : leaf ∈ g.leaves) :
    leaf.plainForm = leaf := by
  refine (of_mem_leaves (P := fun g => g.plainForm = g) ?_ g plain leaf member).1
  intro members plain
  rw [plainForm, Wkt.plainForms_eq_map, Geometry.collection.injEq] at plain
  exact List.map_inj_left.mp (plain.trans (List.map_id members).symm)

end Geometry

/-! ## Restorable geometries -/

/-- Is the text of a geometry read as the geometry in its plain form?  Everything that is shown
must be shown with something in it, and every coordinate must have a text that is a number. -/
structure Geometry.Restorable (g : Geometry) : Prop where
  regular : g.Regular
  showable : ∀ p ∈ g.points, p.Showable

instance (g : Geometry) : Decidable g.Restorable :=
  decidable_of_iff (g.Regular ∧ ∀ p ∈ g.points, p.Showable)
    ⟨fun h => ⟨h.1, h.2⟩, fun h => ⟨h.regular, h.showable⟩⟩

namespace Wkt

open Text (Stops)

/-! ## What is read is plain -/

section

variable {α β : Type} {ts : List Token}

theorem Reading.exists_of_map {r : Reading α ts} {f : α → β} {b : β}
    (read : (r.map f).value = .ok b) : ∃ a, r.value = .ok a ∧ f a = b :=
  map_eq_ok_iff.mp read

theorem ok_of_closing {outcome : Except Fault α} {a : α}
    (read : (closing outcome ts).value = .ok a) : outcome = .ok a := by
  unfold closing at read
  split at read
  · exact read
  · exact nomatch read
  · exact nomatch read

/-- What is read in parentheses is the body. -/
theorem exists_of_parens {empty a : α}
    {body : (us : List Token) → us.length < ts.length → Reading α us}
    (read : (parens empty ts body).value = .ok a) :
    a = empty ∨ ∃ us shorter, (body us shorter).value = .ok a := by
  unfold parens at read
  split at read
  · dsimp only [Reading.past] at read
    exact Or.inr ⟨_, _, ok_of_closing read⟩
  · split at read
    · exact Or.inl (Except.ok.inj read).symm
    · exact nomatch read
  · exact nomatch read
  · exact nomatch read

/-- Every item of a list is read as an item. -/
theorem forall_mem_of_commaList {P : α → Prop} {bound : Nat}
    {item : (us : List Token) → us.length ≤ bound → Reading α us}
    (each : ∀ us inBound a, (item us inBound).value = .ok a → P a) (inBound : ts.length ≤ bound)
    {as : List α} (read : (commaList bound item ts inBound).value = .ok as) : ∀ a ∈ as, P a := by
  fun_induction commaList bound item ts inBound with
  | case1 => exact nomatch read
  | case2 _ _ _ ts inBound a us shorter eq =>
    have first : P a := each ts inBound a (by rw [eq])
    cases Except.ok.inj read
    exact List.forall_mem_singleton.mpr first
  | case3 _ _ _ ts inBound a _ _ eq _ _ _ more ih =>
    have first : P a := each ts inBound a (by rw [eq])
    obtain ⟨bs, rest, rfl⟩ := map_eq_ok_iff.mp read
    exact List.forall_mem_cons.mpr ⟨first, ih each rest⟩

end

/-- A body that is read is plain if the members of a collection are. -/
theorem plainForm_of_body {s : Shape} {d : Dimension} {ts : List Token} {g : Geometry}
    (members : ∀ us : List Token, us.length < ts.length →
      ∀ h, (member us).value = .ok h → h.plainForm = h)
    (read : (body s d ts).value = .ok g) : g.plainForm = g := by
  unfold body at read
  cases s with
  | point =>
    obtain ⟨p, -, rfl⟩ := Reading.exists_of_map read
    cases p <;> rfl
  | collection =>
    obtain ⟨gs, inside, rfl⟩ := Reading.exists_of_map read
    have plain : ∀ h ∈ gs, h.plainForm = h := by
      rcases exists_of_parens inside with rfl | ⟨us, shorter, listed⟩
      · exact nofun
      · refine forall_mem_of_commaList (fun vs inBound h => ?_) _ listed
        exact members vs (Nat.lt_of_le_of_lt inBound shorter) h
    rw [Geometry.plainForm, plainForms_eq_map, map_eq_self plain]
  | lineString | polygon | multiPoint | multiLineString | multiPolygon =>
    obtain ⟨_, -, rfl⟩ := Reading.exists_of_map read
    rfl

/-- **What is read is plain.** -/
theorem plainForm_of_member (ts : List Token) {g : Geometry} (read : (member ts).value = .ok g) :
    g.plainForm = g := by
  induction length : ts.length using Nat.strong_induction_on generalizing ts g with
  | h n ih =>
    unfold member at read
    split at read
    · split at read
      · cases read
      · split at read
        · cases read
        · rename_i w us _ _ _ _ d vs shorter _
          have inside : (body _ d vs).value = .ok g := read
          refine plainForm_of_body (fun ws below h => ?_) inside
          have before : ws.length < n := by
            rw [List.length_cons] at length
            omega
          exact fun inner => ih ws.length before ws inner rfl
    · cases read
    · cases read

theorem plainForm_of_parse {text : String} {g : Geometry} (read : parse text = .ok g) :
    g.plainForm = g := by
  unfold parse Wkt.read ofTokens at read
  split at read
  · rename_i found
    cases Except.ok.inj read
    split at found
    · split at found
      · exact plainForm_of_member _ found
      · cases found
    · cases found
    · cases found
  · cases read

/-! ## The text of a collection -/

/-- A list with a space behind every comma is scanned piece by piece. -/
theorem scans_intercalate {α : Type} {textOf : α → List Char} {tokensOf : α → List Token}
    {xs : List α} (each : ∀ x ∈ xs, Scans (textOf x) (tokensOf x)) :
    Scans ([',', ' '].intercalate (xs.map textOf)) (commaTokens (xs.map tokensOf)) := by
  induction xs with
  | nil => exact scans_nil
  | cons x xs ih =>
    have here := each x List.mem_cons_self
    have more := ih fun y member => each y (List.mem_cons_of_mem _ member)
    cases xs with
    | nil =>
      rw [List.map_singleton, List.intercalate_singleton]
      exact here
    | cons y ys =>
      rw [List.map_cons, List.map_cons, List.intercalate_cons_cons, ← List.map_cons,
        List.append_assoc]
      exact here.beforeComma more.behindSpace

theorem tokens_of_scans {cs : List Char} {ts : List Token} (scans : Scans cs ts) :
    tokens cs = ts := by
  have scanned := scans [] (Text.stops_nil _)
  have none : tokens [] = [] := by rw [tokens]
  rwa [List.append_nil, none, List.append_nil] at scanned

/-- Is the text of a part read as this geometry, whatever follows? -/
structure Part.Reads (part : Part) (g : Geometry) : Prop where
  scans : Scans part.write (tokens part.write)
  grammar : ∀ rest, (member (tokens part.write ++ rest)).Yields g rest

/-- A part is read as the geometry that its tokens are read as. -/
theorem reads_of_scans {part : Part} {ts : List Token} {g : Geometry}
    (scans : Scans part.write ts) (grammar : ∀ rest, (member (ts ++ rest)).Yields g rest) :
    part.Reads g := by
  have same := tokens_of_scans scans
  exact ⟨by rwa [same], by rwa [same]⟩

/-- The text of a geometry that can be restored is read as its plain form. -/
theorem reads_text {g : Geometry} (restorable : g.Restorable) :
    (Part.text (write g)).Reads g.plainForm :=
  reads_of_scans
    (scans_write g restorable.regular fun p member => (restorable.showable p member).isShown)
    (member_shown g restorable.regular fun p member => (restorable.showable p member).meets)

namespace Builder

/-- The characters that a builder writes for its parts. -/
theorem render_eq {b : Builder} (filled : b.parts ≠ []) :
    b.render = String.ofList (Shape.collection.keyword ++
      ' ' :: inParens ([',', ' '].intercalate (b.parts.map Part.write))) := by
  have opened : "GEOMETRYCOLLECTION (".toList = Shape.collection.keyword ++ [' ', '('] := by decide
  rw [render, if_neg fun none => filled (List.isEmpty_iff.mp none), opened, inParens]
  simp only [List.append_assoc, List.cons_append, List.nil_append]

/-- Only a builder without parts writes the empty text. -/
theorem render_eq_empty {b : Builder} : b.render = "" ↔ b.parts = [] := by
  constructor
  · intro none
    by_contra filled
    rw [render_eq filled, String.ofList_eq_empty_iff] at none
    exact List.append_ne_nil_of_right_ne_nil _ (List.cons_ne_nil _ _) none
  · intro none
    rw [render, none]
    rfl

/-- **A collection that is put together is read back** part by part. -/
theorem parse_render_of_reads {b : Builder} {gs : List Geometry}
    (reads : List.Forall₂ Part.Reads b.parts gs) (filled : b.parts ≠ []) :
    parse b.render = .ok (.collection gs) := by
  obtain ⟨same, each⟩ := List.forall₂_iff_zip.mp reads
  -- Texts, tokens and geometries are all taken from one list of pairs.
  have parts : (b.parts.zip gs).map Prod.fst = b.parts := List.map_fst_zip same.le
  have members : (b.parts.zip gs).map Prod.snd = gs := List.map_snd_zip same.ge
  generalize b.parts.zip gs = pairs at each parts members
  have texts : b.parts.map Part.write = pairs.map fun pair => pair.1.write := by
    rw [← parts, List.map_map]
    rfl
  have tokensSome : ¬ (pairs.map fun pair => tokens pair.1.write).isEmpty = true := by
    rw [List.isEmpty_iff, List.map_eq_nil_iff]
    rintro rfl
    exact filled parts.symm
  have scans := (scans_keyword .collection).append
    (scans_intercalate fun pair (member : pair ∈ pairs) => (each member).scans).inParens.behindSpace
    fun rest _ => delimited_cons (by decide) _
  have grammar := member_yields_headed (s := .collection)
    (body_collection_of_yields (fun pair (member : pair ∈ pairs) => (each member).grammar) [])
  rw [List.append_nil, headed, membersTokens, if_neg tokensSome, members] at grammar
  have back : Stops Text.isBlank (Shape.collection.keyword ++
      ' ' :: inParens ([',', ' '].intercalate (b.parts.map Part.write))).reverse := by
    rw [inParens, ← List.cons_append, ← List.append_assoc]
    exact stops_closing _
  rw [← texts] at scans
  rw [parse, render_eq filled, String.toList_ofList,
    read_of_yields scans (stops_keyword .collection _) back grammar]

end Builder

/-- The leaves of a geometry are read in their plain forms, if every leaf can be restored. -/
theorem reads_leaves {g : Geometry} (restorable : ∀ leaf ∈ g.leaves, leaf.Restorable) :
    List.Forall₂ Part.Reads (g.leaves.map fun leaf => .text (write leaf))
      (g.leaves.map Geometry.plainForm) := by
  rw [List.forall₂_map_left_iff, List.forall₂_map_right_iff, List.forall₂_same]
  exact fun leaf member => reads_text (restorable leaf member)

/-- What is written for a geometry is read as the collection of its leaves. -/
theorem parse_render_addGeometry {g : Geometry} (filled : g.leaves ≠ [])
    (restorable : ∀ leaf ∈ g.leaves, leaf.Restorable) :
    parse (Builder.addGeometry {} g).render =
      .ok (.collection (g.leaves.map Geometry.plainForm)) := by
  refine Builder.parse_render_of_reads (reads_leaves restorable) fun none => filled ?_
  exact List.map_eq_nil_iff.mp none

end Wkt
end StreamCatalog
