import StreamCatalog.Catalog.Codec
import StreamCatalog.Proofs.Codec.Identifiers
import StreamCatalog.Proofs.Codec.Stamps
import StreamCatalog.Proofs.Codec.Structured

/-!
# Records are read back

A record is read back from its texts, whatever its identifier and its attributes are: from the
one that is stored for it (`Record.read?_stored`) and from the compact one
(`Record.read?_compact`).  So writing what has been read gives the same text once more.

Values are read back one by one.  Attributes are read in the order in which they were
written, which is the order of their names, so that each is inserted behind all earlier
ones and the result is the list that was written.
-/

namespace StreamCatalog
namespace Catalog

open Json (Members)

/-! ## Objects of two parts -/

theorem unique_first {first second : String} (apart : second ≠ first) (v w : Json.Value) :
    Members.unique first [(some first, v), (some second, w)] = some (some v) := by
  simp [Members.unique, apart]

theorem unique_second {first second : String} (apart : first ≠ second) (v w : Json.Value) :
    Members.unique second [(some first, v), (some second, w)] = some (some w) := by
  simp [Members.unique, apart]

theorem plain_of_two {first second : String} {v w : Json.Value} (hv : v.Plain) (hw : w.Plain) :
    Json.Value.Plain (.object [(some first, v), (some second, w)]) := by
  apply Json.Value.Plain.object
  · intro m member
    rcases List.mem_cons.mp member with rfl | member
    · rfl
    · rw [List.mem_singleton.mp member]
      rfl
  · intro m member
    rcases List.mem_cons.mp member with rfl | member
    · exact hv
    · rw [List.mem_singleton.mp member]
      exact hw

/-! ## Values -/

theorem Value.ofParts?_parts (v : Value) : ofParts? v.parts.1 v.parts.2 = some v := by
  cases v with
  | text s => rfl
  | integer n =>
    have inRange : (decide ((integer n).parts.1 = "integer") &&
        decide (Int64.minValue.toInt ≤ n.toInt) && decide (n.toInt ≤ Int64.maxValue.toInt)) =
          true := by
      have low := n.le_toInt
      have high := n.toInt_lt
      have least : Int64.minValue.toInt = -2 ^ 63 := by decide
      have most : Int64.maxValue.toInt = 2 ^ 63 - 1 := by decide
      rw [least, most]
      simp only [Bool.and_eq_true, decide_eq_true_eq]
      exact ⟨⟨rfl, by omega⟩, by omega⟩
    show (if _ then _ else _) = _
    rw [if_pos inRange, Int64.ofInt_toInt]
  | timestamp t =>
    show (Time.Instant.ofStamp? t.stamp).map timestamp = _
    rw [Time.Instant.ofStamp?_stamp]
    rfl

/-- **A value is read back from its object.** -/
theorem Value.ofJson?_toJson (v : Value) : ofJson? v.toJson = some v := by
  have named : Members.areNamed [(some "type", .text v.parts.1), (some "value", v.parts.2)] = true :=
    rfl
  rw [toJson, ofJson?]
  dsimp only
  rw [if_pos named, unique_first (by decide), unique_second (by decide)]
  exact v.ofParts?_parts

theorem Value.plain_toJson (v : Value) : v.toJson.Plain := by
  refine plain_of_two (.text _) ?_
  cases v with
  | text s => exact .text s
  | integer n => exact .whole _
  | timestamp t => exact .text _

theorem valuesOfJson?_toJson (vs : List Value) :
    valuesOfJson? (.array (vs.map Value.toJson)) = some vs := by
  rw [valuesOfJson?]
  induction vs with
  | nil => rfl
  | cons v vs ih =>
    rw [List.map_cons, List.mapM_cons, Value.ofJson?_toJson, ih]
    rfl

/-! ## Attributes -/

/-- What comes last in the order is inserted at the end. -/
theorem insertEntry_of_last {name : String} {values : List Value} {es : Entries}
    (last : ∀ e ∈ es, e.1 < name) : insertEntry name values es = es ++ [(name, values)] := by
  induction es with
  | nil => rfl
  | cons e es ih =>
    have before : e.1 < name := last e List.mem_cons_self
    rw [insertEntry, if_neg (String.lt_asymm before),
      if_neg fun same => absurd (same ▸ before) (String.lt_irrefl _),
      ih fun f member => last f (List.mem_cons_of_mem e member)]
    rfl

/-- Attributes that are read one after the other end up in the order of reading. -/
theorem foldlM_insert_toJson {a : Attributes} {es : Entries} (inOrder : InOrder (a.entries ++ es)) :
    (es.map fun e => ((some e.1 : Option String), Json.Value.array (e.2.map Value.toJson))).foldlM
      (fun a m => do some (a.insert (← m.1) (← valuesOfJson? m.2))) a =
        some ⟨a.entries ++ es, inOrder⟩ := by
  induction es generalizing a with
  | nil => simp
  | cons e es ih =>
    have last : ∀ d ∈ a.entries, d.1 < e.1 := fun d member =>
      (List.pairwise_append.mp inOrder).2.2 d member e List.mem_cons_self
    have entries : (a.insert e.1 e.2).entries = a.entries ++ [e] := insertEntry_of_last last
    have more : InOrder ((a.insert e.1 e.2).entries ++ es) := by
      rw [entries, List.append_assoc]
      exact inOrder
    rw [List.map_cons, List.foldlM_cons, valuesOfJson?_toJson]
    show List.foldlM _ (a.insert e.1 e.2) _ = _
    rw [ih more]
    simp only [entries, List.append_assoc, List.singleton_append]

theorem Attributes.ofJson?_toJson (a : Attributes) : ofJson? a.toJson = some a :=
  foldlM_insert_toJson (a := .empty) a.inOrder

theorem Attributes.plain_toJson (a : Attributes) : a.toJson.Plain := by
  apply Json.Value.Plain.object
  · intro m member
    obtain ⟨e, -, rfl⟩ := List.mem_map.mp member
    rfl
  · intro m member
    obtain ⟨e, -, rfl⟩ := List.mem_map.mp member
    apply Json.Value.Plain.array
    intro v member
    obtain ⟨w, -, rfl⟩ := List.mem_map.mp member
    exact w.plain_toJson

/-! ## Records -/

/-- The bytes of a text are a text again, the same one. -/
theorem fromUTF8?_toUTF8 (s : String) : String.fromUTF8? ⟨⟨s.toUTF8.data.toList⟩⟩ = some s :=
  dif_pos s.isValidUTF8

namespace Record

theorem ofJson?_toJson (r : Record) : ofJson? r.toJson = some r := by
  have named : Members.areNamed [(some "id", .text r.id.text),
      (some "attributes", r.attributes.toJson)] = true := rfl
  have id : Id.ofJson? (.text r.id.text) = some r.id := by
    rw [Id.ofJson?, Id.text, String.toList_ofList]
    exact r.id.read?_write
  rw [toJson, ofJson?, if_pos named, unique_first (by decide), unique_second (by decide)]
  simp only [Option.bind_eq_bind, Option.bind_some, id, Attributes.ofJson?_toJson]

theorem plain_toJson (r : Record) : r.toJson.Plain :=
  plain_of_two (.text _) r.attributes.plain_toJson

/-- **A record is read back from the text that is stored for it.** -/
theorem read?_stored (r : Record) : read? r.stored = some r := by
  rw [read?, stored, Json.read_spread r.plain_toJson, Option.bind_some, ofJson?_toJson]

/-- A record is read back from its file. -/
theorem ofBytes?_bytes (r : Record) : ofBytes? r.bytes = some r := by
  rw [ofBytes?, bytes, fromUTF8?_toUTF8, Option.bind_some, r.read?_stored]

/-- A record is read back from its compact text. -/
theorem read?_compact (r : Record) : read? r.toJson.compact = some r := by
  rw [read?, Json.read_compact r.plain_toJson, Option.bind_some, ofJson?_toJson]

/-- **Nothing of a record is lost or changed in its texts.**  Reading either of them gives the
record, and writing what has been read gives the same text once more. -/
theorem read?_texts (r : Record) :
    (read? r.toJson.compact = some r ∧ read? r.stored = some r) ∧
      (read? r.toJson.compact).map (fun back => back.toJson.compact) = some r.toJson.compact ∧
      (read? r.stored).map stored = some r.stored := by
  refine ⟨⟨r.read?_compact, r.read?_stored⟩, ?_, ?_⟩
  · rw [r.read?_compact]
    rfl
  · rw [r.read?_stored]
    rfl

end Record
end Catalog
end StreamCatalog
