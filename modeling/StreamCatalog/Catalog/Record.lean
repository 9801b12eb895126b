import StreamCatalog.Catalog.Attributes
import StreamCatalog.Catalog.Id

/-!
# Records

A record has an identifier and attributes.  A stream and each of its segments have a
record of the same form; the names below are the ones that both use.
-/

namespace StreamCatalog
namespace Catalog

/-! ## The names of attributes -/

namespace Name

/-- What a reader would call the content. -/
def title : String := "title"

/-- Where the content is. -/
def resourceUri : String := "resource-uri"

/-- How many bytes the content has. -/
def resourceSize : String := "resource-size"

/-- Of what kind the content is. -/
def mediaType : String := "media.type"

/-- When the record was made. -/
def created : String := "created"

/-- When the content begins. -/
def temporalStart : String := "temporal.start"

/-- When the content ends. -/
def temporalEnd : String := "temporal.end"

/-- The footprint, as geometry text. -/
def location : String := "location"

/-- The identifiers of the records made from this one's content. -/
def derived : String := "associations.derived"

end Name

/-- The media type of transport streams. -/
def transportStream : String := "video/mp2t"

/-- A record of the catalog. -/
structure Record where
  id : Id
  attributes : Attributes
  deriving DecidableEq, Repr

namespace Record

/-- A record without attributes. -/
def blank (id : Id) : Record := ⟨id, .empty⟩

/-- The values of an attribute. -/
def values? (r : Record) (name : String) : Option (List Value) := r.attributes.find? name

/-- Replace the values of an attribute; no values remove it. -/
def setAll (r : Record) (name : String) (values : List Value) : Record :=
  if values.isEmpty then { r with attributes := r.attributes.erase name }
  else { r with attributes := r.attributes.insert name values }

/-- Replace the values of an attribute by one. -/
def set (r : Record) (name : String) (v : Value) : Record :=
  { r with attributes := r.attributes.insert name [v] }

@[simp] theorem id_blank (id : Id) : (blank id).id = id := rfl

@[simp] theorem id_set (r : Record) (name : String) (v : Value) : (r.set name v).id = r.id := rfl

@[simp] theorem id_setAll (r : Record) (name : String) (values : List Value) :
    (r.setAll name values).id = r.id := by
  unfold setAll
  split <;> rfl

/-- The value that is set is found, and all else stays. -/
@[simp] theorem values?_set (r : Record) (name other : String) (v : Value) :
    (r.set name v).values? other = if other = name then some [v] else r.values? other :=
  Attributes.find?_insert r.attributes name other [v]

/-- The values that are set are found, and all else stays. -/
theorem values?_setAll {r : Record} {name other : String} {values : List Value}
    (filled : values ≠ []) :
    (r.setAll name values).values? other =
      if other = name then some values else r.values? other := by
  rw [setAll, if_neg (by simpa using filled)]
  exact Attributes.find?_insert r.attributes name other values

/-- Remove an attribute. -/
def remove (r : Record) (name : String) : Record :=
  { r with attributes := r.attributes.erase name }

/-- The first text of an attribute. -/
def text? (r : Record) (name : String) : Option String :=
  (r.values? name).bind fun vs => vs.findSome? Value.text?

/-- All texts of an attribute. -/
def texts (r : Record) (name : String) : List String :=
  ((r.values? name).getD []).filterMap Value.text?

/-- The first point in time of an attribute. -/
def timestamp? (r : Record) (name : String) : Option Time.Instant :=
  (r.values? name).bind fun vs => vs.findSome? Value.timestamp?

end Record

end Catalog
end StreamCatalog
