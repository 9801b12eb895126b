import StreamCatalog.Catalog.Record
import StreamCatalog.Json.Reader
import StreamCatalog.Json.Writer
import StreamCatalog.Time.Stamp

/-!
# Records as structured text

A record is written as an object of its identifier and its attributes, and each value
as an object of its type and its content.

Reading accepts these objects with their members in any order, with further members
that mean nothing, and also arrays that give the same parts by position.  What a
record needs must not be there twice; of an attribute that is there twice the last
one counts.
-/

namespace StreamCatalog
namespace Catalog

open Json (Members)

/-- The type and the content of a value. -/
def Value.parts : Value → String × Json.Value
  | .text s => ("text", .text s)
  | .integer n => ("integer", .whole n.toInt)
  | .timestamp t => ("timestamp", .text t.stamp)

/-- A value as an object. -/
def Value.toJson (v : Value) : Json.Value :=
  .object [(some "type", .text v.parts.1), (some "value", v.parts.2)]

/-- Attributes as an object. -/
def Attributes.toJson (a : Attributes) : Json.Value :=
  .object (a.entries.map fun e => (some e.1, .array (e.2.map Value.toJson)))

/-- A record as an object. -/
def Record.toJson (r : Record) : Json.Value :=
  .object [(some "id", .text r.id.text), (some "attributes", r.attributes.toJson)]

/-- A value of a type. -/
def Value.ofParts? (type : String) (content : Json.Value) : Option Value :=
  match content with
  | .string (some s) =>
    if type = "text" then some (.text s)
    else if type = "timestamp" then (Time.Instant.ofStamp? s).map .timestamp
    else none
  | .number (some n) =>
    if type = "integer" && Int64.minValue.toInt ≤ n && n ≤ Int64.maxValue.toInt then
      some (.integer (Int64.ofInt n))
    else none
  | _ => none

/-- The name of a type: a text, or an object that gives it no content. -/
def typeName? : Json.Value → Option String
  | .string s => s
  | .object [(name, .null)] => name
  | _ => none

/-- The value that an object or an array stands for. -/
def Value.ofJson? (j : Json.Value) : Option Value := do
  let (type, content) ←
    match j with
    | .object members =>
      if Members.areNamed members then do
        some (← (← Members.unique "type" members), ← (← Members.unique "value" members))
      else none
    | .array [type, content] => some (type, content)
    | _ => none
  Value.ofParts? (← typeName? type) content

/-- The values that an array stands for. -/
def valuesOfJson? : Json.Value → Option (List Value)
  | .array items => items.mapM Value.ofJson?
  | _ => none

/-- The attributes that an object stands for. -/
def Attributes.ofJson? : Json.Value → Option Attributes
  | .object members =>
    members.foldlM (fun a m => do some (a.insert (← m.1) (← valuesOfJson? m.2))) .empty
  | _ => none

/-- The identifier that a text stands for. -/
def Id.ofJson? : Json.Value → Option Id
  | .string (some s) => Id.read? s.toList
  | _ => none

/-- The record that an object or an array stands for.  Without attributes it has
none. -/
def Record.ofJson? : Json.Value → Option Record
  | .object members =>
    if Members.areNamed members then do
      let id ← Id.ofJson? (← (← Members.unique "id" members))
      match ← Members.unique "attributes" members with
      | some a => some ⟨id, ← Attributes.ofJson? a⟩
      | none => some (.blank id)
    else none
  | .array [id] => (Id.ofJson? id).map .blank
  | .array [id, attributes] => do some ⟨← Id.ofJson? id, ← Attributes.ofJson? attributes⟩
  | _ => none

/-- The text of a record as it is stored. -/
def Record.stored (r : Record) : String := r.toJson.spread

/-- The record that a text denotes. -/
def Record.read? (text : String) : Option Record := (Json.read text).bind Record.ofJson?

/-- What the file of a record holds: the bytes of its text. -/
def Record.bytes (r : Record) : List UInt8 := r.stored.toUTF8.data.toList

/-- The record that the bytes of a file denote; none if they are no text. -/
def Record.ofBytes? (bytes : List UInt8) : Option Record :=
  (String.fromUTF8? ⟨⟨bytes⟩⟩).bind Record.read?

end Catalog
end StreamCatalog
