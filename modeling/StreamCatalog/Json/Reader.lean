import StreamCatalog.Json.Token

/-!
# Reading structured text

Reading goes through the tokens once, from left to right, and keeps the arrays and
objects that are still open, innermost first.  How deeply they are nested does not
matter.  A text is one value with nothing before or after it.
-/

namespace StreamCatalog
namespace Json

/-- An array or object that is still open.  What it holds so far is in reverse; of an
object the name of the next value is known as well. -/
inductive Frame where
  | array (before : List Value)
  | object (before : Members) (name : Option String)

/-- What may come next. -/
inductive State where
  /-- A value has to come. -/
  | value (frames : List Frame)
  /-- The first item of an array, or its end. -/
  | firstItem (frames : List Frame)
  /-- The first name of an object, or its end. -/
  | firstName (frames : List Frame)
  /-- A name has to come. -/
  | nextName (before : Members) (frames : List Frame)
  /-- A colon has to come. -/
  | colon (before : Members) (name : Option String) (frames : List Frame)
  /-- A comma, or the end of an array. -/
  | nextItem (before : List Value) (frames : List Frame)
  /-- A comma, or the end of an object. -/
  | nextMember (before : Members) (frames : List Frame)
  /-- Nothing may come. -/
  | done (v : Value)

/-- A value is complete. -/
def State.complete (v : Value) : List Frame → State
  | [] => .done v
  | .array before :: frames => .nextItem (v :: before) frames
  | .object before name :: frames => .nextMember ((name, v) :: before) frames

/-- A token that begins a value. -/
def State.begin (frames : List Frame) : Token → Option State
  | .leaf v => some (.complete v frames)
  | .openArray => some (.firstItem frames)
  | .openObject => some (.firstName frames)
  | _ => none

/-- Read one token. -/
def State.next : State → Token → Option State
  | .value frames, t => State.begin frames t
  | .firstItem frames, .closeArray => some (.complete (.array []) frames)
  | .firstItem frames, t => State.begin (.array [] :: frames) t
  | .firstName frames, .closeObject => some (.complete (.object []) frames)
  | .firstName frames, .leaf (.string k) => some (.colon [] k frames)
  | .nextName before frames, .leaf (.string k) => some (.colon before k frames)
  | .colon before k frames, .colon => some (.value (.object before k :: frames))
  | .nextItem before frames, .comma => some (.value (.array before :: frames))
  | .nextItem before frames, .closeArray => some (.complete (.array before.reverse) frames)
  | .nextMember before frames, .comma => some (.nextName before frames)
  | .nextMember before frames, .closeObject => some (.complete (.object before.reverse) frames)
  | _, _ => none

/-- The value that a text denotes. -/
def read (text : String) : Option Value := do
  let ts ← tokens text.toList
  match ← ts.foldlM State.next (.value []) with
  | .done v => some v
  | _ => none

end Json
end StreamCatalog
