/-!
# Structured text

Records are kept as text of nested arrays and objects.  A value keeps what records
need and no more: of numbers, only whole ones have a value; a string that contains
half a surrogate pair has no text.  Members of an object keep their order, and a name
may occur twice.
-/

namespace StreamCatalog
namespace Json

/-- A value of structured text. -/
inductive Value where
  | null
  | boolean (b : Bool)
  /-- A number; only one written without point, exponent or negative zero is whole. -/
  | number (whole : Option Int)
  /-- A string; one with half a surrogate pair has no text. -/
  | string (text : Option String)
  | array (items : List Value)
  | object (members : List (Option String × Value))
  deriving Inhabited

/-- A string with a text. -/
abbrev Value.text (s : String) : Value := .string (some s)

/-- A whole number. -/
abbrev Value.whole (n : Int) : Value := .number (some n)

/-- The members of an object, by name. -/
abbrev Members : Type := List (Option String × Value)

/-- The value of a member that may occur at most once: `some none` if it does not
occur, `none` if it occurs twice. -/
def Members.unique (name : String) (members : Members) : Option (Option Value) :=
  match members.filter fun m => m.1 = some name with
  | [] => some none
  | [m] => some (some m.2)
  | _ => none

/-- Do all names have a text? -/
def Members.areNamed (members : Members) : Bool := members.all fun m => m.1.isSome

end Json
end StreamCatalog
