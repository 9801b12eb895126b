import StreamCatalog.Decimal.Digits
import StreamCatalog.Json.Basic
import StreamCatalog.Text.Hex

/-!
# Writing structured text

The compact form has no blanks.  The spread form puts every item and member on a line
of its own, two blanks deeper than what encloses it; an empty array or object stays
on one line.

In strings only quotes, backslashes and the characters below the space are escaped.
-/

namespace StreamCatalog
namespace Json

/-- One character inside a string. -/
def writeChar (c : Char) : List Char :=
  match c with
  | '"' => ['\\', '"']
  | '\\' => ['\\', '\\']
  | '\x08' => ['\\', 'b']
  | '\x0c' => ['\\', 'f']
  | '\n' => ['\\', 'n']
  | '\r' => ['\\', 'r']
  | '\t' => ['\\', 't']
  | c => if c.toNat < 0x20 then '\\' :: 'u' :: Text.hexFixed 4 c.toNat else [c]

/-- A string in quotes. -/
def writeString (s : String) : List Char := '"' :: s.toList.flatMap writeChar ++ ['"']

/-- A whole number. -/
def writeWhole : Int → List Char
  | .ofNat n => Decimal.digits n
  | .negSucc n => '-' :: Decimal.digits (n + 1)

/-- A value without parts.  What has no text or number is written as nothing. -/
def writeLeaf : Value → List Char
  | .boolean true => ['t', 'r', 'u', 'e']
  | .boolean false => ['f', 'a', 'l', 's', 'e']
  | .number (some n) => writeWhole n
  | .string (some s) => writeString s
  | _ => ['n', 'u', 'l', 'l']

/-- How the parts of a value are set apart. -/
structure Style where
  /-- What stands before a part at a depth, and before the closing bracket. -/
  lead : Nat → List Char
  /-- What stands after a colon. -/
  gap : List Char

/-- No blanks at all. -/
def Style.compact : Style := ⟨fun _ => [], []⟩

/-- A line for each part. -/
def Style.spread : Style := ⟨fun depth => '\n' :: List.replicate (2 * depth) ' ', [' ']⟩

/-- The name of a member, and what stands between it and its value. -/
def Style.writeName (st : Style) (name : Option String) : List Char :=
  writeString (name.getD "") ++ ':' :: st.gap

mutual

/-- The text of a value at a depth. -/
def Style.write (st : Style) (depth : Nat) : Value → List Char
  | .array [] => ['[', ']']
  | .array (v :: vs) =>
    '[' :: st.lead (depth + 1) ++ st.write (depth + 1) v ++ st.writeItems (depth + 1) vs ++
      st.lead depth ++ [']']
  | .object [] => ['\x7b', '\x7d']
  | .object ((name, v) :: ms) =>
    '\x7b' :: st.lead (depth + 1) ++ st.writeName name ++ st.write (depth + 1) v ++
      st.writeMembers (depth + 1) ms ++ st.lead depth ++ ['\x7d']
  | v => writeLeaf v

/-- The items after the first one. -/
def Style.writeItems (st : Style) (depth : Nat) : List Value → List Char
  | [] => []
  | v :: vs => ',' :: st.lead depth ++ st.write depth v ++ st.writeItems depth vs

/-- The members after the first one. -/
def Style.writeMembers (st : Style) (depth : Nat) : Members → List Char
  | [] => []
  | (name, v) :: ms =>
    ',' :: st.lead depth ++ st.writeName name ++ st.write depth v ++ st.writeMembers depth ms

end

/-- The compact text of a value. -/
def Value.compact (v : Value) : String := String.ofList (Style.compact.write 0 v)

/-- The spread text of a value. -/
def Value.spread (v : Value) : String := String.ofList (Style.spread.write 0 v)

end Json
end StreamCatalog
