import StreamCatalog.Error
import StreamCatalog.Path
import StreamCatalog.Time.Format

/-!
# Names of segment files

A template is a text with placeholders, `%{name}` or `%{name=argument}`.  Scanning
splits it from left to right into characters and placeholders.  Only what the
template itself holds is scanned: the text that takes a placeholder's place is not
looked at again, so a title may contain anything.

Three placeholders are known: the start of the period as a date, the number of the
name, and the title of the stream.  Any other, and a date in a format that does not
read, stays as it was written.

The result is made safe for a file system by replacing every character that
separates or selects paths and every control character, and gets an extension if it
has none.

A generator counts the names that it makes, whatever template they are made from.
-/

namespace StreamCatalog
namespace Segment

/-- A part of a template that something else takes the place of. -/
structure Placeholder where
  name : List Char
  argument : Option (List Char)
  deriving DecidableEq, Repr

/-- A placeholder as it is written. -/
def Placeholder.text (p : Placeholder) : List Char :=
  '%' :: '\x7b' :: p.name ++ (match p.argument with
    | some a => '=' :: a
    | none => []) ++ ['\x7d']

theorem Placeholder.length_text_pos (p : Placeholder) : 0 < p.text.length := by
  simp [text]

/-- A letter of a placeholder's name. -/
def isNameLetter (c : Char) : Bool := 'a' ≤ c && c ≤ 'z'

/-- The placeholder that a text begins with.  An argument runs to the first closing
brace. -/
def placeholderAt : List Char → Option Placeholder
  | '%' :: '\x7b' :: cs =>
    let name := cs.takeWhile isNameLetter
    if name = [] then none
    else
      match cs.dropWhile isNameLetter with
      | '\x7d' :: _ => some ⟨name, none⟩
      | '=' :: rest =>
        if '\x7d' ∈ rest then some ⟨name, some (rest.takeWhile (· ≠ '\x7d'))⟩ else none
      | _ => none
  | _ => none

/-- A piece of a template. -/
inductive Piece where
  | literal (c : Char)
  | placeholder (p : Placeholder)
  deriving DecidableEq, Repr

/-- A piece as it is written. -/
def Piece.text : Piece → List Char
  | .literal c => [c]
  | .placeholder p => p.text

/-- The pieces of a template, from left to right. -/
def pieces : List Char → List Piece
  | [] => []
  | c :: cs =>
    match placeholderAt (c :: cs) with
    | some p => .placeholder p :: pieces ((c :: cs).drop p.text.length)
    | none => .literal c :: pieces cs
termination_by cs => cs.length
decreasing_by
  · have := p.length_text_pos
    simp only [List.length_drop, List.length_cons]
    omega
  · simp

/-- What a name can tell about its segment. -/
structure Naming where
  title : String
  start : Time.Instant
  /-- The number of the name, counted from one. -/
  count : Nat

/-- The numbers that a counter of 64 bits tells apart.  Behind the last one it starts again
from zero. -/
def counterSize : Nat := 18446744073709551616

/-- The format of a date without one of its own. -/
def plainDate : List Char := "%Y%m%dT%H%M%S".toList

/-- What takes the place of a placeholder. -/
def Placeholder.expand (n : Naming) (p : Placeholder) : Except Breakdown (List Char) :=
  if p.name = "date".toList then
    match Time.formatItems? (p.argument.getD plainDate) with
    | none => .ok p.text
    | some items =>
      match Time.writeItems n.start items with
      | some text => .ok text
      | none => .error .unprintableDate
  else if p.name = "count".toList then .ok (Decimal.digits (n.count % counterSize))
  else if p.name = "title".toList then .ok n.title.toList
  else .ok p.text

/-- What takes the place of a piece. -/
def Piece.expand (n : Naming) : Piece → Except Breakdown (List Char)
  | .literal c => .ok [c]
  | .placeholder p => p.expand n

/-- The characters that no file name should hold, apart from control characters. -/
def reserved : List Char := ['/', '\\', ':', '*', '?', '"', '<', '>', '|']

/-- A character, or an underscore in place of an unsafe one. -/
def safe (c : Char) : Char := if c ∈ reserved ∨ Text.isControl c then '_' else c

/-- A name with an extension, the usual one if it has none of its own. -/
def withExtension (name : List Char) : List Char :=
  if (Path.extension? name).isSome then name else name ++ ['.', 't', 's']

/-- The file name that a template stands for. -/
def fileName (template : String) (n : Naming) : Except Breakdown String := do
  let texts ← (pieces template.toList).mapM (Piece.expand n)
  return String.ofList (withExtension (texts.flatten.map safe))

/-- What a name is asked for: a template, and the stream and the period to tell about. -/
structure Request where
  template : String
  title : String
  start : Time.Instant
  deriving DecidableEq, Repr

/-- Makes names, and counts them. -/
structure Generator where
  /-- The number of names made so far. -/
  made : Nat := 0
  deriving DecidableEq, Repr

namespace Generator

/-- Make a name.  It is counted even if it cannot be printed. -/
def generate (g : Generator) (r : Request) : Except Breakdown String × Generator :=
  (fileName r.template ⟨r.title, r.start, g.made + 1⟩, ⟨g.made + 1⟩)

/-- Make several names, one after the other. -/
def generateAll (g : Generator) : List Request → List (Except Breakdown String) × Generator
  | [] => ([], g)
  | r :: rs =>
    let (answer, g) := g.generate r
    let (answers, g) := g.generateAll rs
    (answer :: answers, g)

end Generator

/-- A file name with a number before its extension, for when the name is taken. -/
def numbered (name : List Char) (n : Nat) : List Char :=
  match Path.splitName name with
  | (stem, some extension) => stem ++ '-' :: Decimal.digits n ++ '.' :: extension
  | (stem, none) => stem ++ '-' :: Decimal.digits n

end Segment
end StreamCatalog
