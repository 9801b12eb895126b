import StreamCatalog.Decimal.Digits
import StreamCatalog.Json.Basic
import StreamCatalog.Text.Hex
import StreamCatalog.Text.Scan

/-!
# Tokens of structured text

Structured text is made of brackets, commas, colons and values without parts.  Four
blank characters separate tokens and mean nothing.

A code point beyond the sixteen-bit range may be written as two escapes, and only
the two together have a meaning; the text of a string with one of them alone is
missing, but what follows is still read.
-/

namespace StreamCatalog
namespace Json

open Text (Scan)

/-- A token of structured text. -/
inductive Token where
  | openArray
  | closeArray
  | openObject
  | closeObject
  | comma
  | colon
  /-- A value without parts. -/
  | leaf (v : Value)
  deriving Inhabited

/-- The blanks between tokens. -/
def isSpace (c : Char) : Bool := c = ' ' || c = '\n' || c = '\t' || c = '\r'

/-- The number that four hexadecimal digits denote, and what follows them. -/
def fourDigits (cs : List Char) : Option (Scan Nat cs) := do
  let digits ← Scan.front? 3 cs
  let n ← Text.readHex? digits.value
  some (digits.map fun _ => n)

/-- The second of two escapes that belong together. -/
def lowHalf : (cs : List Char) → Option (Scan Nat cs)
  | '\\' :: 'u' :: cs =>
    ((fourDigits cs).filter fun s => 0xDC00 ≤ s.value && s.value ≤ 0xDFFF).map
      fun s => (s.behind 'u').behind '\\'
  | _ => none

/-- The character of an escape with four digits, if it has one, read after the
letter. -/
def codeUnit (cs : List Char) : Option (Scan (Option Char) cs) :=
  match fourDigits cs with
  | none => none
  | some s =>
    if 0xD800 ≤ s.value && s.value ≤ 0xDBFF then
      match lowHalf s.rest with
      | some low =>
        some ⟨some (Char.ofNat (0x10000 + (s.value - 0xD800) * 0x400 + (low.value - 0xDC00))),
          low.rest, Nat.lt_trans low.shorter s.shorter⟩
      | none => some (s.map fun _ => none)
    else if 0xDC00 ≤ s.value && s.value ≤ 0xDFFF then some (s.map fun _ => none)
    else some (s.map fun n => some (Char.ofNat n))

/-- The character of an escape, if it has one, read after the backslash. -/
def escaped : (cs : List Char) → Option (Scan (Option Char) cs)
  | '"' :: cs => some (.one (some '"') _ cs)
  | '\\' :: cs => some (.one (some '\\') _ cs)
  | '/' :: cs => some (.one (some '/') _ cs)
  | 'b' :: cs => some (.one (some '\x08') _ cs)
  | 'f' :: cs => some (.one (some '\x0c') _ cs)
  | 'n' :: cs => some (.one (some '\n') _ cs)
  | 'r' :: cs => some (.one (some '\r') _ cs)
  | 't' :: cs => some (.one (some '\t') _ cs)
  | 'u' :: cs => (codeUnit cs).map (·.behind 'u')
  | _ => none

/-- The characters of a string, read after its opening quote. -/
def stringBody : (cs : List Char) → Option (Scan (List (Option Char)) cs)
  | [] => none
  | c :: cs =>
    if c = '"' then some (.one [] _ cs)
    else if c = '\\' then
      match escaped cs with
      | none => none
      | some e =>
        have := e.shorter
        (stringBody e.rest).map fun s => (e.follow (s.map (e.value :: ·))).behind c
    else if c.toNat < 0x20 then none
    else (stringBody cs).map fun s => (s.map (some c :: ·)).behind c
termination_by cs => cs.length
decreasing_by
  all_goals simp only [List.length_cons]
  all_goals omega

/-- The text of a string's characters, if each of them has one. -/
def textOf (cs : List (Option Char)) : Option String := (cs.mapM id).map String.ofList

/-- Can the character begin or continue a number? -/
def isNumeric (c : Char) : Bool :=
  Decimal.isDigit c || c = '-' || c = '+' || c = '.' || c = 'e' || c = 'E'

/-- Is the text a fraction and an exponent, either of which may be missing? -/
def isTail (cs : List Char) : Bool :=
  match cs with
  | '.' :: ds =>
    !(ds.takeWhile Decimal.isDigit).isEmpty && isExponent (ds.dropWhile Decimal.isDigit)
  | cs => isExponent cs
where
  isExponent : List Char → Bool
    | [] => true
    | c :: ds => (c = 'e' || c = 'E') && isDigits (unsigned ds)
  unsigned : List Char → List Char
    | '+' :: ds => ds
    | '-' :: ds => ds
    | ds => ds
  isDigits (ds : List Char) : Bool := !ds.isEmpty && ds.all Decimal.isDigit

/-- The number that a run of characters denotes, read behind its sign. -/
def unsignedOf? (negative : Bool) (body : List Char) : Option Value :=
  let digits := body.takeWhile Decimal.isDigit
  let tail := body.dropWhile Decimal.isDigit
  match digits, Decimal.value? digits with
  | '0' :: _ :: _, _ => none
  | _, none => none
  | _, some n =>
    if tail.isEmpty then
      if negative && n = 0 then some (.number none)
      else some (.whole (if negative then -n else n))
    else if isTail tail then some (.number none)
    else none

/-- The number that a run of characters denotes. -/
def numberOf? : List Char → Option Value
  | '-' :: ds => unsignedOf? true ds
  | ds => unsignedOf? false ds

/-- A word that has to come next, after its first letter. -/
def word (w : List Char) (v : Value) (c : Char) (cs : List Char) : Option (Scan Token (c :: cs)) :=
  if w.isPrefixOf cs then
    some ⟨.leaf v, cs.drop w.length, by
      simp only [List.length_drop, List.length_cons]
      omega⟩
  else none

/-- The token that begins with a character. -/
def token (c : Char) (cs : List Char) : Option (Scan Token (c :: cs)) :=
  match c with
  | '[' => some (.one .openArray _ cs)
  | ']' => some (.one .closeArray _ cs)
  | '\x7b' => some (.one .openObject _ cs)
  | '\x7d' => some (.one .closeObject _ cs)
  | ',' => some (.one .comma _ cs)
  | ':' => some (.one .colon _ cs)
  | '"' => (stringBody cs).map fun s => (s.map fun b => .leaf (.string (textOf b))).behind '"'
  | 'n' => word ['u', 'l', 'l'] .null _ cs
  | 't' => word ['r', 'u', 'e'] (.boolean true) _ cs
  | 'f' => word ['a', 'l', 's', 'e'] (.boolean false) _ cs
  | c =>
    if isNumeric c then
      (numberOf? (c :: cs.takeWhile isNumeric)).map fun v =>
        ⟨.leaf v, cs.dropWhile isNumeric,
          Nat.lt_succ_of_le (Text.length_dropWhile_le isNumeric cs)⟩
    else none

/-- The tokens of a text, up to the first place where none can be read. -/
def tokens : List Char → Option (List Token)
  | [] => some []
  | c :: cs =>
    if isSpace c then tokens cs
    else
      match token c cs with
      | none => none
      | some t =>
        have := t.shorter
        (tokens t.rest).map (t.value :: ·)
termination_by cs => cs.length
decreasing_by
  all_goals simp only [List.length_cons] at *
  all_goals omega

end Json
end StreamCatalog
