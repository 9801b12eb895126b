import StreamCatalog.Decimal.Reader

/-!
# Tokens of geometry text

Geometry text is words, numbers, parentheses and commas.  A run of other
characters that starts like a number is a number token, and if its text denotes
no number the token is kept as `badNumber`: the fault is reported where the
grammar reaches it, which may be after another fault or never.  A NUL character
where a token should start reads as an end of the text, once; the grammar sees it
as `halt`.
-/

namespace StreamCatalog
namespace Wkt

/-- A token of geometry text. -/
inductive Token where
  | opening
  | closing
  | comma
  | number (x : Float)
  | badNumber
  | word (cs : List Char)
  | halt
  deriving DecidableEq, Repr

/-- The four characters that separate tokens and mean nothing. -/
def isSpace (c : Char) : Bool := c = ' ' || c = '\n' || c = '\r' || c = '\t'

/-- Does a word or number end before this character? -/
def isDelimiter (c : Char) : Bool := isSpace c || c = '(' || c = ')' || c = ',' || c = '\x00'

/-- Can a number token start with this character? -/
def startsNumber (c : Char) : Bool := Decimal.isDigit c || c = '.' || c = '-' || c = '+'

/-- The token that a run of characters makes.  A plus sign in front of a number
is dropped before the number is read. -/
def Token.ofRun (c : Char) (run : List Char) : Token :=
  if startsNumber c then
    match Decimal.read? (if c = '+' then run else c :: run) with
    | some x => .number x
    | none => .badNumber
  else .word (c :: run)

/-- The tokens of a text. -/
def tokens : List Char → List Token
  | [] => []
  | c :: cs =>
    if isSpace c then tokens cs
    else if c = '\x00' then .halt :: tokens cs
    else if c = '(' then .opening :: tokens cs
    else if c = ')' then .closing :: tokens cs
    else if c = ',' then .comma :: tokens cs
    else
      Token.ofRun c (cs.takeWhile (!isDelimiter ·)) :: tokens (cs.dropWhile (!isDelimiter ·))
termination_by cs => cs.length
decreasing_by
  all_goals simp only [List.length_cons]
  all_goals first
    | omega
    | exact Nat.lt_succ_of_le (List.dropWhile_suffix _).length_le

end Wkt
end StreamCatalog
