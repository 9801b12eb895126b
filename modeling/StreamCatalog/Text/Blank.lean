/-!
# Blank characters

Trimming removes the twenty-five characters with the white-space property, not
only the four that programs usually write.  A text is blank if it consists of
nothing else; the empty text is blank.
-/

namespace StreamCatalog
namespace Text

/-- Closed ranges of the white-space characters, ascending and apart. -/
def blankRanges : List (Nat × Nat) :=
  [(0x09, 0x0D), (0x20, 0x20), (0x85, 0x85), (0xA0, 0xA0), (0x1680, 0x1680), (0x2000, 0x200A),
   (0x2028, 0x2029), (0x202F, 0x202F), (0x205F, 0x205F), (0x3000, 0x3000)]

/-- A white-space character. -/
def isBlank (c : Char) : Bool :=
  blankRanges.any fun r => r.1 ≤ c.toNat && c.toNat ≤ r.2

/-- Drop blank characters at the front. -/
def trimLeft (cs : List Char) : List Char := cs.dropWhile isBlank

/-- Drop blank characters at both ends. -/
def trim (cs : List Char) : List Char := (trimLeft (trimLeft cs).reverse).reverse

/-- A text of blank characters only. -/
def allBlank (s : String) : Bool := s.toList.all isBlank

/-- A control character: the two blocks below the space and around `0x80`. -/
def isControl (c : Char) : Bool :=
  c.toNat < 0x20 || (0x7F ≤ c.toNat && c.toNat < 0xA0)

end Text
end StreamCatalog
