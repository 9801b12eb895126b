import StreamCatalog.Text.Hex
import StreamCatalog.Text.Split

/-!
# Identifiers

An identifier is a number of 128 bits.  It is written as thirty-two hexadecimal
digits in five groups.  It may also be read without hyphens, in braces, or behind
`urn:uuid:` in any case.
-/

namespace StreamCatalog
namespace Catalog

/-- The identifier of a record. -/
structure Id where
  number : Nat
  fits : number < Nat.pow 16 32
  deriving DecidableEq, Repr

namespace Id

/-- The digits of an identifier, without hyphens. -/
def digits (i : Id) : List Char := Text.hexFixed 32 i.number

/-- The characters of an identifier. -/
def write (i : Id) : List Char :=
  let ds := i.digits
  ds.take 8 ++ '-' :: (ds.drop 8).take 4 ++ '-' :: (ds.drop 12).take 4 ++
    '-' :: (ds.drop 16).take 4 ++ '-' :: ds.drop 20

/-- The text of an identifier. -/
def text (i : Id) : String := String.ofList i.write

/-- The identifier with these digits. -/
def ofDigits? (ds : List Char) : Option Id :=
  if ds.length = 32 then
    match Text.readHex? ds with
    | some n => if h : n < Nat.pow 16 32 then some ⟨n, h⟩ else none
    | none => none
  else none

/-- The identifier in five groups. -/
def ofGroups? (cs : List Char) : Option Id :=
  let groups := Text.split '-' cs
  if groups.map List.length = [8, 4, 4, 4, 12] then ofDigits? groups.flatten else none

/-- The words in front of an identifier in one of its forms. -/
def scheme : List Char := "urn:uuid:".toList

/-- The identifier that a text denotes. -/
def read? (cs : List Char) : Option Id :=
  if cs.length = 32 then ofDigits? cs
  else if cs.length = 38 && cs.head? = some '\x7b' && cs.getLast? = some '\x7d' then
    ofGroups? (cs.drop 1).dropLast
  else if cs.length = 45 && (cs.take 9).map Char.toLower = scheme then ofGroups? (cs.drop 9)
  else ofGroups? cs

end Id

end Catalog
end StreamCatalog
