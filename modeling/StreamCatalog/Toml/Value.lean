/-!
# Values of a configuration document

A document is a table whose values may again be tables.  A table can be written in
several places, and whether a later place may still add to it depends on how the
earlier ones were written.  So every table and every array remembers its origin:

* written between brackets or braces, it is complete;
* made by a header of its own, it may be entered by longer headers but not reopened;
* implied by a longer header, it may still get its own header;
* made by a dotted key, it may be extended by dotted keys of the same table.

`insert` and `openTable` are the two ways to add to a document, and both fail rather
than define anything twice.
-/

namespace StreamCatalog
namespace Toml

/-- How a table or an array was written. -/
inductive Origin where
  | inPlace
  | header
  | implied
  | dotted
  deriving DecidableEq, Repr

/-- A value of a document.  Dates and times are told apart from other values but
their content is not kept. -/
inductive Value where
  | string (s : String)
  | integer (n : Int)
  | float (x : Float)
  | boolean (b : Bool)
  | moment
  | array (origin : Origin) (items : List Value)
  | table (origin : Origin) (entries : List (String × Value))
  deriving Inhabited

/-- The entries of a table. -/
abbrev Entries : Type := List (String × Value)

/-- Set the value of a key, at its old place if it has one. -/
def Entries.put (k : String) (v : Value) : Entries → Entries
  | [] => [(k, v)]
  | (k', v') :: es => if k' = k then (k, v) :: es else (k', v') :: Entries.put k v es

/-- Change the table at the end of a path, making missing tables on the way.  Tables
that are complete are not entered, and a dotted key does not enter a table that has
a header.  In an array of tables the last one is meant. -/
def Entries.change (dotted : Bool) (f : Origin → Entries → Option Entries) :
    List String → Origin → Entries → Option Entries
  | [], origin, es => f origin es
  | k :: path, _, es =>
    match es.lookup k with
    | none =>
      let origin := if dotted then .dotted else .implied
      (change dotted f path origin []).map fun inner => es.put k (.table origin inner)
    | some (.table origin inner) =>
      if origin = .inPlace || (dotted && origin = .header) then none
      else (change dotted f path origin inner).map fun inner => es.put k (.table origin inner)
    | some (.array .header items) =>
      match items.getLast? with
      | some (.table _ inner) =>
        (change dotted f path .header inner).map fun inner =>
          es.put k (.array .header (items.dropLast ++ [.table .header inner]))
      | _ => none
    | some _ => none

/-- Add a value under a dotted key.  The last table on the way has to be one that
dotted keys made. -/
def Entries.insert (path : List String) (v : Value) (es : Entries) : Option Entries :=
  match path.getLast? with
  | none => none
  | some k =>
    es.change true (fun origin inner =>
      if path.length > 1 && origin ≠ .dotted then none
      else if (inner.lookup k).isSome then none
      else some (inner.put k v)) path.dropLast .header

/-- Open a table by a header. -/
def Entries.openTable (path : List String) (es : Entries) : Option Entries :=
  match path.getLast? with
  | none => none
  | some k =>
    es.change false (fun _ inner =>
      match inner.lookup k with
      | none => some (inner.put k (.table .header []))
      | some (.table .implied old) => some (inner.put k (.table .header old))
      | some _ => none) path.dropLast .header

/-- Open the next table of an array by a header in double brackets. -/
def Entries.openElement (path : List String) (es : Entries) : Option Entries :=
  match path.getLast? with
  | none => none
  | some k =>
    es.change false (fun _ inner =>
      match inner.lookup k with
      | none => some (inner.put k (.array .header [.table .header []]))
      | some (.array .header items) =>
        some (inner.put k (.array .header (items ++ [.table .header []])))
      | some _ => none) path.dropLast .header

/-- The table of the pairs between braces. -/
def Value.ofPairs (pairs : List (List String × Value)) : Option Value :=
  (pairs.foldlM (fun es p => Entries.insert p.1 p.2 es) ([] : Entries)).map (.table .inPlace)

end Toml
end StreamCatalog
